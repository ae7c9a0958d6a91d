import TcpSim.Lib.FiniteMap

/-! The configuration schema: JSON values as `json.loads` returns them, and the defaults. -/

set_option autoImplicit false

namespace TcpSim.Config

/-- A value of JSON. An object is a `dict`: the order of its keys does not matter to `==`. -/
inductive Json where
  | null
  | bool (value : Bool)
  | int (value : Int)
  /-- A `float`, by its `repr`. -/
  | float (text : String)
  | string (text : String)
  | array (items : List Json)
  | object (members : FiniteMap String Json)

abbrev Members := FiniteMap String Json

/-- The value as an integer, where `isinstance(value, int)`: `True` and `False` are 1 and 0. -/
def Json.asInt? : Json → Option Int
  | .int value => some value
  | .bool value => some (if value then 1 else 0)
  | _ => none

/-- The value as a `dict`, where `isinstance(value, dict)`. -/
def Json.asDict? : Json → Option Members
  | .object members => some members
  | _ => none

def currentSchemaVersion : Int := 2

/-! ## Defaults -/

/-- `DEFAULT_RECEIVER_CONFIG["sink"]`. -/
def defaultSinkConfig : Members := .ofList [
  ("enabled", .bool false),
  ("path", .null),
  ("format", .string "jsonl"),
  ("record_separator", .string "\n"),
  ("rotation_max_bytes", .int 104857600),
  ("rotation_backup_count", .int 5),
  ("queue_high_watermark_bytes", .int 8388608),
  ("queue_low_watermark_bytes", .int 2097152),
  ("queue_max_bytes", .int 33554432)]

def defaultReceiverConfig : Members := .ofList [
  ("framing_mode", .string "lf"),
  ("max_record_bytes", .int 1048576),
  ("udp_multicast_group", .null),
  ("udp_multicast_interface", .string "0.0.0.0"),
  ("udp_client_hello_payload", .null),
  ("udp_client_hello_interval_seconds", .float "0.0"),
  ("udp_client_filter_remote_peer", .bool false),
  ("sink", .object defaultSinkConfig)]

def defaultConfig : Members := .ofList [
  ("schema_version", .int currentSchemaVersion),
  ("role", .string "sender"),
  ("mode", .string "server"),
  ("protocol", .string "tcp"),
  ("host", .string "0.0.0.0"),
  ("port", .int 5565),
  ("file", .string "data/sample.csv"),
  ("delimiter", .string ","),
  ("has_header", .bool true),
  ("send_header", .bool true),
  ("rate_features_per_second", .int 10),
  ("loop", .bool true),
  ("timestamp_field", .int 3),
  ("timestamp_format", .string "iso8601"),
  ("replace_timestamp", .bool true),
  ("start_line", .null),
  ("end_line", .null),
  ("first_n_lines", .null),
  ("line_ending", .string "\n"),
  ("log_file", .string "tcp-sim.log"),
  ("log_level", .string "INFO"),
  ("connect_timeout_seconds", .int 10),
  ("send_timeout_seconds", .int 10),
  ("slow_client_timeout_seconds", .int 10),
  ("reconnect_max_backoff_seconds", .int 30),
  ("client_queue_high_watermark_bytes", .int 262144),
  ("client_queue_low_watermark_bytes", .int 131072),
  ("client_queue_hard_cap_bytes", .int 524288),
  ("use_tls", .bool false),
  ("tls_certfile", .null),
  ("tls_keyfile", .null),
  ("tls_ca_file", .null),
  ("tls_verify", .bool true),
  ("tls_server_hostname", .null),
  ("log_rotation_max_bytes", .int 10485760),
  ("log_rotation_backup_count", .int 5),
  ("udp_recipient_mode", .string "reply_to_senders"),
  ("udp_recipient_cache_ttl_seconds", .int 300),
  ("udp_recipient_cache_max_entries", .int 256),
  ("udp_recipient_cache_cleanup_interval_seconds", .int 30),
  ("udp_recipient_cache_eviction_policy", .string "lru"),
  ("receiver", .object defaultReceiverConfig)]

theorem defaultReceiverConfig_sink :
    defaultReceiverConfig.get? "sink" = some (.object defaultSinkConfig) :=
  (FiniteMap.ofList_get? _ _).trans rfl

theorem defaultConfig_schema_version :
    defaultConfig.get? "schema_version" = some (.int currentSchemaVersion) :=
  (FiniteMap.ofList_get? _ _).trans rfl

theorem defaultConfig_role : defaultConfig.get? "role" = some (.string "sender") :=
  (FiniteMap.ofList_get? _ _).trans rfl

theorem defaultConfig_receiver :
    defaultConfig.get? "receiver" = some (.object defaultReceiverConfig) :=
  (FiniteMap.ofList_get? _ _).trans rfl

/-! ## Complete configurations -/

/-- The current version, and every key that has a default at each of the three levels. -/
structure Complete (config : Members) : Prop where
  version : config.get? "schema_version" = some (.int currentSchemaVersion)
  keys : defaultConfig.keys ⊆ config.keys
  receiver : ∃ receiver sink, config.get? "receiver" = some (.object receiver) ∧
    defaultReceiverConfig.keys ⊆ receiver.keys ∧
    receiver.get? "sink" = some (.object sink) ∧ defaultSinkConfig.keys ⊆ sink.keys

theorem defaultConfig_complete : Complete defaultConfig where
  version := defaultConfig_schema_version
  keys := Finset.Subset.refl _
  receiver := ⟨_, _, defaultConfig_receiver, Finset.Subset.refl _, defaultReceiverConfig_sink,
    Finset.Subset.refl _⟩

end TcpSim.Config
