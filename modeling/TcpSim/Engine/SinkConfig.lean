import TcpSim.Engine.Framer

/-! Sink configuration, queue items and the bytes written for a record. -/

set_option autoImplicit false

namespace TcpSim.Engine

inductive SinkFormat where
  | delimited
  | jsonl
  deriving DecidableEq, Repr

/-- A sink configuration that passed `__post_init__`. -/
structure SinkConfig where
  enabled : Bool := false
  path : Option String := none
  format : SinkFormat := .jsonl
  recordSeparator : Bytes := [0x0A]
  rotationMaxBytes : Nat := 100 * 1024 * 1024
  rotationBackupCount : Nat := 5
  queueHighWatermarkBytes : Nat := 8 * 1024 * 1024
  queueLowWatermarkBytes : Nat := 2 * 1024 * 1024
  queueMaxBytes : Nat := 32 * 1024 * 1024
  rotation_pos : 0 < rotationMaxBytes := by decide
  low_lt_high : queueLowWatermarkBytes < queueHighWatermarkBytes := by decide
  high_le_max : queueHighWatermarkBytes ≤ queueMaxBytes := by decide

/-- The constructor arguments before they are checked; the numbers are Python integers. -/
structure SinkConfigArgs where
  enabled : Bool := false
  path : Option String := none
  format : SinkFormat := .jsonl
  recordSeparator : Bytes := [0x0A]
  rotationMaxBytes : Int := 100 * 1024 * 1024
  rotationBackupCount : Int := 5
  queueHighWatermarkBytes : Int := 8 * 1024 * 1024
  queueLowWatermarkBytes : Int := 2 * 1024 * 1024
  queueMaxBytes : Int := 32 * 1024 * 1024

/-- `__post_init__`, with the message of each `ValueError`. -/
def SinkConfigArgs.postInit (args : SinkConfigArgs) : Except String SinkConfig :=
  if rotation : args.rotationMaxBytes ≤ 0 then
    .error "rotation_max_bytes must be > 0"
  else if _backups : args.rotationBackupCount < 0 then
    .error "rotation_backup_count must be >= 0"
  else if low : args.queueLowWatermarkBytes < 0 then
    .error "queue_low_watermark_bytes must be >= 0"
  else if high : args.queueHighWatermarkBytes ≤ args.queueLowWatermarkBytes then
    .error "queue_high_watermark_bytes must be > queue_low_watermark_bytes"
  else if cap : args.queueMaxBytes < args.queueHighWatermarkBytes then
    .error "queue_max_bytes must be >= queue_high_watermark_bytes"
  else
    .ok {
      enabled := args.enabled
      path := args.path
      format := args.format
      recordSeparator := args.recordSeparator
      rotationMaxBytes := args.rotationMaxBytes.toNat
      rotationBackupCount := args.rotationBackupCount.toNat
      queueHighWatermarkBytes := args.queueHighWatermarkBytes.toNat
      queueLowWatermarkBytes := args.queueLowWatermarkBytes.toNat
      queueMaxBytes := args.queueMaxBytes.toNat
      rotation_pos := by omega
      low_lt_high := by omega
      high_le_max := by omega
    }

/-- `path` when it is truthy: neither `None` nor empty. -/
def SinkConfig.truthyPath (cfg : SinkConfig) : Option String :=
  cfg.path.filter (· ≠ "")

theorem SinkConfig.truthyPath_eq_some {cfg : SinkConfig} {base : String} :
    cfg.truthyPath = some base ↔ cfg.path = some base ∧ base ≠ "" := by
  simp [truthyPath, Option.filter_eq_some_iff]

structure QueueItem where
  record : FramedRecord
  src : String
  /-- Lifecycle sentinel: the drain loop exits on it. -/
  stop : Bool := false
  deriving DecidableEq, Repr

/-- The sentinel that `stop` puts on the queue. -/
def QueueItem.stopSentinel : QueueItem := { record := { payload := [] }, src := "", stop := true }

/-- The item with which `configure` wakes the drain loop. -/
def QueueItem.wakeUp : QueueItem := { record := { payload := [] }, src := "" }

def QueueItem.size (item : QueueItem) : Nat := item.record.payload.length

/-! ## JSON text -/

def ascii (text : String) : Bytes := text.toList.map fun c => c.toNat.toUInt8

def hexDigit (digit : Nat) : UInt8 :=
  if digit < 10 then (0x30 + digit).toUInt8 else (0x61 + (digit - 10)).toUInt8

/-- A backslash, `u` and four lower-case hexadecimal digits. -/
def jsonUnicodeEscape (unit : Nat) : Bytes :=
  [0x5C, 0x75, hexDigit (unit / 0x1000 % 0x10), hexDigit (unit / 0x100 % 0x10),
    hexDigit (unit / 0x10 % 0x10), hexDigit (unit % 0x10)]

/-- One character as `json.dumps` writes it with `ensure_ascii`. -/
def jsonEscapeChar (c : Char) : Bytes :=
  let code := c.toNat
  if code = 0x22 then [0x5C, 0x22]
  else if code = 0x5C then [0x5C, 0x5C]
  else if code = 0x0A then [0x5C, 0x6E]
  else if code = 0x0D then [0x5C, 0x72]
  else if code = 0x09 then [0x5C, 0x74]
  else if code = 0x0C then [0x5C, 0x66]
  else if code = 0x08 then [0x5C, 0x62]
  else if 0x20 ≤ code ∧ code ≤ 0x7E then [code.toUInt8]
  else if code < 0x10000 then jsonUnicodeEscape code
  else
    -- A surrogate pair.
    jsonUnicodeEscape (0xD800 + (code - 0x10000) / 0x400) ++
      jsonUnicodeEscape (0xDC00 + (code - 0x10000) % 0x400)

def jsonString (text : String) : Bytes := [0x22] ++ text.toList.flatMap jsonEscapeChar ++ [0x22]

/-- The JSON values that occur in a sink record. -/
inductive JsonValue where
  | string (text : String)
  | number (value : Nat)
  | bool (value : Bool)
  deriving DecidableEq, Repr

def JsonValue.dumps : JsonValue → Bytes
  | .string text => jsonString text
  | .number value => ascii (toString value)
  | .bool value => ascii (if value then "true" else "false")

/-- `json.dumps(obj, separators=(",", ":"))` of an object, keys in insertion order. -/
def jsonDumps (fields : List (String × JsonValue)) : Bytes :=
  [0x7B] ++ List.intercalate [0x2C]
    (fields.map fun field => jsonString field.1 ++ [0x3A] ++ field.2.dumps) ++ [0x7D]

/-! ## Base64 -/

def base64Digit (value : Nat) : Char :=
  if value < 26 then Char.ofNat (0x41 + value)
  else if value < 52 then Char.ofNat (0x61 + (value - 26))
  else if value < 62 then Char.ofNat (0x30 + (value - 52))
  else if value = 62 then '+'
  else '/'

/-- `base64.b64encode`, as text. -/
def b64encode : Bytes → List Char
  | [] => []
  | [a] =>
      [base64Digit (a.toNat / 4), base64Digit (a.toNat % 4 * 16), '=', '=']
  | [a, b] =>
      [base64Digit (a.toNat / 4), base64Digit (a.toNat % 4 * 16 + b.toNat / 16),
        base64Digit (b.toNat % 16 * 4), '=']
  | a :: b :: c :: rest =>
      base64Digit (a.toNat / 4) :: base64Digit (a.toNat % 4 * 16 + b.toNat / 16) ::
        base64Digit (b.toNat % 16 * 4 + c.toNat / 64) :: base64Digit (c.toNat % 64) ::
        b64encode rest

/-! ## Record encoding -/

/-- `payload.decode("utf-8")`; `none` is the `UnicodeDecodeError`. -/
def decodeUtf8 (payload : Bytes) : Option String := String.fromUTF8? ⟨payload.toArray⟩

/-- The object of a JSON Lines record; `now` is the reading of `_now_iso`. -/
def recordObject (item : QueueItem) (now : String) : List (String × JsonValue) :=
  match decodeUtf8 item.record.payload with
  | some text =>
      [("ts", .string now), ("src", .string item.src), ("bytes_len", .number item.size),
        ("payload", .string text), ("truncated", .bool item.record.truncated)]
  | none =>
      [("ts", .string now), ("src", .string item.src), ("bytes_len", .number item.size),
        ("payload", .string (String.ofList (b64encode item.record.payload))),
        ("truncated", .bool item.record.truncated), ("encoding", .string "base64")]

/-- `_encode` under the configuration `cfg`. -/
def encode (cfg : SinkConfig) (now : String) (item : QueueItem) : Bytes :=
  match cfg.format with
  | .delimited => item.record.payload ++ cfg.recordSeparator
  | .jsonl => jsonDumps (recordObject item now) ++ [0x0A]

/-- Every accepted configuration has its arguments' values, in the checked order. -/
theorem SinkConfigArgs.postInit_ok_iff {args : SinkConfigArgs} :
    (∃ cfg, args.postInit = .ok cfg) ↔
      0 < args.rotationMaxBytes ∧ 0 ≤ args.rotationBackupCount ∧
        0 ≤ args.queueLowWatermarkBytes ∧
        args.queueLowWatermarkBytes < args.queueHighWatermarkBytes ∧
        args.queueHighWatermarkBytes ≤ args.queueMaxBytes := by
  unfold SinkConfigArgs.postInit
  split
  · simp; omega
  · split
    · simp; omega
    · split
      · simp; omega
      · split
        · simp; omega
        · split
          · simp; omega
          · simp; omega

end TcpSim.Engine
