import TcpSim.Config.JsonText
import TcpSim.Lib.TextFiles

/-! Loading and saving a configuration file. The JSON decoder and encoder are parameters, the
decoder with all the ways in which it can raise. -/

set_option autoImplicit false

namespace TcpSim.Config

/-- What `json.loads` raises on a text. -/
inductive LoadsError where
  | jsonDecodeError (message : String)
  /-- An integer with more digits than the interpreter converts. -/
  | valueError (message : String)
  /-- Nested too deeply. -/
  | recursionError

/-- What `load_config_file` raises. -/
inductive LoadError where
  | unicodeDecodeError
  | valueError (message : String)
  | recursionError
  deriving DecidableEq, Repr

structure ConfigLoadResult where
  config : Members
  warnings : List String
  usedDefaults : Bool
  migrated : Bool
  sourceVersion : Option Int

/-- The result where the file cannot be used. -/
def defaultsWith (warning : String) : ConfigLoadResult where
  config := loadDefaultConfig
  warnings := [warning]
  usedDefaults := true
  migrated := false
  sourceVersion := none

/-- The part of `load_config_file` after `json.loads` has returned. -/
def loadPayload (rawPayload : Json) : ConfigLoadResult :=
  match rawPayload with
  | .object raw =>
      match migrateConfig raw with
      | .error error => defaultsWith s!"{error.message} Falling back to defaults."
      | .ok migration =>
          { config := migration.config
            warnings := migration.warnings
            usedDefaults := false
            migrated := migration.migrated
            sourceVersion := some migration.sourceVersion }
  | _ => defaultsWith "Config payload must be a JSON object. Using defaults."

section Codec

variable (loads : String → Except LoadsError Json) (dumps : Json → String)

def loadConfigFile (files : String → Option (List UInt8)) (path : String) :
    Except LoadError ConfigLoadResult :=
  match files path with
  | none => .ok (defaultsWith s!"Config file not found: {path}. Using defaults.")
  | some bytes =>
      match TextFiles.read bytes with
      | none => .error .unicodeDecodeError
      | some text =>
          match loads text with
          | .ok rawPayload => .ok (loadPayload rawPayload)
          | .error (.jsonDecodeError message) =>
              .ok (defaultsWith s!"Invalid JSON in config file: {message}. Using defaults.")
          -- Neither has a handler.
          | .error (.valueError message) => .error (.valueError message)
          | .error .recursionError => .error .recursionError

def saveConfigFile (separator : TextFiles.LineSeparator) (files : String → Option (List UInt8))
    (path : String) (config : Members) : String → Option (List UInt8) :=
  let normalized := normalizeConfig config
  Function.update files path
    (some (TextFiles.write separator (dumps (.object normalized) ++ "\n")))

/-! ## Usable configurations -/

/-- The bytes are a JSON object in UTF-8 whose version, if it has one, is 0, 1 or 2. -/
def SupportedPayload (bytes : List UInt8) : Prop :=
  ∃ text raw, TextFiles.read bytes = some text ∧ loads text = .ok (.object raw) ∧
    (raw.get? "schema_version" = none ∨
      ∃ version, raw.get? "schema_version" = some (.int version) ∧ 0 ≤ version ∧ version ≤ 2)

/-- Loading returns a complete configuration, and warns that it is the default one exactly where
the file is not supported. -/
def LoadsUsable (files : String → Option (List UInt8)) (path : String) (bytes : List UInt8) : Prop :=
  ∃ result, loadConfigFile loads files path = .ok result ∧
    (result.usedDefaults = true ∧ result.warnings ≠ [] ↔ ¬SupportedPayload loads bytes) ∧
    (result.usedDefaults = true ↔ ¬SupportedPayload loads bytes) ∧
    Complete result.config

/-- The bytes are UTF-8, the decoder does not raise but a `JSONDecodeError`, and the version of
an object is not a Boolean. -/
def Manageable (bytes : List UInt8) : Prop :=
  ∃ text, TextFiles.read bytes = some text ∧
    ((∃ message, loads text = .error (.jsonDecodeError message)) ∨
      ∃ rawPayload, loads text = .ok rawPayload ∧
        ∀ raw, rawPayload = .object raw → ∀ flag, raw.get? "schema_version" ≠ some (.bool flag))

end Codec

theorem defaultsWith_complete (warning : String) : Complete (defaultsWith warning).config :=
  defaultConfig_complete

theorem loadPayload_complete (rawPayload : Json) : Complete (loadPayload rawPayload).config := by
  unfold loadPayload
  split
  · split
    · exact defaultsWith_complete _
    next migration ran =>
        obtain ⟨_, members, normalized⟩ := migrateConfig_ok ran
        rw [normalized]
        exact normalizeConfig_complete members
  · exact defaultsWith_complete _

theorem loadPayload_warns {rawPayload : Json} (defaults : (loadPayload rawPayload).usedDefaults = true) :
    (loadPayload rawPayload).warnings ≠ [] := by
  unfold loadPayload at defaults ⊢
  split at defaults
  next raw =>
      cases migrated : migrateConfig raw with
      | error error => exact List.cons_ne_nil _ _
      | ok migration =>
          rw [migrated] at defaults
          cases defaults
  · exact List.cons_ne_nil _ _

/-- A payload is used exactly where it is an object of one of the three versions. -/
theorem loadPayload_usedDefaults_iff (rawPayload : Json) :
    (loadPayload rawPayload).usedDefaults = true ↔
      ¬∃ raw version, rawPayload = .object raw ∧ declaredVersion raw = some version ∧
        0 ≤ version ∧ version ≤ 2 := by
  cases rawPayload with
  | object raw =>
      cases migrated : migrateConfig raw with
      | error error =>
          simp only [loadPayload, migrated, defaultsWith, true_iff]
          intro accepted
          obtain ⟨_, version, same, declared, known⟩ := accepted
          cases same
          obtain ⟨migration, ran, _⟩ := migrateConfig_accepts declared known
          cases migrated.symm.trans ran
      | ok migration =>
          obtain ⟨⟨version, declared, known⟩, _⟩ := migrateConfig_ok migrated
          simp only [loadPayload, migrated, Bool.false_eq_true, false_iff, not_not]
          exact ⟨raw, version, rfl, declared, known⟩
  | _ => simp [loadPayload, defaultsWith]

/-- Where the version is not a Boolean, the declared versions are the ones written. -/
theorem declaredVersion_iff {raw : Members}
    (notFlag : ∀ flag, raw.get? "schema_version" ≠ some (.bool flag)) {version : Int} :
    declaredVersion raw = some version ↔
      raw.get? "schema_version" = none ∧ version = 0 ∨
        raw.get? "schema_version" = some (.int version) := by
  unfold declaredVersion
  cases found : raw.get? "schema_version" with
  | none => simp [Json.asInt?, eq_comm]
  | some value =>
      cases value with
      | bool flag => exact absurd found (notFlag flag)
      | _ => simp [Json.asInt?]

section Codec

variable {loads : String → Except LoadsError Json}

theorem loadConfigFile_of_text {files : String → Option (List UInt8)} {path : String}
    {bytes : List UInt8} {text : String} (found : files path = some bytes)
    (decoded : TextFiles.read bytes = some text) :
    loadConfigFile loads files path =
      match loads text with
      | .ok rawPayload => .ok (loadPayload rawPayload)
      | .error (.jsonDecodeError message) =>
          .ok (defaultsWith s!"Invalid JSON in config file: {message}. Using defaults.")
      | .error (.valueError message) => .error (.valueError message)
      | .error .recursionError => .error .recursionError := by
  simp only [loadConfigFile, found, decoded]

private theorem supportedPayload_iff {bytes : List UInt8} {text : String} {rawPayload : Json}
    (decoded : TextFiles.read bytes = some text) (parsed : loads text = .ok rawPayload)
    (notFlag : ∀ raw, rawPayload = .object raw →
      ∀ flag, raw.get? "schema_version" ≠ some (.bool flag)) :
    SupportedPayload loads bytes ↔
      ∃ raw version, rawPayload = .object raw ∧ declaredVersion raw = some version ∧
        0 ≤ version ∧ version ≤ 2 := by
  constructor
  · intro supported
    obtain ⟨_, raw, sameText, object, versions⟩ := supported
    cases decoded.symm.trans sameText
    cases parsed.symm.trans object
    rcases versions with absent | ⟨version, written, known⟩
    · exact ⟨raw, 0, rfl, (declaredVersion_iff (notFlag raw rfl)).mpr (.inl ⟨absent, rfl⟩), by decide⟩
    · exact ⟨raw, version, rfl, (declaredVersion_iff (notFlag raw rfl)).mpr (.inr written), known⟩
  · intro accepted
    obtain ⟨raw, version, rfl, declared, known⟩ := accepted
    refine ⟨text, raw, decoded, parsed, ?_⟩
    rcases (declaredVersion_iff (notFlag raw rfl)).mp declared with ⟨absent, _⟩ | written
    · exact .inl absent
    · exact .inr ⟨version, written, known⟩

private theorem not_supported_of_error {bytes : List UInt8} {text : String} {error : LoadsError}
    (decoded : TextFiles.read bytes = some text) (raised : loads text = .error error) :
    ¬SupportedPayload loads bytes := by
  intro supported
  obtain ⟨_, raw, sameText, object, _⟩ := supported
  cases decoded.symm.trans sameText
  cases raised.symm.trans object

/-- `true` and `false` pass for the versions 1 and 0. -/
theorem loadPayload_of_flag {raw : Members} {flag : Bool}
    (written : raw.get? "schema_version" = some (.bool flag)) :
    (loadPayload (.object raw)).usedDefaults = false := by
  have declared : declaredVersion raw = some (if flag then 1 else 0) := by
    simp [declaredVersion, written, Json.asInt?]
  apply eq_false_of_ne_true
  intro defaults
  exact (loadPayload_usedDefaults_iff _).mp defaults
    ⟨raw, _, rfl, declared, by cases flag <;> decide⟩

private theorem not_supported_of_flag {bytes : List UInt8} {text : String} {raw : Members} {flag : Bool}
    (decoded : TextFiles.read bytes = some text) (parsed : loads text = .ok (.object raw))
    (written : raw.get? "schema_version" = some (.bool flag)) : ¬SupportedPayload loads bytes := by
  intro supported
  obtain ⟨_, other, sameText, object, versions⟩ := supported
  cases decoded.symm.trans sameText
  cases parsed.symm.trans object
  simp [written] at versions

/-- Loading returns a usable configuration exactly where the bytes are UTF-8, the JSON decoder
raises no other error than the one that is handled, and the version is not a Boolean. -/
theorem loads_usable_iff {files : String → Option (List UInt8)} {path : String}
    {bytes : List UInt8} (found : files path = some bytes) :
    LoadsUsable loads files path bytes ↔ Manageable loads bytes := by
  constructor
  · intro usable
    obtain ⟨result, ran, _, defaults, _⟩ := usable
    cases decoded : TextFiles.read bytes with
    | none =>
        simp only [loadConfigFile, found, decoded] at ran
        cases ran
    | some text =>
        rw [loadConfigFile_of_text found decoded] at ran
        refine ⟨text, decoded, ?_⟩
        cases parsed : loads text with
        | error error =>
            rw [parsed] at ran
            cases error with
            | jsonDecodeError message => exact .inl ⟨message, rfl⟩
            | valueError message => cases ran
            | recursionError => cases ran
        | ok rawPayload =>
            rw [parsed] at ran
            cases ran
            refine .inr ⟨rawPayload, rfl, ?_⟩
            rintro raw rfl flag written
            have used := defaults.mpr (not_supported_of_flag decoded parsed written)
            rw [loadPayload_of_flag written] at used
            cases used
  · intro manageable
    obtain ⟨text, decoded, ⟨message, raised⟩ | ⟨rawPayload, parsed, notFlag⟩⟩ := manageable
    · have unsupported := not_supported_of_error decoded raised
      refine ⟨_, by rw [loadConfigFile_of_text found decoded, raised], ?_, ?_,
        defaultsWith_complete _⟩
      · simp [defaultsWith, unsupported]
      · simp [defaultsWith, unsupported]
    · have used := (loadPayload_usedDefaults_iff rawPayload).trans
        (not_congr (supportedPayload_iff decoded parsed notFlag)).symm
      refine ⟨_, by rw [loadConfigFile_of_text found decoded, parsed], ?_, used,
        loadPayload_complete rawPayload⟩
      rw [← used]
      exact and_iff_left_of_imp loadPayload_warns

end Codec

/-- The file `null`. -/
theorem loads_usable_null :
    LoadsUsable (fun _ => .ok .null)
        (Function.update (fun _ => none) "config.json" (some [0x6E, 0x75, 0x6C, 0x6C])) "config.json"
        [0x6E, 0x75, 0x6C, 0x6C] ↔
      Manageable (fun _ => .ok .null) [0x6E, 0x75, 0x6C, 0x6C] :=
  loads_usable_iff (Function.update_self _ _ _)

/-- A byte that is in no text: the `UnicodeDecodeError` leaves `load_config_file`. -/
theorem invalid_utf8_not_usable : ¬∃ loads files path,
    files path = some [0xFF] ∧ LoadsUsable loads files path [0xFF] := by
  rintro ⟨loads, files, path, found, result, ran, _⟩
  have undecodable : TextFiles.read [0xFF] = none := by decide +kernel
  simp only [loadConfigFile, found, undecodable] at ran
  cases ran

/-! ## Saving and loading -/

section Codec

variable {loads : String → Except LoadsError Json} {dumps : Json → String}

/-- What is saved is loaded as its normalization, and saving that again changes nothing. The
encoder writes control characters as escapes, and the decoder inverts it. -/
theorem save_load_round_trip (separator : TextFiles.LineSeparator)
    (files : String → Option (List UInt8)) (path : String) {config : Members}
    (noReturn : '\r' ∉ (dumps (.object (normalizeConfig config))).toList)
    (inverts : loads (dumps (.object (normalizeConfig config)) ++ "\n") =
      .ok (.object (normalizeConfig config))) :
    ∃ result, loadConfigFile loads (saveConfigFile dumps separator files path config) path =
        .ok result ∧
      result.usedDefaults = false ∧ result.migrated = false ∧
      result.config = normalizeConfig config ∧
      normalizeConfig (normalizeConfig config) = normalizeConfig config ∧
      saveConfigFile dumps separator (saveConfigFile dumps separator files path config) path
        result.config = saveConfigFile dumps separator files path config := by
  have readBack : TextFiles.read
      (TextFiles.write separator (dumps (.object (normalizeConfig config)) ++ "\n")) =
        some (dumps (.object (normalizeConfig config)) ++ "\n") := by
    apply TextFiles.read_write
    rw [String.toList_append, List.mem_append, not_or]
    exact ⟨noReturn, by decide⟩
  refine ⟨⟨normalizeConfig config, [], false, false, some 2⟩, ?_, rfl, rfl, rfl,
    normalizeConfig_idem config, ?_⟩
  · have saved : saveConfigFile dumps separator files path config path = some
        (TextFiles.write separator (dumps (.object (normalizeConfig config)) ++ "\n")) :=
      Function.update_self _ _ _
    rw [loadConfigFile_of_text saved readBack, inverts]
    simp only [loadPayload, migrateConfig_normalized]
  · simp only [saveConfigFile, normalizeConfig_idem, Function.update_idem]

end Codec

/-- The decoder on the text of one saved configuration. -/
def loadsSaved (config : Members) (text : String) : Except LoadsError Json :=
  if text = jsonDumps (.object config) ++ "\n" then .ok (.object config)
  else .error (.jsonDecodeError "Expecting value: line 1 column 1 (char 0)")

/-- Saved in a new file and loaded, the configuration is its normalization. -/
def RoundTrips (config : Members) : Prop :=
  ∃ result, loadConfigFile (loadsSaved (normalizeConfig config))
      (saveConfigFile jsonDumps .crlf (fun _ => none) "config.json" config) "config.json" =
        .ok result ∧
    result.usedDefaults = false ∧ result.migrated = false ∧
    result.config = normalizeConfig config ∧
    normalizeConfig (normalizeConfig config) = normalizeConfig config ∧
    saveConfigFile jsonDumps .crlf (saveConfigFile jsonDumps .crlf (fun _ => none) "config.json"
      config) "config.json" result.config =
        saveConfigFile jsonDumps .crlf (fun _ => none) "config.json" config

/-- The version of an older schema, and at each level some of the keys and an unknown one. -/
def partialConfig : Members := .ofList [
  ("schema_version", .int 1),
  ("port", .int 7000),
  ("note", .string "café\r\n"),
  ("receiver", .object (.ofList [
    ("framing_mode", .string "crlf"),
    ("vendor", .array [.int (-1), .null, .float "1e-07"]),
    ("sink", .object (.ofList [
      ("enabled", .bool true),
      ("path", .string "out.log"),
      ("compress", .bool true)]))]))]

def malformedSink : Members := .ofList [
  ("schema_version", .string "two"),
  ("receiver", .object (.ofList [("max_record_bytes", .string "many"), ("sink", .array [.null])]))]

def malformedReceiver : Members := .ofList [("schema_version", .int 7), ("receiver", .bool true)]

theorem save_load_round_trip_partial_malformed :
    RoundTrips partialConfig ∧ RoundTrips malformedSink ∧ RoundTrips malformedReceiver ∧
      (normalizeConfig partialConfig).get? "note" = some (.string "café\r\n") := by
  have partialFloats : (Json.object partialConfig).FloatsInLine := by
    apply Json.FloatsInLine.ofList
    simp only [List.forall_mem_cons]
    refine ⟨.int _, .int _, .string _, .ofList ?_, List.forall_mem_nil _⟩
    simp only [List.forall_mem_cons]
    refine ⟨.string _, .array ?_, .ofList ?_, List.forall_mem_nil _⟩
    · simp only [List.forall_mem_cons]
      exact ⟨.int _, .null, .float (by decide), List.forall_mem_nil _⟩
    · simp only [List.forall_mem_cons]
      exact ⟨.bool _, .string _, .bool _, List.forall_mem_nil _⟩
  have sinkFloats : (Json.object malformedSink).FloatsInLine := by
    apply Json.FloatsInLine.ofList
    simp only [List.forall_mem_cons]
    refine ⟨.string _, .ofList ?_, List.forall_mem_nil _⟩
    simp only [List.forall_mem_cons]
    exact ⟨.string _, .array (by simpa using .null), List.forall_mem_nil _⟩
  have receiverFloats : (Json.object malformedReceiver).FloatsInLine := by
    apply Json.FloatsInLine.ofList
    simp only [List.forall_mem_cons]
    exact ⟨.int _, .bool _, List.forall_mem_nil _⟩
  refine ⟨?_, ?_, ?_, ?_⟩
  · exact save_load_round_trip .crlf _ "config.json" (jsonDumps_noReturn partialFloats) (if_pos rfl)
  · exact save_load_round_trip .crlf _ "config.json" (jsonDumps_noReturn sinkFloats) (if_pos rfl)
  · exact save_load_round_trip .crlf _ "config.json" (jsonDumps_noReturn receiverFloats)
      (if_pos rfl)
  · rw [normalizeConfig_get? _ (by decide) (by decide), partialConfig, FiniteMap.ofList_get?]
    rfl

end TcpSim.Config
