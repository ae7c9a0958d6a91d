import TcpSim.Config.Schema

/-! Normalization and schema migration: every key gets the value it was given or its default. -/

set_option autoImplicit false

namespace TcpSim.Config

/-- A `ConfigError`, with its message. -/
structure ConfigError where
  message : String
  deriving DecidableEq, Repr

def loadDefaultConfig : Members := defaultConfig

/-- The `sink` block of `_normalize_config`, from the override in the receiver block. -/
def normalizeSink (override : Option Json) : Members :=
  match override.bind Json.asDict? with
  | some sink => defaultSinkConfig.update sink
  | none => defaultSinkConfig

/-- The `receiver` block of `_normalize_config`; anything but an object counts as empty. -/
def normalizeReceiver (value : Option Json) : Members :=
  let receiver := (value.bind Json.asDict?).getD .empty
  (defaultReceiverConfig.update receiver).set "sink"
    (.object (normalizeSink (receiver.get? "sink")))

def normalizeConfig (raw : Members) : Members :=
  let merged := (loadDefaultConfig.update raw).set "schema_version" (.int currentSchemaVersion)
  merged.set "receiver" (.object (normalizeReceiver (merged.get? "receiver")))

/-- `if old in migrated and new not in migrated: migrated[new] = migrated.pop(old)`. -/
def renameKey (old new : String) (members : Members) : Members :=
  match members.get? old, members.get? new with
  | some value, none => (members.pop old).set new value
  | _, _ => members

def migrateV0ToV1 (raw : Members) : Members :=
  let migrated := renameKey "rate_fps" "rate_features_per_second" raw
  let migrated := renameKey "max_reconnect_backoff_seconds" "reconnect_max_backoff_seconds" migrated
  migrated.set "schema_version" (.int 1)

/-- `dict.setdefault`. -/
def setDefault (members : Members) (key : String) (value : Json) : Members :=
  match members.get? key with
  | some _ => members
  | none => members.set key value

def migrateV1ToV2 (raw : Members) : Members :=
  let migrated := setDefault raw "role" (.string "sender")
  let migrated := setDefault migrated "receiver" (.object defaultReceiverConfig)
  migrated.set "schema_version" (.int 2)

/-- What `migrate_config` returns. -/
structure Migration where
  config : Members
  warnings : List String
  migrated : Bool
  sourceVersion : Int

def migrateConfig (raw : Members) : Except ConfigError Migration :=
  match ((raw.get? "schema_version").getD (.int 0)).asInt? with
  | none => .error ⟨"schema_version must be an integer"⟩
  | some version =>
      if version = currentSchemaVersion then
        .ok { config := normalizeConfig raw, warnings := [], migrated := false, sourceVersion := version }
      else if version > currentSchemaVersion then
        .error ⟨s!"Unsupported future schema version: {version}. Current supported version is {currentSchemaVersion}."⟩
      else
        let (first, firstWarnings, firstMigrated) :=
          if version = 0 then
            (migrateV0ToV1 raw, ["Migrated config schema from v0 to v1."], true)
          else (raw, [], false)
        -- A float equal to 1 has not passed `isinstance(version_value, int)`.
        let (second, warnings, migratedAny) :=
          if (first.get? "schema_version").bind Json.asInt? = some 1 then
            (migrateV1ToV2 first, firstWarnings ++ ["Migrated config schema from v1 to v2."], true)
          else (first, firstWarnings, firstMigrated)
        if !migratedAny then
          .error ⟨s!"Unsupported legacy schema version: {version}."⟩
        else
          .ok { config := normalizeConfig second, warnings, migrated := true, sourceVersion := version }

/-! ## Normalization -/

theorem normalizeSink_get? (override : Option Json) (key : String) :
    (normalizeSink override).get? key =
      ((override.bind Json.asDict?).bind fun sink => sink.get? key).or
        (defaultSinkConfig.get? key) := by
  unfold normalizeSink
  cases override.bind Json.asDict? with
  | none => rfl
  | some sink => exact FiniteMap.update_get? _ _ _

theorem normalizeReceiver_sink (value : Option Json) :
    (normalizeReceiver value).get? "sink" =
      some (.object (normalizeSink (((value.bind Json.asDict?).getD .empty).get? "sink"))) := by
  simp [normalizeReceiver]

theorem normalizeReceiver_get? (value : Option Json) {key : String} (other : key ≠ "sink") :
    (normalizeReceiver value).get? key =
      (((value.bind Json.asDict?).getD .empty).get? key).or (defaultReceiverConfig.get? key) := by
  simp [normalizeReceiver, Function.update_of_ne other]

theorem normalizeConfig_version (raw : Members) :
    (normalizeConfig raw).get? "schema_version" = some (.int currentSchemaVersion) := by
  simp [normalizeConfig]

theorem normalizeConfig_receiver (raw : Members) :
    (normalizeConfig raw).get? "receiver" =
      some (.object (normalizeReceiver ((raw.get? "receiver").or (defaultConfig.get? "receiver")))) := by
  simp [normalizeConfig, loadDefaultConfig]

theorem normalizeConfig_get? (raw : Members) {key : String} (version : key ≠ "schema_version")
    (receiver : key ≠ "receiver") :
    (normalizeConfig raw).get? key = (raw.get? key).or (defaultConfig.get? key) := by
  simp [normalizeConfig, loadDefaultConfig, Function.update_of_ne version,
    Function.update_of_ne receiver]

/-- A missing receiver block is normalized like the default one. -/
theorem normalizeReceiver_default :
    normalizeReceiver (some (.object defaultReceiverConfig)) = normalizeReceiver none := by
  ext1 key
  by_cases sink : key = "sink"
  · subst sink
    rw [normalizeReceiver_sink, normalizeReceiver_sink]
    refine congrArg (fun members => some (Json.object members)) (FiniteMap.ext fun key => ?_)
    rw [normalizeSink_get?, normalizeSink_get?]
    simp only [Option.bind_some, Json.asDict?, Option.getD_some, defaultReceiverConfig_sink,
      Option.bind_none, Option.getD_none, FiniteMap.empty_get?]
    cases defaultSinkConfig.get? key <;> rfl
  · rw [normalizeReceiver_get? _ sink, normalizeReceiver_get? _ sink]
    simp only [Option.bind_some, Json.asDict?, Option.getD_some, Option.bind_none,
      Option.getD_none, FiniteMap.empty_get?]
    cases defaultReceiverConfig.get? key <;> rfl

theorem normalizeReceiver_idem (value : Option Json) :
    normalizeReceiver (some (.object (normalizeReceiver value))) = normalizeReceiver value := by
  ext1 key
  by_cases sink : key = "sink"
  · subst sink
    rw [normalizeReceiver_sink, normalizeReceiver_sink]
    refine congrArg (fun members => some (Json.object members)) (FiniteMap.ext fun key => ?_)
    rw [normalizeSink_get?]
    simp only [Option.bind_some, Json.asDict?, Option.getD_some, normalizeReceiver_sink]
    rw [normalizeSink_get?, Option.or_assoc, Option.or_self]
  · rw [normalizeReceiver_get? _ sink]
    simp only [Option.bind_some, Json.asDict?, Option.getD_some]
    rw [normalizeReceiver_get? _ sink, Option.or_assoc, Option.or_self]

theorem normalizeConfig_idem (raw : Members) :
    normalizeConfig (normalizeConfig raw) = normalizeConfig raw := by
  ext1 key
  by_cases version : key = "schema_version"
  · rw [version, normalizeConfig_version, normalizeConfig_version]
  by_cases receiver : key = "receiver"
  · rw [receiver, normalizeConfig_receiver, normalizeConfig_receiver, Option.some_or,
      normalizeReceiver_idem]
  · rw [normalizeConfig_get? _ version receiver, normalizeConfig_get? _ version receiver,
      Option.or_assoc, Option.or_self]

private theorem isSome_or_of_mem {base : Members} {key : String} (present : key ∈ base.keys)
    (value : Option Json) : (value.or (base.get? key)).isSome = true := by
  rw [Option.isSome_or, FiniteMap.mem_keys_iff.mp present, Bool.or_true]

theorem normalizeConfig_complete (raw : Members) : Complete (normalizeConfig raw) where
  version := normalizeConfig_version raw
  keys := by
    intro key present
    rw [FiniteMap.mem_keys_iff]
    by_cases version : key = "schema_version"
    · rw [version, normalizeConfig_version]
      rfl
    by_cases receiver : key = "receiver"
    · rw [receiver, normalizeConfig_receiver]
      rfl
    · rw [normalizeConfig_get? _ version receiver]
      exact isSome_or_of_mem present _
  receiver := by
    refine ⟨_, _, normalizeConfig_receiver raw, ?_, normalizeReceiver_sink _, ?_⟩
    · intro key present
      rw [FiniteMap.mem_keys_iff]
      by_cases sink : key = "sink"
      · rw [sink, normalizeReceiver_sink]
        rfl
      · rw [normalizeReceiver_get? _ sink]
        exact isSome_or_of_mem present _
    · intro key present
      rw [FiniteMap.mem_keys_iff, normalizeSink_get?]
      exact isSome_or_of_mem present _

/-! ## The migrations -/

theorem renameKey_other {old new key : String} (members : Members) (notOld : key ≠ old)
    (notNew : key ≠ new) : (renameKey old new members).get? key = members.get? key := by
  unfold renameKey
  split
  · simp [Function.update_of_ne notOld, Function.update_of_ne notNew]
  · rfl

theorem renameKey_new {old new : String} (members : Members) :
    (renameKey old new members).get? new = (members.get? new).or (members.get? old) := by
  unfold renameKey
  cases oldValue : members.get? old with
  | none => simp
  | some value =>
      cases newValue : members.get? new with
      | none => simp
      | some kept => simp [newValue]

theorem setDefault_other {members : Members} {key other : String} (value : Json)
    (notKey : other ≠ key) : (setDefault members key value).get? other = members.get? other := by
  unfold setDefault
  split
  · rfl
  · simp [Function.update_of_ne notKey]

theorem setDefault_self (members : Members) (key : String) (value : Json) :
    (setDefault members key value).get? key = some ((members.get? key).getD value) := by
  unfold setDefault
  cases found : members.get? key with
  | none => simp
  | some kept => simp [found]

/-- What the second migration adds is what normalization would fill in. -/
theorem normalizeConfig_migrateV1ToV2 (raw : Members) :
    normalizeConfig (migrateV1ToV2 raw) = normalizeConfig raw := by
  ext1 key
  by_cases version : key = "schema_version"
  · rw [version, normalizeConfig_version, normalizeConfig_version]
  by_cases receiver : key = "receiver"
  · subst receiver
    have filled : (migrateV1ToV2 raw).get? "receiver" =
        some ((raw.get? "receiver").getD (.object defaultReceiverConfig)) := by
      rw [migrateV1ToV2, FiniteMap.set_get?, Function.update_of_ne (by decide), setDefault_self,
        setDefault_other _ (by decide)]
    rw [normalizeConfig_receiver, normalizeConfig_receiver, filled, defaultConfig_receiver,
      Option.some_or]
    cases raw.get? "receiver" <;> rfl
  · rw [normalizeConfig_get? _ version receiver, normalizeConfig_get? _ version receiver,
      migrateV1ToV2, FiniteMap.set_get?, Function.update_of_ne version,
      setDefault_other _ receiver]
    by_cases role : key = "role"
    · rw [role, setDefault_self, defaultConfig_role]
      cases raw.get? "role" <;> rfl
    · rw [setDefault_other _ role]

/-- The two keys of version 0 that were renamed, and what they are called since. -/
def renamedKeys : List String := ["rate_fps", "rate_features_per_second",
  "max_reconnect_backoff_seconds", "reconnect_max_backoff_seconds"]

theorem migrateV0ToV1_other (raw : Members) {key : String} (version : key ≠ "schema_version")
    (notRenamed : key ∉ renamedKeys) : (migrateV0ToV1 raw).get? key = raw.get? key := by
  simp only [renamedKeys, List.mem_cons, List.not_mem_nil, or_false, not_or] at notRenamed
  obtain ⟨oldRate, newRate, oldBackoff, newBackoff⟩ := notRenamed
  rw [migrateV0ToV1, FiniteMap.set_get?, Function.update_of_ne version,
    renameKey_other _ oldBackoff newBackoff, renameKey_other _ oldRate newRate]

theorem migrateV0ToV1_rate (raw : Members) :
    (migrateV0ToV1 raw).get? "rate_features_per_second" =
      (raw.get? "rate_features_per_second").or (raw.get? "rate_fps") := by
  rw [migrateV0ToV1, FiniteMap.set_get?, Function.update_of_ne (by decide),
    renameKey_other _ (by decide) (by decide), renameKey_new]

theorem migrateV0ToV1_backoff (raw : Members) :
    (migrateV0ToV1 raw).get? "reconnect_max_backoff_seconds" =
      (raw.get? "reconnect_max_backoff_seconds").or (raw.get? "max_reconnect_backoff_seconds") := by
  rw [migrateV0ToV1, FiniteMap.set_get?, Function.update_of_ne (by decide), renameKey_new,
    renameKey_other _ (by decide) (by decide), renameKey_other _ (by decide) (by decide)]

/-- The version that `migrate_config` goes by; an object without one is of version 0. -/
def declaredVersion (raw : Members) : Option Int :=
  ((raw.get? "schema_version").getD (.int 0)).asInt?

theorem migrateConfig_v2 {raw : Members} (declared : declaredVersion raw = some 2) :
    migrateConfig raw = .ok
      { config := normalizeConfig raw, warnings := [], migrated := false, sourceVersion := 2 } := by
  unfold declaredVersion at declared
  simp only [migrateConfig, declared]
  rfl

theorem migrateConfig_v0 {raw : Members} (declared : declaredVersion raw = some 0) :
    migrateConfig raw = .ok
      { config := normalizeConfig (migrateV0ToV1 raw)
        warnings := ["Migrated config schema from v0 to v1.", "Migrated config schema from v1 to v2."]
        migrated := true, sourceVersion := 0 } := by
  have raised : ((migrateV0ToV1 raw).get? "schema_version").bind Json.asInt? = some 1 := by
    simp [migrateV0ToV1, Json.asInt?]
  unfold declaredVersion at declared
  simp only [migrateConfig, declared]
  simp [currentSchemaVersion, raised, normalizeConfig_migrateV1ToV2]

/-- The version of an object with another one than 0 is written in it. -/
private theorem written_of_declared {raw : Members} {version : Int}
    (declared : declaredVersion raw = some version) (notZero : version ≠ 0) :
    (raw.get? "schema_version").bind Json.asInt? = some version := by
  unfold declaredVersion at declared
  cases found : raw.get? "schema_version" with
  | some value => simpa [found] using declared
  | none =>
      simp only [found, Option.getD_none, Json.asInt?, Option.some.injEq] at declared
      exact absurd declared.symm notZero

theorem migrateConfig_v1 {raw : Members} (declared : declaredVersion raw = some 1) :
    migrateConfig raw = .ok
      { config := normalizeConfig raw, warnings := ["Migrated config schema from v1 to v2."]
        migrated := true, sourceVersion := 1 } := by
  have written := written_of_declared declared (by decide)
  unfold declaredVersion at declared
  simp only [migrateConfig, declared]
  simp [currentSchemaVersion, written, normalizeConfig_migrateV1ToV2]

theorem migrateConfig_unsupported {raw : Members}
    (unsupported : ∀ version, declaredVersion raw = some version →
      version ≠ 0 ∧ version ≠ 1 ∧ version ≠ 2) : ∃ error, migrateConfig raw = .error error := by
  cases declared : declaredVersion raw with
  | none =>
      unfold declaredVersion at declared
      simp only [migrateConfig, declared]
      exact ⟨_, rfl⟩
  | some version =>
      obtain ⟨notZero, notOne, notTwo⟩ := unsupported version declared
      have written := written_of_declared declared notZero
      unfold declaredVersion at declared
      simp only [migrateConfig, declared, currentSchemaVersion, if_neg notTwo, if_neg notZero,
        written, Option.some.injEq, if_neg notOne]
      split
      · exact ⟨_, rfl⟩
      · exact ⟨_, rfl⟩

/-! ## What the user gave -/

/-- The receiver block and its sink block have the values given, or else the defaults; where
either is not an object, it gives none. -/
def KeepsReceiver (raw config : Members) : Prop :=
  ∃ given receiver sink, given = ((raw.get? "receiver").bind Json.asDict?).getD .empty ∧
    config.get? "receiver" = some (.object receiver) ∧
    receiver.get? "sink" = some (.object sink) ∧
    (∀ key, key ≠ "sink" →
      receiver.get? key = (given.get? key).or (defaultReceiverConfig.get? key)) ∧
    ∀ key, sink.get? key =
      ((((given.get? "sink").bind Json.asDict?).getD .empty).get? key).or
        (defaultSinkConfig.get? key)

/-- Each value is the one given, under its key or its old key, or else the default. -/
structure KeepsValues (raw config : Members) (version : Int) : Prop where
  current : config.get? "schema_version" = some (.int currentSchemaVersion)
  others : ∀ key, key ≠ "schema_version" → key ≠ "receiver" → key ∉ renamedKeys →
    config.get? key = (raw.get? key).or (defaultConfig.get? key)
  rate : version = 0 → config.get? "rate_features_per_second" =
    ((raw.get? "rate_features_per_second").or (raw.get? "rate_fps")).or
      (defaultConfig.get? "rate_features_per_second")
  backoff : version = 0 → config.get? "reconnect_max_backoff_seconds" =
    ((raw.get? "reconnect_max_backoff_seconds").or (raw.get? "max_reconnect_backoff_seconds")).or
      (defaultConfig.get? "reconnect_max_backoff_seconds")
  /-- Later versions have no renamed keys. -/
  sinceV1 : version ≠ 0 → ∀ key ∈ renamedKeys,
    config.get? key = (raw.get? key).or (defaultConfig.get? key)
  receiver : KeepsReceiver raw config

private theorem normalizeConfig_receiver_given (raw : Members) :
    (normalizeConfig raw).get? "receiver" =
      some (.object (normalizeReceiver (raw.get? "receiver"))) := by
  rw [normalizeConfig_receiver, defaultConfig_receiver]
  cases raw.get? "receiver" with
  | none => exact congrArg (fun members => some (Json.object members)) normalizeReceiver_default
  | some value => rfl

theorem normalizeConfig_keepsReceiver (raw : Members) : KeepsReceiver raw (normalizeConfig raw) := by
  refine ⟨_, _, _, rfl, normalizeConfig_receiver_given raw, normalizeReceiver_sink _,
    fun key other => normalizeReceiver_get? _ other, fun key => ?_⟩
  rw [normalizeSink_get?]
  cases Option.bind _ Json.asDict? with
  | none => simp
  | some sink => rfl

theorem normalizeConfig_keeps {raw : Members} {version : Int} (later : version ≠ 0) :
    KeepsValues raw (normalizeConfig raw) version where
  current := normalizeConfig_version raw
  others _ version receiver _ := normalizeConfig_get? raw version receiver
  rate first := absurd first later
  backoff first := absurd first later
  sinceV1 := by
    intro _ key renamed
    have other : key ≠ "schema_version" ∧ key ≠ "receiver" := by
      simp only [renamedKeys, List.mem_cons, List.not_mem_nil, or_false] at renamed
      rcases renamed with rfl | rfl | rfl | rfl <;> decide
    exact normalizeConfig_get? raw other.1 other.2
  receiver := normalizeConfig_keepsReceiver raw

theorem migrateV0ToV1_keeps (raw : Members) :
    KeepsValues raw (normalizeConfig (migrateV0ToV1 raw)) 0 where
  current := normalizeConfig_version _
  others key version receiver notRenamed := by
    rw [normalizeConfig_get? _ version receiver, migrateV0ToV1_other raw version notRenamed]
  rate _ := by rw [normalizeConfig_get? _ (by decide) (by decide), migrateV0ToV1_rate]
  backoff _ := by rw [normalizeConfig_get? _ (by decide) (by decide), migrateV0ToV1_backoff]
  sinceV1 later := absurd rfl later
  receiver := by
    have same : (migrateV0ToV1 raw).get? "receiver" = raw.get? "receiver" :=
      migrateV0ToV1_other raw (by decide) (by decide)
    have kept := normalizeConfig_keepsReceiver (migrateV0ToV1 raw)
    rwa [KeepsReceiver, same] at kept

/-! ## Accepted configurations -/

theorem migrateConfig_accepts {raw : Members} {version : Int}
    (declared : declaredVersion raw = some version) (known : 0 ≤ version ∧ version ≤ 2) :
    ∃ migration, migrateConfig raw = .ok migration ∧ KeepsValues raw migration.config version ∧
      ∃ members, migration.config = normalizeConfig members := by
  obtain rfl | rfl | rfl : version = 0 ∨ version = 1 ∨ version = 2 := by omega
  · exact ⟨_, migrateConfig_v0 declared, migrateV0ToV1_keeps raw, _, rfl⟩
  · exact ⟨_, migrateConfig_v1 declared, normalizeConfig_keeps (by decide), _, rfl⟩
  · exact ⟨_, migrateConfig_v2 declared, normalizeConfig_keeps (by decide), _, rfl⟩

/-- No other versions are accepted. -/
theorem migrateConfig_ok {raw : Members} {migration : Migration}
    (ran : migrateConfig raw = .ok migration) :
    (∃ version, declaredVersion raw = some version ∧ 0 ≤ version ∧ version ≤ 2) ∧
      ∃ members, migration.config = normalizeConfig members := by
  by_cases known : ∃ version, declaredVersion raw = some version ∧ 0 ≤ version ∧ version ≤ 2
  · refine ⟨known, ?_⟩
    obtain ⟨version, declared, range⟩ := known
    obtain ⟨accepted, acceptedRan, _, normalized⟩ := migrateConfig_accepts declared range
    cases acceptedRan.symm.trans ran
    exact normalized
  · obtain ⟨error, rejected⟩ := @migrateConfig_unsupported raw fun version declared => by
      have outside : ¬(0 ≤ version ∧ version ≤ 2) := fun inside => known ⟨version, declared, inside⟩
      omega
    cases rejected.symm.trans ran

theorem migrateConfig_normalized (raw : Members) :
    migrateConfig (normalizeConfig raw) = .ok
      { config := normalizeConfig raw, warnings := [], migrated := false, sourceVersion := 2 } := by
  have declared : declaredVersion (normalizeConfig raw) = some 2 := by
    simp [declaredVersion, normalizeConfig_version, Json.asInt?, currentSchemaVersion]
  rw [migrateConfig_v2 declared, normalizeConfig_idem]

/-- Migrating a configuration of a supported version keeps every value the user gave, and
migrating the result again changes nothing. -/
theorem migration_keeps_values {raw : Members} {version : Int}
    (declared : declaredVersion raw = some version) (known : 0 ≤ version ∧ version ≤ 2) :
    ∃ migration, migrateConfig raw = .ok migration ∧
      KeepsValues raw migration.config version ∧
      migrateConfig migration.config = .ok
        { config := migration.config, warnings := [], migrated := false, sourceVersion := 2 } := by
  obtain ⟨migration, ran, keeps, members, normalized⟩ := migrateConfig_accepts declared known
  refine ⟨migration, ran, keeps, ?_⟩
  rw [normalized]
  exact migrateConfig_normalized members

/-- A configuration of version 0, with an old name, a receiver that is no object and a key
that nobody knows. -/
def legacyConfig : Members := .ofList [
  ("rate_fps", .int 25),
  ("receiver", .array []),
  ("comment", .string "mine")]

theorem migration_keeps_values_legacy : ∃ migration, migrateConfig legacyConfig = .ok migration ∧
    KeepsValues legacyConfig migration.config 0 ∧
    migrateConfig migration.config = .ok
      { config := migration.config, warnings := [], migrated := false, sourceVersion := 2 } :=
  migration_keeps_values
    (by simp [declaredVersion, legacyConfig, FiniteMap.ofList_get?, List.lookup_cons, Json.asInt?])
    (by decide)

end TcpSim.Config
