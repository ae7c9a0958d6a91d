import TcpSim.Config.Schema
import TcpSim.Gui.LoadRecords

/-! The structured log: level numbers and their names, and what one event is written as.
`str.upper` is given, since it depends on the tables of Unicode. -/

set_option autoImplicit false

namespace TcpSim.Logging

open Config

/-- As `str.upper` is on ASCII text. -/
def asciiUpper (text : String) : String := String.ofList (text.toList.map Char.toUpper)

/-- `str.isascii`. -/
def isAscii (text : String) : Bool := text.toList.all fun character => character.toNat < 128

/-- Whatever `str.upper` does elsewhere. -/
def UppersAscii (upper : String → String) : Prop := ∀ text, isAscii text = true → upper text = asciiUpper text

theorem uppersAscii_asciiUpper : UppersAscii asciiUpper := fun _ _ => rfl

/-! ## Levels -/

/-- The names that `parse_log_level` knows, by their numbers. -/
def levelMapping : String → Option Int
  | "DEBUG" => some 10
  | "INFO" => some 20
  | "WARN" => some 30
  | "WARNING" => some 30
  | "ERROR" => some 40
  | "CRITICAL" => some 50
  | _ => none

/-- A level as `log_event` takes it. -/
inductive Level where
  | number (levelno : Int)
  | name (text : String)
  deriving DecidableEq, Repr

def parseLogLevel (upper : String → String) : Level → Int
  | .number levelno => levelno
  | .name text => (levelMapping (upper (Gui.strip text))).getD 20

def getLevelName : Int → String
  | 50 => "CRITICAL"
  | 40 => "ERROR"
  | 30 => "WARNING"
  | 20 => "INFO"
  | 10 => "DEBUG"
  | 0 => "NOTSET"
  | level => "Level " ++ toString level

theorem upper_eq_self {upper : String → String} (ascii : UppersAscii upper) {text : String}
    (plain : isAscii text = true) (isUpper : asciiUpper text = text) : upper text = text :=
  (ascii text plain).trans isUpper

theorem isAscii_append {text other : String} (first : isAscii text = true)
    (second : isAscii other = true) : isAscii (text ++ other) = true := by
  unfold isAscii at first second ⊢
  rw [String.toList_append, List.all_append, first, second]
  rfl

theorem isAscii_toString_nat (value : Nat) : isAscii (toString value) = true := by
  refine List.all_eq_true.mpr fun character member => decide_eq_true ?_
  rw [Nat.toString_eq_repr, Nat.toList_repr] at member
  obtain ⟨_, high⟩ := Char.isDigit_iff_toNat.mp (Nat.isDigit_of_mem_toDigits (by decide) (by decide) member)
  have nine : '9'.toNat = 57 := rfl
  omega

theorem isAscii_toString_int (value : Int) : isAscii (toString value) = true := by
  cases value with
  | ofNat value => exact isAscii_toString_nat value
  | negSucc value => exact isAscii_append (by decide) (isAscii_toString_nat value.succ)

theorem levelMapping_mem {name : String} {levelno : Int} (known : levelMapping name = some levelno) :
    (name, levelno) ∈ ([("DEBUG", 10), ("INFO", 20), ("WARN", 30), ("WARNING", 30), ("ERROR", 40),
      ("CRITICAL", 50)] : List (String × Int)) := by
  unfold levelMapping at known
  split at known
  case h_7 => cases known
  all_goals
    obtain rfl := Option.some.inj known
    simp

/-- A number without a name has none that `parse_log_level` knows. -/
theorem levelMapping_number {upper : String → String} (ascii : UppersAscii upper) (levelno : Int) :
    levelMapping (upper ("Level " ++ toString levelno)) = none := by
  have head : (upper ("Level " ++ toString levelno)).toList.head? = some 'L' := by
    rw [ascii _ (isAscii_append (by decide) (isAscii_toString_int levelno)), asciiUpper,
      String.toList_ofList, String.toList_append, List.map_append]
    rfl
  cases known : levelMapping (upper ("Level " ++ toString levelno)) with
  | none => rfl
  | some other =>
      have named := List.mem_map_of_mem (f := Prod.fst) (levelMapping_mem known)
      have heads : ∀ name ∈ ["DEBUG", "INFO", "WARN", "WARNING", "ERROR", "CRITICAL"],
          name.toList.head? ≠ some 'L' := by decide
      exact absurd head (heads _ named)

/-- Reading a level by its name gives its number back. -/
theorem levelMapping_getLevelName {upper : String → String} (ascii : UppersAscii upper) {levelno : Int}
    {other : Int} (known : ∃ name, levelMapping name = some other) :
    levelMapping (upper (getLevelName levelno)) = some other ↔ levelno = other := by
  obtain ⟨name, known⟩ := known
  have number : other ∈ ([10, 20, 30, 40, 50] : List Int) := by
    have member := levelMapping_mem known
    simp only [List.mem_cons, Prod.mk.injEq, List.not_mem_nil, or_false] at member ⊢
    omega
  have named : ∀ name : String, isAscii name = true → asciiUpper name = name →
      levelMapping (upper name) = levelMapping name :=
    fun name plain isUpper => congrArg levelMapping (upper_eq_self ascii plain isUpper)
  unfold getLevelName
  split
  · rw [named "CRITICAL" (by decide) (by decide)]
    simp [levelMapping]
  · rw [named "ERROR" (by decide) (by decide)]
    simp [levelMapping]
  · rw [named "WARNING" (by decide) (by decide)]
    simp [levelMapping]
  · rw [named "INFO" (by decide) (by decide)]
    simp [levelMapping]
  · rw [named "DEBUG" (by decide) (by decide)]
    simp [levelMapping]
  · rw [named "NOTSET" (by decide) (by decide)]
    refine iff_of_false (by simp [levelMapping]) fun zero => ?_
    subst zero
    simp at number
  · rw [levelMapping_number ascii]
    refine iff_of_false (by simp) fun same => ?_
    subst same
    simp only [List.mem_cons, List.not_mem_nil, or_false] at number
    grind

/-! ## Records -/

structure LogRecord where
  levelno : Int
  name : String
  message : String
  /-- `formatTime`. -/
  time : String
  /-- `formatException` of `exc_info`, if there is one. -/
  exception : Option String := none
  /-- What `extra` added to the attributes, by its JSON values. -/
  extra : Members

def baseAttrs : List String := [
  "args", "asctime", "created", "exc_info", "exc_text", "filename", "funcName", "levelname",
  "levelno", "lineno", "module", "msecs", "message", "msg", "name", "pathname", "process",
  "processName", "relativeCreated", "stack_info", "thread", "threadName"]

/-- The attributes that the formatter adds. -/
def addedExtra (extra : Members) : Members :=
  .restrict extra.keys fun key =>
    if key ∈ baseAttrs ∨ key.toList.head? = some '_' then none else extra.get? key

/-- The payload of `JsonFormatter.format`. -/
def LogRecord.payload (record : LogRecord) : Members :=
  let payload : Members := .ofList [
    ("ts", .string record.time),
    ("level", .string (getLevelName record.levelno)),
    ("logger", .string record.name),
    ("message", .string record.message)]
  let payload := payload.update (addedExtra record.extra)
  match record.exception with
  | some text => payload.set "exc_info" (.string text)
  | none => payload

/-- A call of `log_event`, at a time. A field is a keyword argument, so it is not called as one
of the parameters. -/
structure LogEvent where
  logger : String
  level : Level
  event : String
  fields : Members
  time : String
  keywords : ∀ parameter ∈ ["logger", "level", "event"], fields.get? parameter = none

def LogEvent.record (upper : String → String) (call : LogEvent) : LogRecord where
  levelno := parseLogLevel upper call.level
  name := call.logger
  message := call.event
  time := call.time
  extra := call.fields.set "event" (.string call.event)

theorem addedExtra_get?_of_none {extra : Members} {key : String} (absent : extra.get? key = none) :
    (addedExtra extra).get? key = none := by
  refine (FiniteMap.restrict_get? (fun other found => ?_) key).trans ?_
  · split at found
    · cases found
    · exact FiniteMap.mem_keys_iff.mpr found
  · split
    · rfl
    · exact absent

/-- No field of an event hides its level. -/
theorem LogEvent.payload_level (upper : String → String) (call : LogEvent) :
    (call.record upper).payload.get? "level" =
      some (.string (getLevelName (parseLogLevel upper call.level))) := by
  have absent : (call.record upper).extra.get? "level" = none := by
    rw [LogEvent.record, FiniteMap.set_get?, Function.update_of_ne (by decide)]
    exact call.keywords "level" (by decide)
  have added := addedExtra_get?_of_none absent
  rw [LogRecord.payload]
  change ((FiniteMap.ofList _).update _).get? "level" = _
  rw [FiniteMap.update_get?, added, Option.none_or, FiniteMap.ofList_get?]
  rfl

end TcpSim.Logging
