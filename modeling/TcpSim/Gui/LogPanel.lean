import TcpSim.Config.ConfigFile
import TcpSim.Logging.JsonLogger

/-! The log panel: which lines of a log its filter keeps, and which it should. A record's level
is written by the name that `logging` has for it and read by the name of the panel's option. -/

set_option autoImplicit false

namespace TcpSim.Gui

open Config Logging

/-- The values of `level_combo`. -/
def levelOptions : List String := ["ALL", "DEBUG", "INFO", "WARN", "ERROR", "CRITICAL"]

/-- What `filter_log_lines` raises. -/
inductive FilterError where
  | attributeError (text : String)
  | valueError (message : String)
  | recursionError
  deriving DecidableEq, Repr

/-- The functions of the standard library that log lines go through. -/
structure LogCodec where
  upper : String → String
  lower : String → String
  loads : String → Except LoadsError Json
  dumps : Json → String
  /-- `str` of a list or a `dict`. -/
  containerStr : Json → String
  ascii : UppersAscii upper

def typeName : Json → String
  | .null => "NoneType"
  | .bool _ => "bool"
  | .int _ => "int"
  | .float _ => "float"
  | .string _ => "str"
  | .array _ => "list"
  | .object _ => "dict"

variable (codec : LogCodec)

namespace LogCodec

def str : Json → String
  | .null => "None"
  | .bool true => "True"
  | .bool false => "False"
  | .int value => toString value
  | .float text => text
  | .string text => text
  | value => codec.containerStr value

/-- `str(payload.get("level", "")).upper()`. -/
def levelText (payload : Members) : String :=
  codec.upper (codec.str ((payload.get? "level").getD (.string "")))

def eventLevel (line : String) : Except FilterError String :=
  match codec.loads line with
  | .ok payload =>
      match payload.asDict? with
      | some members => .ok (codec.levelText members)
      | none => .error (.attributeError ("'" ++ typeName payload ++ "' object has no attribute 'get'"))
  | .error (.jsonDecodeError _) => .ok ""
  | .error (.valueError message) => .error (.valueError message)
  | .error .recursionError => .error .recursionError

/-- `query in line.lower()`. -/
def ContainsQuery (query line : String) : Prop := query.toList <:+: (codec.lower line).toList

instance (query line : String) : Decidable (codec.ContainsQuery query line) :=
  inferInstanceAs (Decidable (query.toList <:+: (codec.lower line).toList))

/-- The loop of `filter_log_lines`. -/
def filterLines (level query : String) : List String → Except FilterError (List String)
  | [] => .ok []
  | line :: rest =>
      if query ≠ "" ∧ ¬ codec.ContainsQuery query line then filterLines level query rest
      else if level ≠ "ALL" then do
        if (← codec.eventLevel line) ≠ level then filterLines level query rest
        else return line :: (← filterLines level query rest)
      else return line :: (← filterLines level query rest)

def filterLogLines (lines : List String) (levelFilter searchText : String) :
    Except FilterError (List String) :=
  codec.filterLines (codec.upper (strip levelFilter)) (codec.lower (strip searchText)) lines

/-- The number of the level that a line names, if it is an object that names one. -/
def recordLevel? (line : String) : Option Int :=
  match codec.loads line with
  | .ok (.object members) => levelMapping (codec.levelText members)
  | _ => none

/-- The text has the query, and is a record of the option's level. -/
def WantsText (option searchText line : String) : Prop :=
  codec.ContainsQuery (codec.lower (strip searchText)) line ∧
    (option = "ALL" ∨ codec.recordLevel? line = some (parseLogLevel codec.upper (.name option)))

instance (option searchText line : String) : Decidable (codec.WantsText option searchText line) :=
  inferInstanceAs (Decidable (_ ∧ _))

/-- The text is an object or no JSON at all, and under `WARN` its level is not `WARNING`. -/
def ClassifiesText (option line : String) : Prop :=
  (∃ message, codec.loads line = .error (.jsonDecodeError message)) ∨
    ∃ members, codec.loads line = .ok (.object members) ∧
      (option = "WARN" → codec.levelText members ≠ "WARNING")

end LogCodec

/-! ## What it should keep -/

/-- A line of a log: one that an event was written as, or some other text. -/
inductive LogLine where
  | written (call : LogEvent)
  | other (text : String)

namespace LogLine

/-- The payload of `JsonFormatter.format`. -/
def payload (call : LogEvent) : Json := .object (call.record codec.upper).payload

def text : LogLine → String
  | .written call => codec.dumps (payload codec call)
  | .other text => text

/-- The decoder inverts the encoder on the line. -/
def Decodes : LogLine → Prop
  | .written call => codec.loads (codec.dumps (payload codec call)) = .ok (payload codec call)
  | .other _ => True

def levelno? : LogLine → Option Int
  | .written call => some (parseLogLevel codec.upper call.level)
  | .other text => codec.recordLevel? text

def Contains (searchText : String) (line : LogLine) : Prop :=
  codec.ContainsQuery (codec.lower (strip searchText)) (line.text codec)

instance (searchText : String) (line : LogLine) : Decidable (line.Contains codec searchText) :=
  inferInstanceAs (Decidable (codec.ContainsQuery _ _))

/-- The line has the query, and is a record of the option's level. -/
def Wanted (option searchText : String) (line : LogLine) : Prop :=
  line.Contains codec searchText ∧
    (option = "ALL" ∨ line.levelno? codec = some (parseLogLevel codec.upper (.name option)))

instance (option searchText : String) (line : LogLine) :
    Decidable (line.Wanted codec option searchText) :=
  inferInstanceAs (Decidable (_ ∧ _))

/-- Under `WARN` the record is not a warning; other text can be classified. -/
def Classified (option : String) : LogLine → Prop
  | .written call => option = "WARN" → parseLogLevel codec.upper call.level ≠ 30
  | .other text => codec.ClassifiesText option text

end LogLine

/-! ## One line -/

variable {codec}

namespace LogCodec

/-- Whether the loop keeps a line, or what it raises there. -/
def verdict (codec : LogCodec) (level query line : String) : Except FilterError Bool :=
  if query ≠ "" ∧ ¬ codec.ContainsQuery query line then .ok false
  else if level ≠ "ALL" then (codec.eventLevel line).map fun found => found = level
  else .ok true

theorem filterLines_cons (level query line : String) (rest : List String) :
    codec.filterLines level query (line :: rest) =
      (codec.verdict level query line).bind fun kept =>
        (codec.filterLines level query rest).map fun others =>
          if kept then line :: others else others := by
  rw [filterLines, verdict]
  split
  · cases codec.filterLines level query rest with
    | error error => rfl
    | ok others => rfl
  · split
    · cases codec.eventLevel line with
      | error error => rfl
      | ok found =>
          simp only [Bind.bind, Except.bind, Except.map]
          by_cases same : found = level
          · cases codec.filterLines level query rest with
            | error error => simp [same]
            | ok others => simp [same, Pure.pure, Except.pure]
          · cases codec.filterLines level query rest with
            | error error => simp [same]
            | ok others => simp [same]
    · cases codec.filterLines level query rest with
      | error error => rfl
      | ok others => rfl

theorem filterLines_of_verdict {level query : String} {kept : String → Bool} {lines : List String}
    (decided : ∀ line ∈ lines, codec.verdict level query line = .ok (kept line)) :
    codec.filterLines level query lines = .ok (lines.filter kept) := by
  induction lines with
  | nil => rfl
  | cons line rest ih =>
      obtain ⟨first, others⟩ := List.forall_mem_cons.mp decided
      rw [filterLines_cons, first, ih others, List.filter_cons]
      rfl

theorem verdict_of_filterLines {level query : String} {lines result : List String}
    (returned : codec.filterLines level query lines = .ok result) :
    ∀ line ∈ lines, ∃ kept, codec.verdict level query line = .ok kept := by
  induction lines generalizing result with
  | nil => simp
  | cons line rest ih =>
      rw [filterLines_cons] at returned
      cases first : codec.verdict level query line with
      | error error =>
          rw [first] at returned
          cases returned
      | ok kept =>
          rw [first] at returned
          cases later : codec.filterLines level query rest with
          | error error =>
              rw [later] at returned
              cases returned
          | ok others => exact List.forall_mem_cons.mpr ⟨⟨kept, first⟩, ih later⟩

/-- The loop returns the wanted lines exactly when it decides every one of them so. -/
theorem filterLines_eq_ok_iff (level query : String) (wanted : String → Bool) (lines : List String) :
    codec.filterLines level query lines = .ok (lines.filter wanted) ↔
      ∀ line ∈ lines, codec.verdict level query line = .ok (wanted line) := by
  constructor
  · intro returned
    let kept line := match codec.verdict level query line with
      | .ok kept => kept
      | .error _ => false
    have decided : ∀ line ∈ lines, codec.verdict level query line = .ok (kept line) := by
      intro line member
      obtain ⟨value, isValue⟩ := verdict_of_filterLines returned line member
      simp only [kept, isValue]
    have same : lines.filter kept = lines.filter wanted :=
      Except.ok.inj ((filterLines_of_verdict decided).symm.trans returned)
    intro line member
    have alike : kept line = true ↔ wanted line = true := by
      have both := congrArg (line ∈ ·) same
      simpa [List.mem_filter, member] using both
    rw [decided line member, Bool.eq_iff_iff.mpr alike]
  · exact filterLines_of_verdict

theorem upper_option {option : String} (offered : option ∈ levelOptions) :
    codec.upper (strip option) = option := by
  have plain : ∀ option ∈ levelOptions,
      strip option = option ∧ isAscii option = true ∧ asciiUpper option = option := by decide
  obtain ⟨stripped, ascii, isUpper⟩ := plain option offered
  rw [stripped, upper_eq_self codec.ascii ascii isUpper]

/-- A name stands for an option's level when it is the option, or `WARNING` for `WARN`. -/
theorem levelMapping_eq_iff {option name : String} (offered : option ∈ levelOptions)
    (level : option ≠ "ALL") :
    levelMapping name = some (parseLogLevel codec.upper (.name option)) ↔
      name = option ∨ (option = "WARN" ∧ name = "WARNING") := by
  rw [parseLogLevel, upper_option offered]
  simp only [levelOptions, List.mem_cons, List.not_mem_nil, or_false, level, false_or] at offered
  constructor
  · intro known
    have member := levelMapping_mem known
    rcases offered with rfl | rfl | rfl | rfl | rfl
    all_goals simpa [levelMapping] using member
  · intro same
    rcases same with rfl | ⟨rfl, rfl⟩
    · rcases offered with rfl | rfl | rfl | rfl | rfl
      all_goals rfl
    · rfl

/-- The level of a line is compared as it should be exactly when the line is classified. -/
theorem eventLevel_iff {option : String} (offered : option ∈ levelOptions) (level : option ≠ "ALL")
    (line : String) :
    (codec.eventLevel line).map (fun found => decide (found = option)) =
        .ok (decide (codec.recordLevel? line = some (parseLogLevel codec.upper (.name option)))) ↔
      codec.ClassifiesText option line := by
  unfold eventLevel recordLevel? ClassifiesText
  cases codec.loads line with
  | error error =>
      cases error with
      | jsonDecodeError message =>
          have named : ¬ "" = option := by
            rintro rfl
            exact absurd offered (by decide)
          simp [Except.map, named]
      | valueError message => simp [Except.map]
      | recursionError => simp [Except.map]
  | ok payload =>
      cases payload with
      | object members =>
          simp only [Json.asDict?, Except.map, Except.ok.injEq, decide_eq_decide,
            levelMapping_eq_iff offered level, reduceCtorEq, exists_false, false_or,
            Json.object.injEq, exists_eq_left']
          constructor
          · intro same isWarn isWarning
            have equal := same.mpr (.inr ⟨isWarn, isWarning⟩)
            rw [isWarning, isWarn] at equal
            exact absurd equal (by decide)
          · intro other
            refine ⟨.inl, fun either => ?_⟩
            rcases either with same | ⟨isWarn, isWarning⟩
            · exact same
            · exact absurd isWarning (other isWarn)
      | null => simp [Json.asDict?, Except.map]
      | bool value => simp [Json.asDict?, Except.map]
      | int value => simp [Json.asDict?, Except.map]
      | float text => simp [Json.asDict?, Except.map]
      | string text => simp [Json.asDict?, Except.map]
      | array items => simp [Json.asDict?, Except.map]

theorem verdict_iff {option : String} (offered : option ∈ levelOptions) (searchText line : String) :
    codec.verdict (codec.upper (strip option)) (codec.lower (strip searchText)) line =
        .ok (decide (codec.WantsText option searchText line)) ↔
      option = "ALL" ∨
        (codec.ContainsQuery (codec.lower (strip searchText)) line → codec.ClassifiesText option line) := by
  rw [upper_option offered, verdict]
  by_cases contains : codec.ContainsQuery (codec.lower (strip searchText)) line
  · rw [if_neg fun skipped => skipped.2 contains]
    by_cases all : option = "ALL"
    · simp [WantsText, contains, all]
    · rw [if_pos all]
      simpa [WantsText, contains, all] using eventLevel_iff offered all line
  · have searched : codec.lower (strip searchText) ≠ "" := by
      intro empty
      apply contains
      rw [empty]
      exact List.nil_infix
    rw [if_pos ⟨searched, contains⟩]
    simp [WantsText, contains]

end LogCodec

/-! ## All lines -/

namespace LogLine

theorem recordLevel?_written {call : LogEvent} (decodes : (written call).Decodes codec) :
    codec.recordLevel? ((written call).text codec) =
      levelMapping (codec.upper (getLevelName (parseLogLevel codec.upper call.level))) := by
  change codec.loads _ = _ at decodes
  rw [LogCodec.recordLevel?, text, decodes]
  change levelMapping (codec.levelText (call.record codec.upper).payload) = _
  rw [LogCodec.levelText, call.payload_level codec.upper]
  rfl

theorem wanted_iff {line : LogLine} (decodes : line.Decodes codec) {option : String}
    (offered : option ∈ levelOptions) (searchText : String) :
    line.Wanted codec option searchText ↔
      codec.WantsText option searchText (line.text codec) := by
  cases line with
  | other text => exact Iff.rfl
  | written call =>
      refine and_congr_right fun _ => or_congr_right' fun level => ?_
      have known : levelMapping option = some (parseLogLevel codec.upper (.name option)) :=
        (LogCodec.levelMapping_eq_iff offered level).mpr (.inl rfl)
      rw [recordLevel?_written decodes, levelMapping_getLevelName codec.ascii ⟨option, known⟩]
      exact Option.some_inj

theorem upper_getLevelName_eq_warning {levelno : Int} :
    codec.upper (getLevelName levelno) = "WARNING" ↔ levelno = 30 := by
  constructor
  · intro same
    refine (levelMapping_getLevelName codec.ascii ⟨"WARNING", rfl⟩).mp ?_
    rw [same]
    rfl
  · intro same
    rw [same]
    exact upper_eq_self codec.ascii (by decide) (by decide)

theorem classified_iff {line : LogLine} (decodes : line.Decodes codec) (option : String) :
    line.Classified codec option ↔ codec.ClassifiesText option (line.text codec) := by
  cases line with
  | other text => exact Iff.rfl
  | written call =>
      have level : codec.levelText (call.record codec.upper).payload =
          codec.upper (getLevelName (parseLogLevel codec.upper call.level)) := by
        rw [LogCodec.levelText, call.payload_level codec.upper]
        rfl
      change codec.loads _ = _ at decodes
      rw [LogCodec.ClassifiesText, text, decodes]
      simp only [Classified, payload, reduceCtorEq, exists_false, false_or, Except.ok.injEq,
        Json.object.injEq, exists_eq_left', level, ne_eq, upper_getLevelName_eq_warning]

end LogLine

theorem wanted_texts {lines : List LogLine} (decodes : ∀ line ∈ lines, line.Decodes codec)
    {option : String} (offered : option ∈ levelOptions) (searchText : String) :
    (lines.filter fun line => line.Wanted codec option searchText).map (LogLine.text codec) =
      (lines.map (LogLine.text codec)).filter fun line => codec.WantsText option searchText line := by
  rw [List.filter_map]
  refine congrArg (List.map (LogLine.text codec)) (List.filter_congr fun line member => ?_)
  exact decide_eq_decide.mpr (LogLine.wanted_iff (decodes line member) offered searchText)

/-- The filter returns the wanted lines exactly when, unless all levels are, each line with the
query is an object or no JSON at all and, for `WARN`, no warning. -/
theorem log_filter_agrees_iff {lines : List LogLine} (decodes : ∀ line ∈ lines, line.Decodes codec)
    {option : String} (offered : option ∈ levelOptions) (searchText : String) :
    codec.filterLogLines (lines.map (LogLine.text codec)) option searchText =
        .ok ((lines.filter fun line => line.Wanted codec option searchText).map (LogLine.text codec)) ↔
      option = "ALL" ∨
        ∀ line ∈ lines, line.Contains codec searchText → line.Classified codec option := by
  rw [wanted_texts decodes offered, LogCodec.filterLogLines, LogCodec.filterLines_eq_ok_iff,
    List.forall_mem_map]
  simp only [LogCodec.verdict_iff offered]
  constructor
  · intro each
    by_cases all : option = "ALL"
    · exact .inl all
    · refine .inr fun line member contains => ?_
      exact (LogLine.classified_iff (decodes line member) option).mpr
        ((each line member).resolve_left all contains)
  · intro either line member
    refine either.imp_right fun each contains => ?_
    exact (LogLine.classified_iff (decodes line member) option).mp (each line member contains)

/-! ## A warning -/

def warningEvent : LogEvent where
  logger := "tcp_sim"
  level := .name "WARNING"
  event := "send failed"
  fields := .empty
  time := "2026-04-02T10:00:00+0000"
  keywords := fun parameter _ => FiniteMap.empty_get? parameter

/-- What the event is written as. -/
def warningText : String :=
  "\x7b\"ts\": \"2026-04-02T10:00:00+0000\", \"level\": \"WARNING\", \"logger\": \"tcp_sim\", " ++
    "\"message\": \"send failed\", \"event\": \"send failed\"\x7d"

/-- As the standard library is on that event and on text that is no JSON. -/
def warningCodec : LogCodec where
  upper := asciiUpper
  lower text := String.ofList (text.toList.map Char.toLower)
  loads text :=
    if text = warningText then .ok (.object (warningEvent.record asciiUpper).payload)
    else .error (.jsonDecodeError "Expecting value: line 1 column 1 (char 0)")
  dumps _ := warningText
  containerStr _ := "[]"
  ascii := uppersAscii_asciiUpper

theorem warningEvent_decodes (others : List String) :
    ∀ line ∈ LogLine.written warningEvent :: others.map .other, line.Decodes warningCodec := by
  intro line member
  rcases List.mem_cons.mp member with rfl | other
  · change warningCodec.loads warningText = _
    simp only [warningCodec, if_true, LogLine.payload]
  · obtain ⟨text, _, rfl⟩ := List.mem_map.mp other
    trivial

theorem log_filter_agrees_iff_error :
    let lines := LogLine.written warningEvent :: ["plain-text-line"].map .other
    (∀ line ∈ lines, line.Decodes warningCodec) ∧ "ERROR" ∈ levelOptions ∧
      (warningCodec.filterLogLines (lines.map (LogLine.text warningCodec)) "ERROR" "" =
          .ok ((lines.filter fun line => line.Wanted warningCodec "ERROR" "").map
            (LogLine.text warningCodec)) ↔
        "ERROR" = "ALL" ∨
          ∀ line ∈ lines, line.Contains warningCodec "" → line.Classified warningCodec "ERROR") :=
  ⟨warningEvent_decodes _, by decide, log_filter_agrees_iff (warningEvent_decodes _) (by decide) ""⟩

/-- `WARN` does not find what `log_event` writes for `WARNING`. -/
theorem warnings_not_found :
    ¬ ∀ (lines : List LogLine) (option searchText : String),
      (∀ line ∈ lines, line.Decodes warningCodec) → option ∈ levelOptions →
        warningCodec.filterLogLines (lines.map (LogLine.text warningCodec)) option searchText =
          .ok ((lines.filter fun line => line.Wanted warningCodec option searchText).map
            (LogLine.text warningCodec)) := by
  intro agrees
  have decodes := warningEvent_decodes []
  have offered : "WARN" ∈ levelOptions := by decide
  have returned := agrees _ "WARN" "" decodes offered
  rw [wanted_texts decodes offered, LogCodec.filterLogLines, LogCodec.filterLines_eq_ok_iff] at returned
  have decided := returned warningText List.mem_cons_self
  have contains : warningCodec.ContainsQuery (warningCodec.lower (strip "")) warningText :=
    List.nil_infix
  have classified := ((LogCodec.verdict_iff offered "" warningText).mp decided).resolve_left
    (by decide) contains
  have level := (LogLine.classified_iff (decodes _ List.mem_cons_self) "WARN").mpr classified rfl
  exact level (by decide)

end TcpSim.Gui
