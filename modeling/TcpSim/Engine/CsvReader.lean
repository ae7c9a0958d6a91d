import Mathlib.Data.List.Basic
import Mathlib.Data.List.Chain

/-! `csv.reader` in its default dialect, with a delimiter of choice. It takes lines with
their ends and gives rows; a quoted field may go on in the next line. -/

set_option autoImplicit false

namespace TcpSim.Engine

inductive ParserState where
  | startRecord
  | startField
  | inField
  | inQuotedField
  | quoteInQuotedField
  | eatCrnl
  deriving DecidableEq, Repr

structure CsvParser where
  state : ParserState := .startRecord
  field : List Char := []
  fields : List (List Char) := []
  deriving DecidableEq, Repr

/-- The default of `csv.field_size_limit`. -/
def fieldSizeLimit : Nat := 131072

def isNewline (character : Char) : Bool := character = '\n' || character = '\r'

namespace CsvParser

variable (self : CsvParser)

def addChar (character : Char) (state : ParserState) : Except String CsvParser :=
  if fieldSizeLimit ≤ self.field.length then
    .error ("field larger than field limit (" ++ toString fieldSizeLimit ++ ")")
  else .ok { self with field := self.field ++ [character], state }

def saveField (state : ParserState) : CsvParser where
  state := state
  field := []
  fields := self.fields ++ [self.field]

def endRow (character : Option Char) : CsvParser :=
  self.saveField (if character.isNone then .startRecord else .eatCrnl)

def startField (delimiter : Char) : Option Char → Except String CsvParser
  | none => .ok (self.endRow none)
  | some character =>
      if isNewline character then .ok (self.endRow (some character))
      else if character = '"' then .ok { self with state := .inQuotedField }
      else if character = delimiter then .ok (self.saveField .startField)
      else self.addChar character .inField

/-- `parse_process_char`; `none` stands for the end of the line. -/
def processChar (delimiter : Char) (character : Option Char) : Except String CsvParser :=
  match self.state, character with
  | .startRecord, none => .ok self
  | .startRecord, some character =>
      if isNewline character then .ok { self with state := .eatCrnl }
      else self.startField delimiter (some character)
  | .startField, character => self.startField delimiter character
  | .inField, none => .ok (self.endRow none)
  | .inField, some character =>
      if isNewline character then .ok (self.endRow (some character))
      else if character = delimiter then .ok (self.saveField .startField)
      else self.addChar character .inField
  | .inQuotedField, none => .ok self
  | .inQuotedField, some character =>
      if character = '"' then .ok { self with state := .quoteInQuotedField }
      else self.addChar character .inQuotedField
  | .quoteInQuotedField, none => .ok (self.endRow none)
  | .quoteInQuotedField, some character =>
      if character = '"' then self.addChar character .inQuotedField
      else if character = delimiter then .ok (self.saveField .startField)
      else if isNewline character then .ok (self.endRow (some character))
      else self.addChar character .inField
  | .eatCrnl, none => .ok { self with state := .startRecord }
  | .eatCrnl, some character =>
      if isNewline character then .ok self
      -- Python 3.10 asks whether to open it in universal-newline mode
      else .error ("new-line character seen in unquoted field - do you need to open the file " ++
        "with newline=''?")

/-- A line of the iterator, and its end. -/
def processLine (delimiter : Char) (line : List Char) : Except String CsvParser :=
  (line.map some ++ [none]).foldlM (fun parser character => parser.processChar delimiter character) self

/-- If the input ends here, there is one more row. -/
def inRow : Bool := !self.field.isEmpty || self.state = .inQuotedField

end CsvParser

structure CsvRow where
  fields : List (List Char)
  /-- `line_num`: the lines taken from the iterator so far. -/
  lineNum : Nat
  deriving DecidableEq, Repr

/-- The rows of a reader that is exhausted, or raises in the end. -/
structure Rows (ρ : Type) where
  rows : List ρ
  raises : Option String := none
  deriving DecidableEq, Repr

def readRows (delimiter : Char) (parser : CsvParser) (lineNum : Nat) : List (List Char) → Rows CsvRow
  | [] =>
      if parser.inRow then
        { rows := [{ fields := (parser.saveField .startRecord).fields, lineNum }] }
      else { rows := [] }
  | line :: rest =>
      match parser.processLine delimiter line with
      | .error message => { rows := [], raises := some message }
      | .ok parser =>
          if parser.state = .startRecord then
            let later := readRows delimiter {} (lineNum + 1) rest
            { later with rows := { fields := parser.fields, lineNum := lineNum + 1 } :: later.rows }
          else readRows delimiter parser (lineNum + 1) rest

/-- `csv.reader(lines, delimiter=delimiter)`, read to its end. -/
def csvReader (delimiter : Char) (lines : List (List Char)) : Rows CsvRow :=
  readRows delimiter {} 0 lines

/-- Every row takes at least one line, and no more lines are counted than there are. -/
theorem readRows_lineNums (delimiter : Char) {parser : CsvParser} {lineNum consumed : Nat}
    (lines : List (List Char)) (before : consumed ≤ lineNum)
    (taken : parser.inRow = true → consumed < lineNum) :
    (consumed :: (readRows delimiter parser lineNum lines).rows.map CsvRow.lineNum).IsChain (· < ·) ∧
      ∀ row ∈ (readRows delimiter parser lineNum lines).rows, row.lineNum ≤ lineNum + lines.length := by
  induction lines generalizing parser lineNum consumed with
  | nil =>
      rw [readRows]
      split
      next inRow => simpa using taken inRow
      next => simp
  | cons line rest ih =>
      rw [readRows]
      cases parser.processLine delimiter line with
      | error message => simp
      | ok after =>
          dsimp only
          split
          next =>
              obtain ⟨chain, bounded⟩ := @ih {} (lineNum + 1) (lineNum + 1) le_rfl (by simp [CsvParser.inRow])
              refine ⟨?_, ?_⟩
              · rw [List.map_cons, List.isChain_cons_cons]
                exact ⟨Nat.lt_succ_of_le before, chain⟩
              · intro row member
                rw [List.length_cons]
                rcases List.mem_cons.mp member with rfl | later
                · dsimp only
                  omega
                · have within := bounded row later
                  omega
          next =>
              obtain ⟨chain, bounded⟩ := @ih after (lineNum + 1) consumed (by omega) (fun _ => by omega)
              refine ⟨chain, fun row member => ?_⟩
              have within := bounded row member
              rw [List.length_cons]
              omega

theorem csvReader_lineNums (delimiter : Char) (lines : List (List Char)) :
    (0 :: (csvReader delimiter lines).rows.map CsvRow.lineNum).IsChain (· < ·) ∧
      ∀ row ∈ (csvReader delimiter lines).rows, row.lineNum ≤ lines.length := by
  have counted := @readRows_lineNums delimiter {} 0 0 lines le_rfl (by simp [CsvParser.inRow])
  rw [Nat.zero_add] at counted
  exact counted

/-! ## Reading to the end -/

theorem processChar_lineEnd {delimiter : Char} {parser after : CsvParser}
    (processed : parser.processChar delimiter none = .ok after) :
    after.state = .startRecord ∨ after.state = .inQuotedField := by
  unfold CsvParser.processChar at processed
  cases state : parser.state with
  | startRecord | inQuotedField =>
      rw [state] at processed
      cases processed
      simp [state]
  | startField | inField | quoteInQuotedField | eatCrnl =>
      rw [state] at processed
      cases processed
      exact .inl rfl

/-- Between two lines the parser is between two rows or in a quoted field. -/
theorem processLine_state {delimiter : Char} {parser after : CsvParser} {line : List Char}
    (processed : parser.processLine delimiter line = .ok after) :
    after.state = .startRecord ∨ after.state = .inQuotedField := by
  unfold CsvParser.processLine at processed
  rw [List.foldlM_append] at processed
  cases inLine : (line.map some).foldlM
      (fun parser character => parser.processChar delimiter character) parser with
  | error message =>
      rw [inLine] at processed
      cases processed
  | ok atEnd =>
      rw [inLine] at processed
      refine @processChar_lineEnd delimiter atEnd after ?_
      cases ended : atEnd.processChar delimiter none with
      | error message => simp [bind, Except.bind, ended] at processed
      | ok final =>
          simp only [bind, Except.bind, List.foldlM, ended, pure, Except.pure] at processed
          exact processed

/-- The last row of a reader that does not raise ends with the last line. -/
theorem readRows_last {delimiter : Char} {parser : CsvParser} {lineNum consumed : Nat}
    {lines : List (List Char)} (between : parser.inRow = true ∨ consumed = lineNum)
    (exhausted : (readRows delimiter parser lineNum lines).raises = none) :
    (((readRows delimiter parser lineNum lines).rows.map CsvRow.lineNum).getLast?).getD consumed =
      lineNum + lines.length := by
  induction lines generalizing parser lineNum consumed with
  | nil =>
      rw [readRows]
      split
      next => rfl
      next noRow =>
          rcases between with inRow | rfl
          · exact absurd inRow noRow
          · rfl
  | cons line rest ih =>
      rw [readRows] at exhausted ⊢
      cases processed : parser.processLine delimiter line with
      | error message =>
          rw [processed] at exhausted
          cases exhausted
      | ok after =>
          rw [processed] at exhausted
          dsimp only at exhausted ⊢
          split
          next atStart =>
              rw [if_pos atStart] at exhausted
              have later := @ih {} (lineNum + 1) (lineNum + 1) (.inr rfl) exhausted
              rw [List.map_cons, List.getLast?_cons, Option.getD_some, later, List.length_cons]
              omega
          next notAtStart =>
              rw [if_neg notAtStart] at exhausted
              have quoted := (processLine_state processed).resolve_left notAtStart
              have inRow : after.inRow = true := by simp [CsvParser.inRow, quoted]
              have later := @ih after (lineNum + 1) consumed (.inl inRow) exhausted
              rw [later, List.length_cons]
              omega

theorem csvReader_last {delimiter : Char} {lines : List (List Char)}
    (exhausted : (csvReader delimiter lines).raises = none) :
    (((csvReader delimiter lines).rows.map CsvRow.lineNum).getLast?).getD 0 = lines.length := by
  have reached := readRows_last (.inr rfl) exhausted
  rwa [Nat.zero_add] at reached

end TcpSim.Engine
