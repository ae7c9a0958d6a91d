import TcpSim.Engine.CsvReader
import TcpSim.Lib.Lines

/-! The reader of delimited files: rows with the text they were read from, and the valid ones
among them. -/

set_option autoImplicit false

namespace TcpSim.Engine

/-- What opening and decoding a file gives. -/
inductive FileContent where
  /-- An `OSError`. -/
  | unreadable (message : String)
  /-- A `UnicodeDecodeError`. -/
  | undecodable (message : String)
  | text (characters : List Char)
  deriving DecidableEq, Repr

inductive ReadError where
  | osError (message : String)
  | unicodeDecodeError (message : String)
  | typeError (message : String)
  | csvError (message : String)
  | valueError (message : String)
  deriving DecidableEq, Repr

structure RawRow where
  rawRowNumber : Nat
  rawText : List Char
  fields : List (List Char)
  deriving DecidableEq, Repr

structure RawRows where
  rows : List RawRow
  raises : Option ReadError := none
  deriving DecidableEq, Repr

/-- Each row gets the lines that were taken for it. -/
def withRaw (rawLines : List (List Char)) (consumedLines : Nat) : List CsvRow → List RawRow
  | [] => []
  | row :: rest => {
      rawRowNumber := consumedLines + 1
      rawText := ((rawLines.take row.lineNum).drop consumedLines).flatten
      fields := row.fields } :: withRaw rawLines row.lineNum rest

/-- `_iter_rows_with_raw`: the rows it yields, and what it raises after them. -/
def iterRowsWithRaw (delimiter : String) : FileContent → RawRows
  | .unreadable message => { rows := [], raises := some (.osError message) }
  | .undecodable message => { rows := [], raises := some (.unicodeDecodeError message) }
  | .text characters =>
      match delimiter.toList with
      | [delimiter] =>
          let rawLines := Lines.split characters
          let read := csvReader delimiter rawLines
          { rows := withRaw rawLines 0 read.rows, raises := read.raises.map .csvError }
      | _ => { rows := [], raises := some (.typeError "\"delimiter\" must be a 1-character string") }

structure RawRowRecord where
  dataLineNumber : Nat
  fields : List (List Char)
  rawText : List Char
  deriving DecidableEq, Repr

structure FileReader where
  delimiter : String
  hasHeader : Bool
  header : Option (List (List Char)) := none
  headerRaw : Option (List Char) := none
  expectedColumns : Option Nat := none
  deriving DecidableEq, Repr

/-- `_validate_line_controls`, with the message of each `ValueError`. -/
def validateLineControls (startLine endLine firstN : Option Int) : Except String Unit :=
  if ∃ line ∈ startLine, line < 1 then .error "start_line must be >= 1"
  else if ∃ line ∈ endLine, line < 1 then .error "end_line must be >= 1"
  else if ∃ count ∈ firstN, count < 1 then .error "first_n must be >= 1"
  else if ∃ line ∈ startLine, ∃ other ∈ endLine, other < line then
    .error "end_line must be >= start_line"
  else .ok ()

def lineIsSelected (lineNumber : Nat) (startLine endLine : Option Int) : Bool :=
  if ∃ start ∈ startLine, lineNumber < start then false
  else if ∃ last ∈ endLine, last < lineNumber then false
  else true

/-- What a generator over a file yields, and how it ends. -/
structure Streamed where
  yielded : List RawRowRecord
  reader : FileReader
  raises : Option ReadError := none
  deriving DecidableEq, Repr

/-- `_iter_rows`: the same rows without their text. -/
def RawRows.iterRows (self : RawRows) : List (Nat × List (List Char)) × Option ReadError :=
  (self.rows.map fun row => (row.rawRowNumber, row.fields), self.raises)

structure RowRecord where
  dataLineNumber : Nat
  fields : List (List Char)
  deriving DecidableEq, Repr

structure StreamedFields where
  yielded : List RowRecord
  reader : FileReader
  raises : Option ReadError := none
  deriving DecidableEq, Repr

namespace FileReader

variable (self : FileReader)

def resetScanState : FileReader :=
  { self with header := none, headerRaw := none, expectedColumns := none }

/-- `_is_valid_data_row`: the first row without a header sets the expected columns. -/
def isValidDataRow (row : List (List Char)) : Bool × FileReader :=
  match self.expectedColumns with
  | none => (true, { self with expectedColumns := some row.length })
  | some columns => (row.length == columns, self)

def takeHeader (row : RawRow) : FileReader :=
  { self with
    header := some row.fields
    headerRaw := some row.rawText
    expectedColumns := some row.fields.length }

/-- The loop of `iter_valid_raw_rows` over the rows that are left. -/
def streamRows (startLine endLine firstN : Option Int) (raises : Option ReadError)
    (self : FileReader) (dataLineNumber emitted : Nat) : List RawRow → Streamed
  | [] => { yielded := [], reader := self, raises }
  | row :: rest =>
      if self.hasHeader ∧ self.header.isNone then
        streamRows startLine endLine firstN raises (self.takeHeader row) dataLineNumber emitted rest
      else
        let (valid, self) := self.isValidDataRow row.fields
        if !valid then
          streamRows startLine endLine firstN raises self dataLineNumber emitted rest
        else
          let dataLineNumber := dataLineNumber + 1
          if !lineIsSelected dataLineNumber startLine endLine then
            if ∃ last ∈ endLine, last < dataLineNumber then { yielded := [], reader := self }
            else streamRows startLine endLine firstN raises self dataLineNumber emitted rest
          else if ∃ count ∈ firstN, count ≤ emitted then { yielded := [], reader := self }
          else
            let later := streamRows startLine endLine firstN raises self dataLineNumber (emitted + 1) rest
            { later with
              yielded := { dataLineNumber, fields := row.fields, rawText := row.rawText } :: later.yielded }

def iterValidRawRows (content : FileContent) (startLine endLine firstN : Option Int) : Streamed :=
  match validateLineControls startLine endLine firstN with
  | .error message => { yielded := [], reader := self, raises := some (.valueError message) }
  | .ok () =>
      let read := iterRowsWithRaw self.delimiter content
      streamRows startLine endLine firstN read.raises self.resetScanState 0 0 read.rows

/-- The loop of `iter_valid_rows`; it does not keep the text of the header. -/
def streamFields (startLine endLine firstN : Option Int) (raises : Option ReadError)
    (self : FileReader) (dataLineNumber emitted : Nat) : List (Nat × List (List Char)) → StreamedFields
  | [] => { yielded := [], reader := self, raises }
  | (_, fields) :: rest =>
      if self.hasHeader ∧ self.header.isNone then
        streamFields startLine endLine firstN raises
          { self with header := some fields, expectedColumns := some fields.length }
          dataLineNumber emitted rest
      else
        let (valid, self) := self.isValidDataRow fields
        if !valid then
          streamFields startLine endLine firstN raises self dataLineNumber emitted rest
        else
          let dataLineNumber := dataLineNumber + 1
          if !lineIsSelected dataLineNumber startLine endLine then
            if ∃ last ∈ endLine, last < dataLineNumber then { yielded := [], reader := self }
            else streamFields startLine endLine firstN raises self dataLineNumber emitted rest
          else if ∃ count ∈ firstN, count ≤ emitted then { yielded := [], reader := self }
          else
            let later :=
              streamFields startLine endLine firstN raises self dataLineNumber (emitted + 1) rest
            { later with yielded := { dataLineNumber, fields } :: later.yielded }

def iterValidRows (content : FileContent) (startLine endLine firstN : Option Int) : StreamedFields :=
  match validateLineControls startLine endLine firstN with
  | .error message => { yielded := [], reader := self, raises := some (.valueError message) }
  | .ok () =>
      let rows := (iterRowsWithRaw self.delimiter content).iterRows
      streamFields startLine endLine firstN rows.2 self.resetScanState 0 0 rows.1

end FileReader

/-! ## The text of rows -/

theorem ended_append {line : List Char} (ended : Lines.Ended line) (front : List Char) :
    Lines.Ended (front ++ line) := by
  obtain ⟨last, isLast, isBreak⟩ := ended
  have isLast : line.getLast? = some last := isLast
  exact ⟨last, by simp [List.getLast?_append, isLast], isBreak⟩

/-- Lines that do not reach to the end of the file end in a line break. -/
theorem slice_ended {lines : List (List Char)} (ended : lines.Pairwise fun earlier _ => Lines.Ended earlier)
    {first last : Nat} (some_ : first < last) (inside : last < lines.length) :
    Lines.Ended ((lines.take last).drop first).flatten := by
  obtain ⟨index, rfl⟩ : ∃ index, last = index + 1 := ⟨last - 1, by omega⟩
  have lastEnded := List.pairwise_iff_getElem.mp ended index (index + 1) (by omega) inside (by omega)
  have front : first ≤ (lines.take index).length := by
    rw [List.length_take]
    omega
  rw [List.take_succ_eq_append_getElem (by omega), List.drop_append_of_le_length front,
    List.flatten_append, List.flatten_singleton]
  exact ended_append lastEnded _

theorem withRaw_pairwise {lines : List (List Char)}
    (ended : lines.Pairwise fun earlier _ => Lines.Ended earlier) {rows : List CsvRow} {consumed : Nat}
    (chain : (consumed :: rows.map CsvRow.lineNum).IsChain (· < ·))
    (bounded : ∀ row ∈ rows, row.lineNum ≤ lines.length) :
    (withRaw lines consumed rows).Pairwise fun earlier _ => Lines.Ended earlier.rawText := by
  induction rows generalizing consumed with
  | nil => exact .nil
  | cons row rest ih =>
      rw [List.map_cons, List.isChain_cons_cons] at chain
      have later := ih chain.2 fun row member => bounded row (List.mem_cons_of_mem _ member)
      refine .cons (fun other member => ?_) later
      cases rest with
      | nil => cases member
      | cons next rest =>
          have follows := (List.isChain_cons_cons.mp chain.2).1
          have within := bounded next (by simp)
          exact slice_ended ended chain.1 (by omega)

theorem withRaw_ne_nil {lines : List (List Char)} (filled : ∀ line ∈ lines, line ≠ [])
    {rows : List CsvRow} {consumed : Nat} (chain : (consumed :: rows.map CsvRow.lineNum).IsChain (· < ·))
    (bounded : ∀ row ∈ rows, row.lineNum ≤ lines.length) :
    ∀ row ∈ withRaw lines consumed rows, row.rawText ≠ [] := by
  induction rows generalizing consumed with
  | nil => simp [withRaw]
  | cons row rest ih =>
      rw [List.map_cons, List.isChain_cons_cons] at chain
      intro raw member
      rcases List.mem_cons.mp member with isFirst | later
      · have within := bounded row List.mem_cons_self
        have taken : (lines.take row.lineNum).drop consumed ≠ [] := by
          rw [ne_eq, List.drop_eq_nil_iff, List.length_take]
          omega
        obtain ⟨line, isTaken⟩ := List.exists_mem_of_ne_nil _ taken
        have isLine := List.mem_of_mem_take (List.mem_of_mem_drop isTaken)
        rw [isFirst]
        intro empty
        exact filled line isLine (List.flatten_eq_nil_iff.mp empty line isTaken)
      · exact ih chain.2 (fun row member => bounded row (List.mem_cons_of_mem _ member)) raw later

/-- Every row but the last is read from text that ends in a line break. -/
theorem iterRowsWithRaw_pairwise (delimiter : String) (content : FileContent) :
    (iterRowsWithRaw delimiter content).rows.Pairwise fun earlier _ => Lines.Ended earlier.rawText := by
  unfold iterRowsWithRaw
  split
  · exact .nil
  · exact .nil
  next characters =>
      split
      next delimiter _ =>
          obtain ⟨chain, bounded⟩ := csvReader_lineNums delimiter (Lines.split characters)
          exact withRaw_pairwise (Lines.split_pairwise characters) chain bounded
      next => exact .nil

theorem iterRowsWithRaw_ne_nil (delimiter : String) (content : FileContent) :
    ∀ row ∈ (iterRowsWithRaw delimiter content).rows, row.rawText ≠ [] := by
  unfold iterRowsWithRaw
  split
  · simp
  · simp
  next characters =>
      split
      next delimiter _ =>
          obtain ⟨chain, bounded⟩ := csvReader_lineNums delimiter (Lines.split characters)
          exact withRaw_ne_nil (Lines.split_ne_nil characters) chain bounded
      next => simp

theorem slice_append {lines : List (List Char)} {first middle last : Nat} (before : first ≤ middle)
    (after : middle ≤ last) :
    (lines.take middle).drop first ++ (lines.take last).drop middle = (lines.take last).drop first := by
  have whole : last - first = (middle - first) + (last - middle) := by omega
  have rest : lines.drop middle = (lines.drop first).drop (middle - first) := by
    rw [List.drop_drop, Nat.add_sub_cancel' before]
  rw [List.drop_take, List.drop_take, List.drop_take, whole, List.take_add, rest]

/-- The line that the last row ends with. -/
def lastLine (consumed : Nat) (rows : List CsvRow) : Nat :=
  ((rows.map CsvRow.lineNum).getLast?).getD consumed

theorem lastLine_cons (consumed : Nat) (row : CsvRow) (rest : List CsvRow) :
    lastLine consumed (row :: rest) = lastLine row.lineNum rest := by
  rw [lastLine, List.map_cons, List.getLast?_cons, Option.getD_some, lastLine]

theorem withRaw_flatten {lines : List (List Char)} {rows : List CsvRow} {consumed : Nat}
    (chain : (consumed :: rows.map CsvRow.lineNum).IsChain (· < ·)) :
    consumed ≤ lastLine consumed rows ∧
      ((withRaw lines consumed rows).map RawRow.rawText).flatten =
        ((lines.take (lastLine consumed rows)).drop consumed).flatten := by
  induction rows generalizing consumed with
  | nil =>
      have nothing : (lines.take consumed).drop consumed = [] :=
        List.drop_eq_nil_of_le (List.length_take_le _ _)
      exact ⟨le_rfl, congrArg List.flatten nothing.symm⟩
  | cons row rest ih =>
      rw [List.map_cons, List.isChain_cons_cons] at chain
      obtain ⟨after, texts⟩ := ih chain.2
      rw [lastLine_cons]
      refine ⟨chain.1.le.trans after, ?_⟩
      rw [withRaw, List.map_cons, List.flatten_cons, texts, ← List.flatten_append,
        slice_append chain.1.le after]

/-- A file that is read to its end is the texts of its rows. -/
theorem iterRowsWithRaw_flatten {delimiter : String} {characters : List Char}
    (exhausted : (iterRowsWithRaw delimiter (.text characters)).raises = none) :
    ((iterRowsWithRaw delimiter (.text characters)).rows.map RawRow.rawText).flatten = characters := by
  unfold iterRowsWithRaw at exhausted ⊢
  dsimp only at exhausted ⊢
  split at exhausted
  next delimiter _ =>
      obtain ⟨_, texts⟩ := @withRaw_flatten (Lines.split characters) _ 0
        (csvReader_lineNums delimiter (Lines.split characters)).1
      have reached : lastLine 0 (csvReader delimiter (Lines.split characters)).rows =
          (Lines.split characters).length := csvReader_last (Option.map_eq_none_iff.mp exhausted)
      dsimp only
      rw [texts, List.drop_zero, reached, List.take_length, Lines.split_flatten]
  next => cases exhausted

theorem withRaw_take (lines : List (List Char)) (consumed : Nat) (rows : List CsvRow) (index : Nat) :
    (withRaw lines consumed rows).take index = withRaw lines consumed (rows.take index) := by
  induction rows generalizing consumed index with
  | nil => simp [withRaw]
  | cons row rest ih =>
      cases index with
      | zero => rfl
      | succ index => rw [withRaw, List.take_succ_cons, ih, List.take_succ_cons, withRaw]

theorem withRaw_number {lines : List (List Char)} {consumed index : Nat} {rows : List CsvRow}
    {row : RawRow} (found : (withRaw lines consumed rows)[index]? = some row) :
    row.rawRowNumber = lastLine consumed (rows.take index) + 1 := by
  induction rows generalizing consumed index with
  | nil => cases found
  | cons first rest ih =>
      cases index with
      | zero =>
          cases found
          rfl
      | succ index =>
          rw [List.take_succ_cons, lastLine_cons]
          exact ih found

theorem lastLine_le {bound consumed : Nat} {rows : List CsvRow} (start : consumed ≤ bound)
    (bounded : ∀ row ∈ rows, row.lineNum ≤ bound) : lastLine consumed rows ≤ bound := by
  induction rows generalizing consumed with
  | nil => exact start
  | cons row rest ih =>
      rw [lastLine_cons]
      exact ih (bounded row List.mem_cons_self) fun other member =>
        bounded other (List.mem_cons_of_mem row member)

/-- A row's number is one more than the number of lines that the rows before it are made of. -/
theorem iterRowsWithRaw_number {delimiter : String} {characters : List Char} {index : Nat} {row : RawRow}
    (found : (iterRowsWithRaw delimiter (.text characters)).rows[index]? = some row) :
    row.rawRowNumber = (Lines.split
      (((iterRowsWithRaw delimiter (.text characters)).rows.take index).map RawRow.rawText).flatten).length
        + 1 := by
  unfold iterRowsWithRaw at found ⊢
  dsimp only at found ⊢
  split at found
  next delimiter _ =>
      obtain ⟨chain, bounded⟩ := csvReader_lineNums delimiter (Lines.split characters)
      have front := (csvReader delimiter (Lines.split characters)).rows.take_prefix index
      have chain : (0 :: ((csvReader delimiter (Lines.split characters)).rows.take index).map
          CsvRow.lineNum).IsChain (· < ·) :=
        chain.prefix ((List.prefix_cons_inj 0).mpr (front.map CsvRow.lineNum))
      have texts := (@withRaw_flatten (Lines.split characters) _ 0 chain).2
      have within := lastLine_le (Nat.zero_le _) fun row member => bounded row (front.mem member)
      dsimp only
      rw [withRaw_take, texts, List.drop_zero, Lines.split_take, List.length_take_of_le within,
        withRaw_number found]
  next => cases found

/-- The records come from the rows, in their order. -/
theorem FileReader.streamRows_sublist (startLine endLine firstN : Option Int)
    (raises : Option ReadError) {self : FileReader} {dataLineNumber emitted : Nat} (rows : List RawRow) :
    ((streamRows startLine endLine firstN raises self dataLineNumber emitted rows).yielded.map
      RawRowRecord.rawText).Sublist (rows.map RawRow.rawText) := by
  induction rows generalizing self dataLineNumber emitted with
  | nil => exact .slnil
  | cons row rest ih =>
      rw [streamRows, List.map_cons]
      split
      next => exact ih.cons _
      next =>
          dsimp only
          split
          next => exact ih.cons _
          next =>
              split
              next =>
                  split
                  next => exact List.nil_sublist _
                  next => exact ih.cons _
              next =>
                  split
                  next => exact List.nil_sublist _
                  next => exact ih.cons_cons _

theorem FileReader.streamRows_raises (raises : Option ReadError) {self : FileReader}
    {dataLineNumber emitted : Nat} (rows : List RawRow) :
    (streamRows none none none raises self dataLineNumber emitted rows).raises = raises := by
  induction rows generalizing self dataLineNumber emitted with
  | nil => rfl
  | cons row rest ih =>
      rw [streamRows]
      split
      next => exact ih
      next =>
          dsimp only
          split
          next => exact ih
          next =>
              rw [if_neg (by simp [lineIsSelected]), if_neg (by simp)]
              exact ih

theorem FileReader.iterValidRawRows_raises (self : FileReader) (content : FileContent) :
    (self.iterValidRawRows content none none none).raises =
      (iterRowsWithRaw self.delimiter content).raises :=
  streamRows_raises _ _

end TcpSim.Engine
