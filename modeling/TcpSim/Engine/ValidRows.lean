import TcpSim.Engine.FileReader

/-! The valid rows of a file: what the reader's loop keeps, and that these are the rows with as
many fields as the first one. -/

set_option autoImplicit false

namespace TcpSim.Engine

/-! ## Without the text -/

def RawRowRecord.toRow (self : RawRowRecord) : RowRecord where
  dataLineNumber := self.dataLineNumber
  fields := self.fields

def FileReader.withoutRaw (self : FileReader) : FileReader := { self with headerRaw := none }

def Streamed.withoutRaw (self : Streamed) : StreamedFields where
  yielded := self.yielded.map RawRowRecord.toRow
  reader := self.reader.withoutRaw
  raises := self.raises

theorem FileReader.isValidDataRow_withoutRaw (self : FileReader) (fields : List (List Char)) :
    self.withoutRaw.isValidDataRow fields =
      ((self.isValidDataRow fields).1, (self.isValidDataRow fields).2.withoutRaw) := by
  obtain ⟨_, _, _, _, expectedColumns⟩ := self
  cases expectedColumns with
  | none => rfl
  | some columns => rfl

theorem FileReader.streamFields_eq (startLine endLine firstN : Option Int) (raises : Option ReadError)
    (self : FileReader) (dataLineNumber emitted : Nat) (rows : List RawRow) :
    streamFields startLine endLine firstN raises self.withoutRaw dataLineNumber emitted
        (rows.map fun row => (row.rawRowNumber, row.fields)) =
      (streamRows startLine endLine firstN raises self dataLineNumber emitted rows).withoutRaw := by
  induction rows generalizing self dataLineNumber emitted with
  | nil => rfl
  | cons row rest ih =>
      rw [List.map_cons, streamFields, streamRows, isValidDataRow_withoutRaw]
      dsimp only
      by_cases isHeader : self.hasHeader = true ∧ self.header.isNone = true
      · have isHeader' : self.withoutRaw.hasHeader = true ∧ self.withoutRaw.header.isNone = true := isHeader
        rw [if_pos isHeader, if_pos isHeader']
        exact ih (self.takeHeader row) dataLineNumber emitted
      have isData : ¬(self.withoutRaw.hasHeader = true ∧ self.withoutRaw.header.isNone = true) := isHeader
      rw [if_neg isHeader, if_neg isData]
      split
      next => exact ih _ _ _
      next =>
          split
          next =>
              split
              next => rfl
              next => exact ih _ _ _
          next =>
              split
              next => rfl
              next =>
                  rw [ih]
                  rfl

/-- `iter_valid_rows` is `iter_valid_raw_rows` without the text. -/
theorem FileReader.iterValidRows_eq (self : FileReader) (content : FileContent)
    (startLine endLine firstN : Option Int) :
    (self.iterValidRows content startLine endLine firstN).yielded =
        (self.iterValidRawRows content startLine endLine firstN).yielded.map RawRowRecord.toRow ∧
      (self.iterValidRows content startLine endLine firstN).raises =
        (self.iterValidRawRows content startLine endLine firstN).raises := by
  unfold iterValidRows iterValidRawRows
  cases validateLineControls startLine endLine firstN with
  | error message => exact ⟨rfl, rfl⟩
  | ok =>
      have streamed := streamFields_eq startLine endLine firstN
        (iterRowsWithRaw self.delimiter content).raises self.resetScanState 0 0
        (iterRowsWithRaw self.delimiter content).rows
      exact ⟨congrArg StreamedFields.yielded streamed, congrArg StreamedFields.raises streamed⟩

/-! ## The valid rows -/

/-- The rows that the reader finds valid, from a state of its loop on. -/
def FileReader.validRows (self : FileReader) : List RawRow → List RawRow
  | [] => []
  | row :: rest =>
      if self.hasHeader ∧ self.header.isNone then (self.takeHeader row).validRows rest
      else
        let (valid, self) := self.isValidDataRow row.fields
        if valid then row :: self.validRows rest else self.validRows rest

def RawRow.toRecord (self : RawRow) (dataLineNumber : Nat) : RawRowRecord where
  dataLineNumber := dataLineNumber
  fields := self.fields
  rawText := self.rawText

/-- Consecutive numbers, the first one behind `dataLineNumber`. -/
def numbered (dataLineNumber : Nat) : List RawRow → List RawRowRecord
  | [] => []
  | row :: rest => row.toRecord (dataLineNumber + 1) :: numbered (dataLineNumber + 1) rest

theorem numbered_getElem? {dataLineNumber index : Nat} {rows : List RawRow} {record : RawRowRecord}
    (found : (numbered dataLineNumber rows)[index]? = some record) :
    record.dataLineNumber = dataLineNumber + index + 1 := by
  induction rows generalizing dataLineNumber index with
  | nil => cases found
  | cons row rest ih =>
      cases index with
      | zero =>
          cases found
          rfl
      | succ index =>
          have later := ih (found : (numbered (dataLineNumber + 1) rest)[index]? = some record)
          omega

/-- All valid rows of the file. -/
def FileReader.allRows (self : FileReader) (content : FileContent) : List RawRow :=
  self.resetScanState.validRows (iterRowsWithRaw self.delimiter content).rows

/-! ## Valid rows by their columns -/

def dataRows (hasHeader : Bool) (rows : List RawRow) : List RawRow :=
  if hasHeader then rows.tail else rows

/-- As many fields as in the first row, be it a header or not. -/
def hasExpectedColumns (rows : List RawRow) (row : RawRow) : Bool :=
  rows.head?.map (fun first => first.fields.length) == some row.fields.length

namespace FileReader

variable {self : FileReader}

theorem validRows_of_columns {columns : Nat} (known : self.expectedColumns = some columns)
    (inData : ¬(self.hasHeader = true ∧ self.header.isNone = true)) (rows : List RawRow) :
    self.validRows rows = rows.filter fun row => some columns == some row.fields.length := by
  induction rows with
  | nil => rfl
  | cons row rest ih =>
      have valid : self.isValidDataRow row.fields = (row.fields.length == columns, self) := by
        rw [isValidDataRow, known]
      rw [validRows, if_neg inData, valid, List.filter_cons, ← ih]
      by_cases same : row.fields.length = columns
      · simp [same]
      · simp [same, Ne.symm same]

theorem allRows_eq (self : FileReader) (content : FileContent) :
    self.allRows content =
      (dataRows self.hasHeader (iterRowsWithRaw self.delimiter content).rows).filter
        (hasExpectedColumns (iterRowsWithRaw self.delimiter content).rows) := by
  unfold allRows
  cases (iterRowsWithRaw self.delimiter content).rows with
  | nil => cases self.hasHeader <;> rfl
  | cons first rest =>
      have columns : hasExpectedColumns (first :: rest) = fun row => some first.fields.length == some row.fields.length :=
        rfl
      rw [columns, validRows]
      cases isHeader : self.hasHeader with
      | true =>
          rw [if_pos ⟨isHeader, rfl⟩]
          exact validRows_of_columns rfl (by simp [takeHeader]) rest
      | false =>
          have inData : ¬(self.resetScanState.hasHeader = true ∧ self.resetScanState.header.isNone = true) := by
            simp [resetScanState, isHeader]
          have later := @validRows_of_columns
            { self.resetScanState with expectedColumns := some first.fields.length } _ rfl inData rest
          rw [if_neg inData, dataRows, if_neg (by simp), List.filter_cons_of_pos (by simp)]
          exact congrArg (first :: ·) later

theorem streamRows_headerRaw (startLine endLine firstN : Option Int) (raises : Option ReadError)
    (self : FileReader) (inData : ¬(self.hasHeader = true ∧ self.header.isNone = true))
    (dataLineNumber emitted : Nat) (rows : List RawRow) :
    (streamRows startLine endLine firstN raises self dataLineNumber emitted rows).reader.headerRaw =
      self.headerRaw := by
  induction rows generalizing self dataLineNumber emitted with
  | nil => rfl
  | cons row rest ih =>
      obtain ⟨columns, kept⟩ : ∃ columns, (self.isValidDataRow row.fields).2 =
          { self with expectedColumns := columns } := by
        unfold isValidDataRow
        split
        · exact ⟨_, rfl⟩
        · exact ⟨self.expectedColumns, rfl⟩
      have later := ih { self with expectedColumns := columns } inData
      rw [streamRows, if_neg inData]
      dsimp only
      rw [kept]
      split
      next => exact later _ _
      next =>
          split
          next =>
              split
              next => rfl
              next => exact later _ _
          next =>
              split
              next => rfl
              next => exact later _ _

theorem iterValidRawRows_headerRaw (self : FileReader) (content : FileContent) :
    (self.iterValidRawRows content none none none).reader.headerRaw =
      if self.hasHeader then ((iterRowsWithRaw self.delimiter content).rows.head?).map RawRow.rawText
      else none := by
  change (streamRows none none none (iterRowsWithRaw self.delimiter content).raises self.resetScanState
    0 0 (iterRowsWithRaw self.delimiter content).rows).reader.headerRaw = _
  cases isHeader : self.hasHeader with
  | true =>
      cases (iterRowsWithRaw self.delimiter content).rows with
      | nil => rfl
      | cons first rest =>
          rw [streamRows, if_pos ⟨isHeader, rfl⟩, streamRows_headerRaw _ _ _ _ _ (by simp [takeHeader])]
          rfl
  | false =>
      rw [streamRows_headerRaw _ _ _ _ _ (by simp [resetScanState, isHeader])]
      rfl

end FileReader

end TcpSim.Engine
