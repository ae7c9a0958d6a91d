import TcpSim.Engine.LineSelections

/-! The scan and the preview of a file, beside the streaming of its rows: four loops that each
find the header and the expected columns again. -/

set_option autoImplicit false

namespace TcpSim.Engine

structure ScanSnapshot where
  totalRows : Nat := 0
  dataRows : Nat := 0
  validRows : Nat := 0
  invalidRows : Nat := 0
  processedRows : Nat := 0
  completed : Bool := false
  deriving DecidableEq, Repr

/-- The snapshots that a scan publishes, with the empty one of the reset before them. -/
structure Scanned where
  published : List ScanSnapshot
  reader : FileReader
  raises : Option ReadError := none

/-- `get_scan_snapshot` at the end of `scan_file`, where it is reached. -/
def Scanned.returned (self : Scanned) : Option ScanSnapshot :=
  match self.raises with
  | none => self.published.getLast?
  | some _ => none

structure PreviewRow where
  rawRowNumber : Nat
  fields : List (List Char)
  valid : Bool
  deriving DecidableEq, Repr

structure Previewed where
  preview : List PreviewRow
  reader : FileReader
  raises : Option ReadError := none

namespace FileReader

/-- The header as the loops over `_iter_rows` take it, without its text. -/
def takeHeaderFields (self : FileReader) (row : List (List Char)) : FileReader :=
  { self with header := some row, expectedColumns := some row.length }

/-- The loop of `scan_file` over the rows that are left, and what follows it. -/
def scanRows (raises : Option ReadError) (self : FileReader)
    (totalRows dataRows validRows invalidRows : Nat) : List (Nat × List (List Char)) → Scanned
  | [] =>
      match raises with
      | some error => { published := [], reader := self, raises := some error }
      | none =>
          { published := [{
              totalRows, dataRows, validRows, invalidRows
              processedRows := totalRows, completed := true }]
            reader := self }
  | (rawRowNumber, row) :: rest =>
      let totalRows := totalRows + 1
      if self.hasHeader ∧ self.header.isNone then
        let later := scanRows raises (self.takeHeaderFields row) totalRows dataRows validRows
          invalidRows rest
        { later with
          published := {
            totalRows, dataRows, validRows, invalidRows
            processedRows := rawRowNumber } :: later.published }
      else
        let dataRows := dataRows + 1
        let (valid, self) := self.isValidDataRow row
        let validRows := if valid then validRows + 1 else validRows
        let invalidRows := if valid then invalidRows else invalidRows + 1
        let later := scanRows raises self totalRows dataRows validRows invalidRows rest
        { later with
          published := {
            totalRows, dataRows, validRows, invalidRows
            processedRows := rawRowNumber } :: later.published }

def scanFile (self : FileReader) (content : FileContent) : Scanned :=
  let rows := (iterRowsWithRaw self.delimiter content).iterRows
  let scanned := scanRows rows.2 self.resetScanState 0 0 0 0 rows.1
  { scanned with published := {} :: scanned.published }

/-- The loop of `load_preview`, with `count` rows in the preview. -/
def previewRows (raises : Option ReadError) (limit : Int) (self : FileReader) (count : Nat) :
    List (Nat × List (List Char)) → Previewed
  | [] => { preview := [], reader := self, raises }
  | (rawRowNumber, fields) :: rest =>
      if self.hasHeader ∧ self.header.isNone then
        previewRows raises limit (self.takeHeaderFields fields) count rest
      else
        let (valid, self) := self.isValidDataRow fields
        if limit ≤ count + 1 then { preview := [{ rawRowNumber, fields, valid }], reader := self }
        else
          let later := previewRows raises limit self (count + 1) rest
          { later with preview := { rawRowNumber, fields, valid } :: later.preview }

def loadPreview (self : FileReader) (content : FileContent) (limit : Int) : Previewed :=
  if limit ≤ 0 then { preview := [], reader := self }
  else
    let rows := (iterRowsWithRaw self.delimiter content).iterRows
    previewRows rows.2 limit self.resetScanState 0 rows.1

/-! ## Calls -/

end FileReader

inductive ReaderCall where
  | scanFile
  | loadPreview (limit : Int)
  | iterValidRows (startLine endLine firstN : Option Int)
  | iterValidRawRows (startLine endLine firstN : Option Int)

namespace FileReader

variable {self : FileReader}

/-- The reader after a call, the generators being run to their end. -/
def call (content : FileContent) (self : FileReader) : ReaderCall → FileReader
  | .scanFile => (self.scanFile content).reader
  | .loadPreview limit => (self.loadPreview content limit).reader
  | .iterValidRows startLine endLine firstN =>
      (self.iterValidRows content startLine endLine firstN).reader
  | .iterValidRawRows startLine endLine firstN =>
      (self.iterValidRawRows content startLine endLine firstN).reader

def afterCalls (content : FileContent) (self : FileReader) (calls : List ReaderCall) : FileReader :=
  calls.foldl (call content) self

/-- The settings of the constructor are the same. -/
structure SameFile (reader other : FileReader) : Prop where
  delimiter : other.delimiter = reader.delimiter
  hasHeader : other.hasHeader = reader.hasHeader

theorem SameFile.trans {first second third : FileReader} (one : SameFile first second)
    (two : SameFile second third) : SameFile first third :=
  ⟨two.delimiter.trans one.delimiter, two.hasHeader.trans one.hasHeader⟩

theorem takeHeader_sameFile (self : FileReader) (row : RawRow) : SameFile self (self.takeHeader row) :=
  ⟨rfl, rfl⟩

theorem takeHeaderFields_sameFile (self : FileReader) (row : List (List Char)) :
    SameFile self (self.takeHeaderFields row) :=
  ⟨rfl, rfl⟩

theorem isValidDataRow_sameFile (self : FileReader) (fields : List (List Char)) :
    SameFile self (self.isValidDataRow fields).2 := by
  unfold isValidDataRow
  split <;> exact ⟨rfl, rfl⟩

theorem streamRows_sameFile (startLine endLine firstN : Option Int) (raises : Option ReadError)
    (self : FileReader) (dataLineNumber emitted : Nat) (rows : List RawRow) :
    SameFile self (streamRows startLine endLine firstN raises self dataLineNumber emitted rows).reader := by
  induction rows generalizing self dataLineNumber emitted with
  | nil => exact ⟨rfl, rfl⟩
  | cons row rest ih =>
      have valid := self.isValidDataRow_sameFile row.fields
      rw [streamRows]
      split
      next => exact (self.takeHeader_sameFile row).trans (ih _ _ _)
      next =>
          dsimp only
          split
          next => exact valid.trans (ih _ _ _)
          next =>
              split
              next =>
                  split
                  next => exact valid
                  next => exact valid.trans (ih _ _ _)
              next =>
                  split
                  next => exact valid
                  next => exact valid.trans (ih _ _ _)

theorem streamFields_sameFile (startLine endLine firstN : Option Int) (raises : Option ReadError)
    (self : FileReader) (dataLineNumber emitted : Nat) (rows : List (Nat × List (List Char))) :
    SameFile self (streamFields startLine endLine firstN raises self dataLineNumber emitted rows).reader := by
  induction rows generalizing self dataLineNumber emitted with
  | nil => exact ⟨rfl, rfl⟩
  | cons row rest ih =>
      have valid := self.isValidDataRow_sameFile row.2
      rw [streamFields]
      split
      next => exact (self.takeHeaderFields_sameFile row.2).trans (ih _ _ _)
      next =>
          dsimp only
          split
          next => exact valid.trans (ih _ _ _)
          next =>
              split
              next =>
                  split
                  next => exact valid
                  next => exact valid.trans (ih _ _ _)
              next =>
                  split
                  next => exact valid
                  next => exact valid.trans (ih _ _ _)

theorem scanRows_sameFile (raises : Option ReadError) (self : FileReader)
    (totalRows dataRows validRows invalidRows : Nat) (rows : List (Nat × List (List Char))) :
    SameFile self (scanRows raises self totalRows dataRows validRows invalidRows rows).reader := by
  induction rows generalizing self totalRows dataRows validRows invalidRows with
  | nil => cases raises <;> exact ⟨rfl, rfl⟩
  | cons row rest ih =>
      rw [scanRows]
      split
      next => exact (self.takeHeaderFields_sameFile row.2).trans (ih _ _ _ _ _)
      next => exact (self.isValidDataRow_sameFile row.2).trans (ih _ _ _ _ _)

theorem previewRows_sameFile (raises : Option ReadError) (limit : Int) (self : FileReader)
    (count : Nat) (rows : List (Nat × List (List Char))) :
    SameFile self (previewRows raises limit self count rows).reader := by
  induction rows generalizing self count with
  | nil => exact ⟨rfl, rfl⟩
  | cons row rest ih =>
      have valid := self.isValidDataRow_sameFile row.2
      rw [previewRows]
      split
      next => exact (self.takeHeaderFields_sameFile row.2).trans (ih _ _)
      next =>
          dsimp only
          split
          next => exact valid
          next => exact valid.trans (ih _ _)

theorem call_sameFile (content : FileContent) (self : FileReader) (call : ReaderCall) :
    SameFile self (self.call content call) := by
  have reset : SameFile self self.resetScanState := ⟨rfl, rfl⟩
  cases call with
  | scanFile => exact reset.trans (scanRows_sameFile _ _ _ _ _ _ _)
  | loadPreview limit =>
      unfold FileReader.call loadPreview
      dsimp only
      split
      · exact ⟨rfl, rfl⟩
      · exact reset.trans (previewRows_sameFile _ _ _ _ _)
  | iterValidRows startLine endLine firstN =>
      unfold FileReader.call iterValidRows
      dsimp only
      split
      · exact ⟨rfl, rfl⟩
      · exact reset.trans (streamFields_sameFile _ _ _ _ _ _ _ _)
  | iterValidRawRows startLine endLine firstN =>
      unfold FileReader.call iterValidRawRows
      dsimp only
      split
      · exact ⟨rfl, rfl⟩
      · exact reset.trans (streamRows_sameFile _ _ _ _ _ _ _ _)

theorem afterCalls_sameFile (content : FileContent) (self : FileReader) (calls : List ReaderCall) :
    SameFile self (self.afterCalls content calls) := by
  induction calls generalizing self with
  | nil => exact ⟨rfl, rfl⟩
  | cons call calls ih => exact (self.call_sameFile content call).trans (ih _)

/-! ## What the scan counts -/

/-- The row of a preview, marked as a row of `columns` fields or not. -/
def previewRow (columns : Option Nat) (row : RawRow) : PreviewRow where
  rawRowNumber := row.rawRowNumber
  fields := row.fields
  valid := columns == some row.fields.length

def withoutText (rows : List RawRow) : List (Nat × List (List Char)) :=
  rows.map fun row => (row.rawRowNumber, row.fields)

theorem isValidDataRow_hasHeader (inData : ¬(self.hasHeader = true ∧ self.header.isNone = true))
    (fields : List (List Char)) : ¬((self.isValidDataRow fields).2.hasHeader = true ∧
      (self.isValidDataRow fields).2.header.isNone = true) := by
  unfold isValidDataRow
  split <;> exact inData

theorem validRows_length_le (self : FileReader) (rows : List RawRow) :
    (self.validRows rows).length ≤ rows.length := by
  induction rows generalizing self with
  | nil => exact le_rfl
  | cons row rest ih =>
      rw [validRows]
      split
      next => exact (ih _).trans (Nat.le_succ _)
      next =>
          dsimp only
          split
          next => exact Nat.succ_le_succ (ih _)
          next => exact (ih _).trans (Nat.le_succ _)

theorem scanRows_raises (raises : Option ReadError) (self : FileReader)
    (totalRows dataRows validRows invalidRows : Nat) (rows : List (Nat × List (List Char))) :
    (scanRows raises self totalRows dataRows validRows invalidRows rows).raises = raises := by
  induction rows generalizing self totalRows dataRows validRows invalidRows with
  | nil => cases raises <;> rfl
  | cons row rest ih =>
      rw [scanRows]
      split
      next => exact ih _ _ _ _ _
      next => exact ih _ _ _ _ _

/-- Behind the header, the last snapshot has counted every row, and the valid ones among them. -/
theorem scanRows_final (inData : ¬(self.hasHeader = true ∧ self.header.isNone = true))
    (totalRows dataRows validRows invalidRows : Nat) (rows : List RawRow) :
    (scanRows none self totalRows dataRows validRows invalidRows (withoutText rows)).published.getLast? =
      some {
        totalRows := totalRows + rows.length
        dataRows := dataRows + rows.length
        validRows := validRows + (self.validRows rows).length
        invalidRows := invalidRows + (rows.length - (self.validRows rows).length)
        processedRows := totalRows + rows.length
        completed := true } := by
  induction rows generalizing self totalRows dataRows validRows invalidRows with
  | nil => rfl
  | cons row rest ih =>
      have stillData := isValidDataRow_hasHeader inData row.fields
      have fewer := (self.isValidDataRow row.fields).2.validRows_length_le rest
      rw [withoutText, List.map_cons, scanRows, if_neg inData, FileReader.validRows, if_neg inData,
        List.getLast?_cons, ← withoutText, ih stillData]
      dsimp only
      cases valid : (self.isValidDataRow row.fields).1 with
      | true =>
          simp only [if_true, Option.getD_some, List.length_cons, Option.some.injEq,
            ScanSnapshot.mk.injEq, and_true]
          omega
      | false =>
          simp only [Bool.false_eq_true, if_false, Option.getD_some, List.length_cons,
            Option.some.injEq, ScanSnapshot.mk.injEq, and_true, true_and]
          omega

/-- The last snapshot of a scan that reads the file to its end. -/
theorem scanFile_final (self : FileReader) {content : FileContent}
    (exhausted : (iterRowsWithRaw self.delimiter content).raises = none) :
    ∃ final, (self.scanFile content).returned = some final ∧
      final.dataRows = (dataRows self.hasHeader (iterRowsWithRaw self.delimiter content).rows).length ∧
      final.validRows = (self.allRows content).length ∧
      final.invalidRows = final.dataRows - final.validRows := by
  have returned : (self.scanFile content).returned =
      some (((scanRows none self.resetScanState 0 0 0 0
        (withoutText (iterRowsWithRaw self.delimiter content).rows)).published.getLast?).getD {}) := by
    unfold Scanned.returned scanFile RawRows.iterRows
    dsimp only
    rw [scanRows_raises, exhausted]
    exact List.getLast?_cons
  refine ⟨_, returned, ?_⟩
  unfold allRows
  cases isHeader : self.hasHeader with
  | false =>
      have inData : ¬(self.resetScanState.hasHeader = true ∧ self.resetScanState.header.isNone = true) := by
        simp [resetScanState, isHeader]
      rw [scanRows_final inData]
      simp [dataRows]
  | true =>
      cases (iterRowsWithRaw self.delimiter content).rows with
      | nil => exact ⟨rfl, rfl, rfl⟩
      | cons first rest =>
          have inData : ¬((self.resetScanState.takeHeaderFields first.fields).hasHeader = true ∧
              (self.resetScanState.takeHeaderFields first.fields).header.isNone = true) := by
            simp [takeHeaderFields]
          have sameRows : (self.resetScanState.takeHeaderFields first.fields).validRows rest =
              (self.resetScanState.takeHeader first).validRows rest := by
            rw [validRows_of_columns rfl inData, validRows_of_columns rfl (by simp [takeHeader])]
          have atHeader : self.resetScanState.hasHeader = true ∧ self.resetScanState.header.isNone = true :=
            ⟨isHeader, rfl⟩
          rw [withoutText, List.map_cons, scanRows, if_pos atHeader, validRows, if_pos atHeader,
            List.getLast?_cons, ← withoutText, scanRows_final inData, sameRows]
          simp [dataRows]

/-! ## What the preview shows -/

theorem previewRows_of_columns {columns : Nat} (known : self.expectedColumns = some columns)
    (inData : ¬(self.hasHeader = true ∧ self.header.isNone = true)) (raises : Option ReadError)
    {limit : Int} {count : Nat} (room : count < limit) (rows : List RawRow) :
    (previewRows raises limit self count (withoutText rows)).preview =
      (rows.take (limit - count).toNat).map (previewRow (some columns)) := by
  induction rows generalizing count with
  | nil => rw [List.take_nil]; rfl
  | cons row rest ih =>
      have valid : self.isValidDataRow row.fields = (row.fields.length == columns, self) := by
        rw [isValidDataRow, known]
      have marked : ({ rawRowNumber := row.rawRowNumber, fields := row.fields
                       valid := row.fields.length == columns } : PreviewRow) =
          previewRow (some columns) row := by
        rw [previewRow, Option.some_beq_some, BEq.comm]
      rw [withoutText, List.map_cons, previewRows, if_neg inData, valid, ← withoutText]
      dsimp only
      split
      next full =>
          have one : (limit - count).toNat = 1 := by omega
          rw [one, marked]
          rfl
      next more =>
          obtain ⟨left, same⟩ : ∃ left, (limit - count).toNat = left + 1 :=
            ⟨(limit - count).toNat - 1, by omega⟩
          have fewer : (limit - (count + 1 : Nat)).toNat = left := by omega
          rw [ih (by omega), same, fewer, List.take_succ_cons, List.map_cons, marked]

theorem loadPreview_preview (self : FileReader) (content : FileContent) (limit : Int) :
    (self.loadPreview content limit).preview =
      ((dataRows self.hasHeader (iterRowsWithRaw self.delimiter content).rows).take limit.toNat).map
        (previewRow ((iterRowsWithRaw self.delimiter content).rows.head?.map fun first =>
          first.fields.length)) := by
  unfold loadPreview
  split
  next none_ =>
      have zero : limit.toNat = 0 := by omega
      rw [zero, List.take_zero]
      rfl
  next positive =>
      dsimp only [RawRows.iterRows]
      cases (iterRowsWithRaw self.delimiter content).rows with
      | nil =>
          cases self.hasHeader <;> simp [dataRows, previewRows]
      | cons first rest =>
          rw [← withoutText, withoutText, List.map_cons, ← withoutText, previewRows]
          cases isHeader : self.hasHeader with
          | true =>
              have atHeader : self.resetScanState.hasHeader = true ∧
                self.resetScanState.header.isNone = true := ⟨isHeader, rfl⟩
              have room : ((0 : Nat) : Int) < limit := by omega
              rw [if_pos atHeader, previewRows_of_columns rfl (by simp [takeHeaderFields]) _ room]
              simp [dataRows]
          | false =>
              have inData : ¬(self.resetScanState.hasHeader = true ∧
                  self.resetScanState.header.isNone = true) := by
                simp [resetScanState, isHeader]
              obtain ⟨left, same⟩ : ∃ left, limit.toNat = left + 1 := ⟨limit.toNat - 1, by omega⟩
              have marked : previewRow (some first.fields.length) first =
                  { rawRowNumber := first.rawRowNumber, fields := first.fields, valid := true } := by
                simp [previewRow]
              rw [if_neg inData, dataRows, if_neg (by simp), same, List.take_succ_cons, List.map_cons,
                List.head?_cons, Option.map_some, marked]
              dsimp only [isValidDataRow, resetScanState]
              split
              next full =>
                  obtain rfl : left = 0 := by omega
                  rfl
              next more =>
                  have room : ((0 + 1 : Nat) : Int) < limit := by omega
                  have fewer : (limit - (0 + 1 : Nat)).toNat = left := by omega
                  rw [previewRows_of_columns rfl (by simp [isHeader]) _ room, fewer]

theorem previewRows_raises (limit : Int) (self : FileReader) (count : Nat)
    (rows : List (Nat × List (List Char))) :
    (previewRows none limit self count rows).raises = none := by
  induction rows generalizing self count with
  | nil => rfl
  | cons row rest ih =>
      rw [previewRows]
      split
      next => exact ih _ _
      next =>
          dsimp only
          split
          next => rfl
          next => exact ih _ _

theorem loadPreview_raises {content : FileContent}
    (exhausted : (iterRowsWithRaw self.delimiter content).raises = none) (limit : Int) :
    (self.loadPreview content limit).raises = none := by
  unfold loadPreview
  split
  · rfl
  · dsimp only [RawRows.iterRows]
    rw [exhausted]
    exact previewRows_raises _ _ _ _

end FileReader

theorem numbered_length (dataLineNumber : Nat) (rows : List RawRow) :
    (numbered dataLineNumber rows).length = rows.length := by
  induction rows generalizing dataLineNumber with
  | nil => rfl
  | cons row rest ih => exact congrArg (· + 1) (ih (dataLineNumber + 1))

/-- Whatever calls were made on the reader before: both ways to stream yield the valid rows,
numbered from 1; a scan counts them and the others; the preview shows the first data rows, each
marked as it is streamed or not; and where the file is read to its end, no call raises. -/
theorem scan_preview_streaming_agree (delimiter : String) (hasHeader : Bool) (content : FileContent)
    (calls : List ReaderCall) (limit : Int) :
    let reader := ({ delimiter, hasHeader } : FileReader).afterCalls content calls
    let read := iterRowsWithRaw delimiter content
    let isStreamed := hasExpectedColumns read.rows
    let raw := reader.iterValidRawRows content none none none
    let fields := reader.iterValidRows content none none none
    raw.yielded = numbered 0 ((dataRows hasHeader read.rows).filter isStreamed) ∧
      fields.yielded = raw.yielded.map RawRowRecord.toRow ∧
      (∀ index record, fields.yielded[index]? = some record → record.dataLineNumber = index + 1) ∧
      (reader.loadPreview content limit).preview =
        ((dataRows hasHeader read.rows).take limit.toNat).map (fun row =>
          { rawRowNumber := row.rawRowNumber, fields := row.fields, valid := isStreamed row }) ∧
      (read.raises = none →
        raw.raises = none ∧ fields.raises = none ∧ (reader.loadPreview content limit).raises = none ∧
        ∃ final, (reader.scanFile content).returned = some final ∧
          final.validRows = fields.yielded.length ∧
          final.dataRows = (dataRows hasHeader read.rows).length ∧
          final.dataRows = final.validRows + final.invalidRows) := by
  intro reader read isStreamed raw fields
  have same := FileReader.afterCalls_sameFile content { delimiter, hasHeader } calls
  have delimiterSame : reader.delimiter = delimiter := same.delimiter
  have headerSame : reader.hasHeader = hasHeader := same.hasHeader
  have valid := reader.allRows_eq content
  rw [delimiterSame, headerSame] at valid
  obtain ⟨fieldsYielded, fieldsRaises⟩ := reader.iterValidRows_eq content none none none
  have rawYielded : raw.yielded = numbered 0 (reader.allRows content) := reader.iterValidRawRows_all content
  refine ⟨rawYielded.trans (congrArg _ valid), fieldsYielded, ?_, ?_, ?_⟩
  · intro index record found
    rw [fieldsYielded, rawYielded, List.getElem?_map, Option.map_eq_some_iff] at found
    obtain ⟨entry, isEntry, rfl⟩ := found
    rw [RawRowRecord.toRow, numbered_getElem? isEntry, Nat.zero_add]
  · have preview := reader.loadPreview_preview content limit
    rw [delimiterSame, headerSame] at preview
    exact preview
  · intro exhausted
    have exhausted : (iterRowsWithRaw reader.delimiter content).raises = none := by
      rw [delimiterSame]
      exact exhausted
    have rawRaises : raw.raises = none := (reader.iterValidRawRows_raises content).trans exhausted
    obtain ⟨final, returned, counted, validCount, invalidCount⟩ := reader.scanFile_final exhausted
    rw [delimiterSame, headerSame] at counted
    have counted : final.dataRows = (dataRows hasHeader read.rows).length := counted
    have fewer : (reader.allRows content).length ≤ (dataRows hasHeader read.rows).length := by
      rw [valid]
      exact List.length_filter_le _ _
    refine ⟨rawRaises, fieldsRaises.trans rawRaises, FileReader.loadPreview_raises exhausted limit,
      final, returned, ?_, counted, by omega⟩
    rw [validCount, fieldsYielded, rawYielded, List.length_map, numbered_length]

end TcpSim.Engine
