import TcpSim.Engine.FileScan

/-! The progress that a scan publishes. While it reads, `processed_rows` is the number of the
physical line that a row begins on; at the end it is the number of rows. -/

set_option autoImplicit false

namespace TcpSim.Engine

namespace RawRow

/-- The physical lines that the row was read from. -/
def lines (self : RawRow) : Nat := (Lines.split self.rawText).length

end RawRow

/-- The rows follow each other line by line, the first one beginning on line `number`. -/
def Stacked : Nat → List RawRow → Prop
  | _, [] => True
  | number, row :: rest =>
      row.rawRowNumber = number ∧ 1 ≤ row.lines ∧ Stacked (number + row.lines) rest

theorem stacked_withRaw {text : List Char} {rows : List CsvRow} {consumed : Nat}
    (chain : (consumed :: rows.map CsvRow.lineNum).IsChain (· < ·))
    (bounded : ∀ row ∈ rows, row.lineNum ≤ (Lines.split text).length) :
    Stacked (consumed + 1) (withRaw (Lines.split text) consumed rows) := by
  induction rows generalizing consumed with
  | nil => trivial
  | cons row rest ih =>
      rw [List.map_cons, List.isChain_cons_cons] at chain
      have within := bounded row List.mem_cons_self
      have front : Lines.split ((Lines.split text).take row.lineNum).flatten =
          (Lines.split text).take row.lineNum := Lines.split_take text row.lineNum
      have part := Lines.split_drop ((Lines.split text).take row.lineNum).flatten consumed
      rw [front] at part
      have lines : (Lines.split (((Lines.split text).take row.lineNum).drop consumed).flatten).length =
          row.lineNum - consumed := by
        rw [part, List.length_drop, List.length_take_of_le within]
      rw [withRaw]
      refine ⟨rfl, ?_, ?_⟩
      · rw [RawRow.lines, lines]
        omega
      · have after : consumed + 1 + (row.lineNum - consumed) = row.lineNum + 1 := by omega
        rw [RawRow.lines, lines, after]
        exact ih chain.2 fun other member => bounded other (List.mem_cons_of_mem row member)

theorem iterRowsWithRaw_stacked (delimiter : String) (content : FileContent) :
    Stacked 1 (iterRowsWithRaw delimiter content).rows := by
  unfold iterRowsWithRaw
  split
  · trivial
  · trivial
  next characters =>
      split
      next delimiter _ =>
          obtain ⟨chain, bounded⟩ := csvReader_lineNums delimiter (Lines.split characters)
          exact stacked_withRaw chain bounded
      next => trivial

/-- The line that the last row begins on, or `number` if there is no row. -/
def lastNumber (number : Nat) (rows : List RawRow) : Nat :=
  ((rows.getLast?).map RawRow.rawRowNumber).getD number

theorem lastNumber_cons (number : Nat) (row : RawRow) (rest : List RawRow) :
    lastNumber number (row :: rest) = lastNumber row.rawRowNumber rest := by
  rw [lastNumber, lastNumber, List.getLast?_cons]
  cases rest.getLast? <;> rfl

theorem Stacked.le_lastNumber {number : Nat} {row : RawRow} {rest : List RawRow}
    (stacked : Stacked number (row :: rest)) : number + rest.length ≤ lastNumber 0 (row :: rest) := by
  induction rest generalizing number row with
  | nil => exact stacked.1.ge
  | cons next rest ih =>
      obtain ⟨first, some_, later⟩ := stacked
      have tail := ih later
      rw [lastNumber_cons] at tail ⊢
      rw [lastNumber_cons, List.length_cons]
      omega

/-- The last row begins on the line of its own number exactly when every other row is one line. -/
theorem Stacked.lastNumber_le_iff {number before : Nat} {rows : List RawRow}
    (stacked : Stacked (number + 1) rows) (start : before ≤ number) :
    lastNumber before rows ≤ number + rows.length ↔ ∀ row ∈ rows.dropLast, row.lines = 1 := by
  induction rows generalizing number before with
  | nil => exact iff_of_true start (by simp)
  | cons row rest ih =>
      obtain ⟨first, some_, later⟩ := stacked
      rw [lastNumber_cons]
      cases rest with
      | nil => exact iff_of_true first.le (by simp)
      | cons next rest =>
          rw [List.dropLast_cons_cons, List.forall_mem_cons]
          by_cases single : row.lines = 1
          · rw [single] at later
            have sum : number + (row :: next :: rest).length = number + 1 + (next :: rest).length := by
              simp only [List.length_cons]
              omega
            rw [sum, @ih (number + 1) row.rawRowNumber later first.le]
            simp only [single, true_and]
          · have far := later.le_lastNumber
            rw [lastNumber_cons] at far ⊢
            refine iff_of_false ?_ fun both => single both.1
            simp only [List.length_cons]
            omega

/-! ## The published snapshots -/

/-- No count is less than before. -/
structure ScanSnapshot.Grows (earlier later : ScanSnapshot) : Prop where
  totalRows : earlier.totalRows ≤ later.totalRows
  dataRows : earlier.dataRows ≤ later.dataRows
  validRows : earlier.validRows ≤ later.validRows
  invalidRows : earlier.invalidRows ≤ later.invalidRows
  processedRows : earlier.processedRows ≤ later.processedRows

theorem ScanSnapshot.Grows.trans {first second third : ScanSnapshot} (one : first.Grows second)
    (two : second.Grows third) : first.Grows third where
  totalRows := one.totalRows.trans two.totalRows
  dataRows := one.dataRows.trans two.dataRows
  validRows := one.validRows.trans two.validRows
  invalidRows := one.invalidRows.trans two.invalidRows
  processedRows := one.processedRows.trans two.processedRows

instance : IsTrans ScanSnapshot ScanSnapshot.Grows := ⟨fun _ _ _ => ScanSnapshot.Grows.trans⟩

/-- The progress of a scan: no count decreases, every data row is valid or invalid, and the last
snapshot of a scan that ends, and no other one, is complete. -/
structure Scanned.Consistent (scanned : Scanned) : Prop where
  grows : scanned.published.Pairwise ScanSnapshot.Grows
  counted : ∀ snapshot ∈ scanned.published,
    snapshot.dataRows = snapshot.validRows + snapshot.invalidRows
  completed : ∀ index snapshot, scanned.published[index]? = some snapshot →
    (snapshot.completed = true ↔ scanned.raises = none ∧ index + 1 = scanned.published.length)

namespace FileReader

variable {self : FileReader} {totalRows dataRows validRows invalidRows processedRows : Nat}

/-- From a snapshot on, the scan publishes growing ones exactly when the number of the last row's
line does not exceed the number of rows that the end publishes. -/
theorem scanRows_isChain_iff (raises : Option ReadError) {number : Nat} {rows : List RawRow}
    (stacked : Stacked number rows) (start : processedRows ≤ number) :
    ({ totalRows, dataRows, validRows, invalidRows, processedRows } ::
        (scanRows raises self totalRows dataRows validRows invalidRows
          (withoutText rows)).published).IsChain ScanSnapshot.Grows ↔
      (raises = none → lastNumber processedRows rows ≤ totalRows + rows.length) := by
  induction rows generalizing self totalRows dataRows validRows invalidRows processedRows number with
  | nil =>
      cases raises with
      | some error => exact iff_of_true (.singleton _) (by simp)
      | none =>
          rw [withoutText, List.map_nil, scanRows, List.isChain_pair]
          constructor
          · exact fun grows _ => grows.processedRows
          · exact fun ends => ⟨le_rfl, le_rfl, le_rfl, le_rfl, ends rfl⟩
  | cons row rest ih =>
      obtain ⟨first, some_, later⟩ := stacked
      have sum : totalRows + (row :: rest).length = totalRows + 1 + rest.length := by
        rw [List.length_cons]
        omega
      have behind : row.rawRowNumber ≤ number + row.lines := by omega
      have before : processedRows ≤ row.rawRowNumber := by omega
      rw [withoutText, List.map_cons, scanRows, ← withoutText, lastNumber_cons, sum]
      split
      next =>
          rw [List.isChain_cons_cons, ih later behind, and_iff_right]
          exact ⟨Nat.le_succ _, le_rfl, le_rfl, le_rfl, before⟩
      next =>
          rw [List.isChain_cons_cons, ih later behind, and_iff_right]
          refine ⟨Nat.le_succ _, Nat.le_succ _, ?_, ?_, before⟩
          · dsimp only
            split <;> omega
          · dsimp only
            split <;> omega

theorem scanRows_counted (raises : Option ReadError) (self : FileReader)
    (sum : dataRows = validRows + invalidRows) (rows : List (Nat × List (List Char))) :
    ∀ snapshot ∈ (scanRows raises self totalRows dataRows validRows invalidRows rows).published,
      snapshot.dataRows = snapshot.validRows + snapshot.invalidRows := by
  induction rows generalizing self totalRows dataRows validRows invalidRows with
  | nil =>
      cases raises with
      | some error => simp [scanRows]
      | none => simpa [scanRows] using sum
  | cons row rest ih =>
      rw [scanRows]
      split
      next => exact List.forall_mem_cons.mpr ⟨sum, ih _ sum⟩
      next =>
          have counted : dataRows + 1 =
              (if (self.isValidDataRow row.2).1 then validRows + 1 else validRows) +
                (if (self.isValidDataRow row.2).1 then invalidRows else invalidRows + 1) := by
            split <;> omega
          exact List.forall_mem_cons.mpr ⟨counted, ih _ counted⟩

theorem scanRows_published_ne_nil {raises : Option ReadError} (ends : raises = none)
    (self : FileReader) (rows : List (Nat × List (List Char))) :
    (scanRows raises self totalRows dataRows validRows invalidRows rows).published ≠ [] := by
  subst ends
  cases rows with
  | nil => exact List.cons_ne_nil _ _
  | cons row rest =>
      rw [scanRows]
      split <;> exact List.cons_ne_nil _ _

theorem completed_cons {raises : Option ReadError} {first snapshot : ScanSnapshot}
    {later : List ScanSnapshot} (running : first.completed = false) (ends : raises = none → later ≠ [])
    (rest : ∀ {index : Nat}, later[index]? = some snapshot →
      (snapshot.completed = true ↔ raises = none ∧ index + 1 = later.length))
    {index : Nat} (found : (first :: later)[index]? = some snapshot) :
    snapshot.completed = true ↔ raises = none ∧ index + 1 = (first :: later).length := by
  cases index with
  | zero =>
      cases found
      rw [running]
      refine iff_of_false Bool.false_ne_true fun both => ends both.1 ?_
      exact List.eq_nil_of_length_eq_zero (Nat.succ.inj both.2).symm
  | succ index => rw [rest found, List.length_cons, Nat.add_right_cancel_iff]

theorem scanRows_completed (raises : Option ReadError) (self : FileReader)
    (rows : List (Nat × List (List Char))) {index : Nat} {snapshot : ScanSnapshot}
    (found : (scanRows raises self totalRows dataRows validRows invalidRows rows).published[index]? =
      some snapshot) :
    snapshot.completed = true ↔ raises = none ∧ index + 1 =
      (scanRows raises self totalRows dataRows validRows invalidRows rows).published.length := by
  induction rows generalizing self totalRows dataRows validRows invalidRows index with
  | nil =>
      cases raises with
      | some error => cases found
      | none =>
          cases index with
          | zero =>
              cases found
              exact iff_of_true rfl ⟨rfl, rfl⟩
          | succ index => cases found
  | cons row rest ih =>
      rw [scanRows] at found ⊢
      split at found
      next atHeader =>
          rw [if_pos atHeader]
          exact completed_cons rfl (fun ends => scanRows_published_ne_nil ends _ rest)
            (fun isLater => ih _ isLater) found
      next inData =>
          rw [if_neg inData]
          exact completed_cons rfl (fun ends => scanRows_published_ne_nil ends _ rest)
            (fun isLater => ih _ isLater) found

/-- For every file: the progress of a scan is consistent exactly when it does not reach the end of
the file, or reaches it with every row but the last on one physical line. -/
theorem scan_progress_consistent_iff (self : FileReader) (content : FileContent) :
    (self.scanFile content).Consistent ↔
      ((iterRowsWithRaw self.delimiter content).raises = none →
        ∀ row ∈ (iterRowsWithRaw self.delimiter content).rows.dropLast, row.lines = 1) := by
  have stacked := iterRowsWithRaw_stacked self.delimiter content
  have chain := @scanRows_isChain_iff self.resetScanState 0 0 0 0 0
    (iterRowsWithRaw self.delimiter content).raises 1 _ stacked (Nat.zero_le 1)
  rw [List.isChain_iff_pairwise, stacked.lastNumber_le_iff le_rfl] at chain
  constructor
  · exact fun consistent => chain.mp consistent.grows
  · intro single
    refine ⟨chain.mpr single, ?_, ?_⟩
    · exact List.forall_mem_cons.mpr ⟨rfl, scanRows_counted _ _ (Nat.add_zero 0).symm _⟩
    · intro index snapshot found
      have raises : (self.scanFile content).raises = (iterRowsWithRaw self.delimiter content).raises :=
        scanRows_raises _ _ _ _ _ _ _
      rw [raises]
      exact completed_cons rfl (fun ends => scanRows_published_ne_nil ends _ _)
        (fun isLater => scanRows_completed _ _ _ isLater) found

/-- A header over three lines and a row behind it: line 4 is processed, and then two rows are. -/
theorem scan_progress_decreases :
    ¬ ∀ (self : FileReader) (content : FileContent), (self.scanFile content).Consistent := by
  intro consistent
  have grows := (consistent { delimiter := ",", hasHeader := true }
    (.text ['"', 'a', '\n', 'b', '\n', 'c', '"', '\n', '1', '\n'])).grows
  have published : (({ delimiter := ",", hasHeader := true } : FileReader).scanFile
      (.text ['"', 'a', '\n', 'b', '\n', 'c', '"', '\n', '1', '\n'])).published =
    [{}, { totalRows := 1, processedRows := 1 },
      { totalRows := 2, dataRows := 1, validRows := 1, processedRows := 4 },
      { totalRows := 2, dataRows := 1, validRows := 1, processedRows := 2, completed := true }] := by
    decide +kernel
  rw [published] at grows
  have last := List.pairwise_iff_getElem.mp grows 2 3 (by decide) (by decide) (by decide)
  exact absurd last.processedRows (by decide)

end FileReader

end TcpSim.Engine
