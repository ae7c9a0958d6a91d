import TcpSim.Engine.SchedulerRuns
import TcpSim.Engine.ValidRows

/-! Line controls in the reader and in the scheduler: the reader's loop with its early ends
gives the lines that the scheduler's slices select. -/

set_option autoImplicit false

namespace TcpSim.Engine

/-- The loop over the valid rows alone. -/
def selectRows (startLine endLine firstN : Option Int) (dataLineNumber emitted : Nat) :
    List RawRow → List RawRowRecord
  | [] => []
  | row :: rest =>
      if !lineIsSelected (dataLineNumber + 1) startLine endLine then
        if ∃ last ∈ endLine, last < ↑(dataLineNumber + 1) then []
        else selectRows startLine endLine firstN (dataLineNumber + 1) emitted rest
      else if ∃ count ∈ firstN, count ≤ ↑emitted then []
      else
        row.toRecord (dataLineNumber + 1) ::
          selectRows startLine endLine firstN (dataLineNumber + 1) (emitted + 1) rest

theorem FileReader.streamRows_yielded (startLine endLine firstN : Option Int) (raises : Option ReadError)
    (self : FileReader) (dataLineNumber emitted : Nat) (rows : List RawRow) :
    (streamRows startLine endLine firstN raises self dataLineNumber emitted rows).yielded =
      selectRows startLine endLine firstN dataLineNumber emitted (self.validRows rows) := by
  induction rows generalizing self dataLineNumber emitted with
  | nil => rfl
  | cons row rest ih =>
      rw [streamRows, validRows]
      dsimp only
      split
      next => exact ih _ _ _
      next =>
          cases (self.isValidDataRow row.fields).1 with
          | false => exact ih _ _ _
          | true =>
              rw [if_neg (by simp), if_pos rfl, selectRows]
              split
              next =>
                  split
                  next => rfl
                  next => exact ih _ _ _
              next =>
                  split
                  next => rfl
                  next => exact congrArg (_ :: ·) (ih _ _ _)

/-! ## The selected lines -/

/-- The lines up to a bound, when so many are there before them. -/
def upTo {α : Type} (bound : Option Int) (before : Nat) (lines : List α) : List α :=
  match bound with
  | none => lines
  | some bound => lines.take (bound.toNat - before)

@[simp] theorem upTo_nil {α : Type} (bound : Option Int) (before : Nat) :
    upTo bound before ([] : List α) = [] := by
  cases bound with
  | none => rfl
  | some last => exact List.take_nil

theorem upTo_of_reached {α : Type} {bound : Option Int} {before : Nat}
    (reached : ∃ last ∈ bound, last ≤ before) (lines : List α) : upTo bound before lines = [] := by
  obtain ⟨last, rfl, within⟩ := reached
  have nothing : last.toNat - before = 0 := by omega
  rw [upTo, nothing, List.take_zero]

theorem upTo_cons {α : Type} {bound : Option Int} {before : Nat}
    (beyond : ∀ last ∈ bound, (before : Int) < last) (line : α) (lines : List α) :
    upTo bound before (line :: lines) = line :: upTo bound (before + 1) lines := by
  cases bound with
  | none => rfl
  | some last =>
      have beyond := beyond last rfl
      have more : last.toNat - before = (last.toNat - (before + 1)) + 1 := by omega
      rw [upTo, upTo, more, List.take_succ_cons]

theorem upTo_length {α : Type} (bound : Option Int) (lines : List α) :
    upTo bound 0 lines = lines.take (bound.getD lines.length).toNat := by
  cases bound with
  | none => simp [upTo]
  | some last => rfl

theorem LineSelection.select_eq_upTo {ρ : Type} (self : LineSelection) (records : List ρ) :
    self.select records =
      upTo self.firstN 0 ((upTo self.endLine 0 records).drop ((self.startLine.getD 1) - 1).toNat) := by
  rw [self.select_eq_slice, slice, upTo_length self.endLine]
  cases self.firstN with
  | none =>
      rw [upTo]
      apply List.take_of_length_le
      simp only [List.length_drop, List.length_take, Option.getD_none]
      omega
  | some count => rfl

theorem selectRows_eq_upTo (lines : LineSelection) (dataLineNumber emitted : Nat) (rows : List RawRow) :
    selectRows lines.startLine lines.endLine lines.firstN dataLineNumber emitted rows =
      upTo lines.firstN emitted ((upTo lines.endLine dataLineNumber (numbered dataLineNumber rows)).drop
        (((lines.startLine.getD 1) - 1).toNat - dataLineNumber)) := by
  induction rows generalizing dataLineNumber emitted with
  | nil => rw [selectRows, numbered, upTo_nil, List.drop_nil, upTo_nil]
  | cons row rest ih =>
      rw [selectRows, numbered]
      by_cases ended : ∃ last ∈ lines.endLine, last < ↑(dataLineNumber + 1)
      · have reached : ∃ last ∈ lines.endLine, last ≤ dataLineNumber := by
          obtain ⟨last, isLast, before⟩ := ended
          exact ⟨last, isLast, by omega⟩
        have passed : lineIsSelected (dataLineNumber + 1) lines.startLine lines.endLine = false := by
          unfold lineIsSelected
          rw [if_pos ended, ite_self]
        rw [upTo_of_reached reached, passed, if_pos ended, List.drop_nil, upTo_nil]
        rfl
      have beyond : ∀ last ∈ lines.endLine, (dataLineNumber : Int) < last := by
        intro last isLast
        by_contra before
        exact ended ⟨last, isLast, by omega⟩
      rw [upTo_cons beyond, if_neg ended]
      by_cases early : ∃ start ∈ lines.startLine, ↑(dataLineNumber + 1) < start
      · -- Before the first selected line.
        have skipped : lineIsSelected (dataLineNumber + 1) lines.startLine lines.endLine = false := by
          unfold lineIsSelected
          rw [if_pos early]
        obtain ⟨start, isStart, before⟩ := early
        have more : ((lines.startLine.getD 1) - 1).toNat - dataLineNumber =
            (((lines.startLine.getD 1) - 1).toNat - (dataLineNumber + 1)) + 1 := by
          rw [Option.mem_def.mp isStart, Option.getD_some]
          omega
        rw [skipped, more, List.drop_succ_cons]
        exact ih _ _
      have selected : lineIsSelected (dataLineNumber + 1) lines.startLine lines.endLine = true := by
        unfold lineIsSelected
        rw [if_neg early, if_neg ended]
      have begun : ((lines.startLine.getD 1) - 1).toNat ≤ dataLineNumber := by
        cases isStart : lines.startLine with
        | none => simp
        | some start =>
            by_contra late
            exact early ⟨start, isStart, by simp only [Option.getD_some] at late; omega⟩
      have later := ih (dataLineNumber + 1) (emitted + 1)
      rw [Nat.sub_eq_zero_of_le begun, List.drop_zero, selected]
      rw [Nat.sub_eq_zero_of_le (begun.trans (Nat.le_succ _)), List.drop_zero] at later
      by_cases full : ∃ count ∈ lines.firstN, count ≤ ↑emitted
      · rw [upTo_of_reached full, if_pos full]
        rfl
      · have room : ∀ count ∈ lines.firstN, (emitted : Int) < count := by
          intro count isCount
          by_contra reached
          exact full ⟨count, isCount, by omega⟩
        rw [upTo_cons room, if_neg full, later]
        rfl

/-! ## Accepted controls -/

theorem validateLineControls_eq (startLine endLine firstN : Option Int) :
    validateLineControls startLine endLine firstN =
      (LineSelection.check startLine endLine firstN).map fun _ => () := by
  unfold validateLineControls LineSelection.check
  split
  · rfl
  · split
    · rfl
    · split
      · rfl
      · split
        · rfl
        · rfl

theorem LineSelection.check_eq_ok {startLine endLine firstN : Option Int} {lines : LineSelection}
    (accepted : LineSelection.check startLine endLine firstN = .ok lines) :
    lines.startLine = startLine ∧ lines.endLine = endLine ∧ lines.firstN = firstN := by
  unfold check at accepted
  split at accepted
  · cases accepted
  · split at accepted
    · cases accepted
    · split at accepted
      · cases accepted
      · split at accepted
        · cases accepted
        · cases accepted
          exact ⟨rfl, rfl, rfl⟩

theorem iterRowsWithRaw_raises_ne (delimiter : String) (content : FileContent) (message : String) :
    (iterRowsWithRaw delimiter content).raises ≠ some (.valueError message) := by
  unfold iterRowsWithRaw
  split
  · simp
  · simp
  · split
    · simp
    · simp

theorem FileReader.streamRows_raises_or (startLine endLine firstN : Option Int)
    (raises : Option ReadError) (self : FileReader) (dataLineNumber emitted : Nat) (rows : List RawRow) :
    (streamRows startLine endLine firstN raises self dataLineNumber emitted rows).raises = none ∨
      (streamRows startLine endLine firstN raises self dataLineNumber emitted rows).raises = raises := by
  induction rows generalizing self dataLineNumber emitted with
  | nil => exact .inr rfl
  | cons row rest ih =>
      rw [streamRows]
      split
      next => exact ih _ _ _
      next =>
          dsimp only
          split
          next => exact ih _ _ _
          next =>
              split
              next =>
                  split
                  next => exact .inl rfl
                  next => exact ih _ _ _
              next =>
                  split
                  next => exact .inl rfl
                  next => exact ih _ _ _

namespace FileReader

variable (self : FileReader) (content : FileContent)

theorem iterValidRawRows_of_accepted {startLine endLine firstN : Option Int} {lines : LineSelection}
    (accepted : LineSelection.check startLine endLine firstN = .ok lines) :
    (self.iterValidRawRows content startLine endLine firstN).yielded =
      lines.select (numbered 0 (self.allRows content)) := by
  obtain ⟨rfl, rfl, rfl⟩ := LineSelection.check_eq_ok accepted
  unfold iterValidRawRows
  rw [validateLineControls_eq, accepted, lines.select_eq_upTo]
  exact (streamRows_yielded _ _ _ _ _ _ _ _).trans (selectRows_eq_upTo lines 0 0 _)

theorem iterValidRawRows_all :
    (self.iterValidRawRows content none none none).yielded = numbered 0 (self.allRows content) := by
  have accepted : LineSelection.check none none none = .ok {} := rfl
  rw [self.iterValidRawRows_of_accepted content accepted, LineSelection.select_eq_upTo]
  rfl

theorem iterValidRawRows_rejects_iff {startLine endLine firstN : Option Int} {message : String} :
    (self.iterValidRawRows content startLine endLine firstN).raises = some (.valueError message) ↔
      LineSelection.check startLine endLine firstN = .error message := by
  unfold iterValidRawRows
  rw [validateLineControls_eq]
  cases LineSelection.check startLine endLine firstN with
  | error other => simp [Except.map]
  | ok lines =>
      refine iff_of_false ?_ (by simp)
      rcases streamRows_raises_or startLine endLine firstN (iterRowsWithRaw self.delimiter content).raises
        self.resetScanState 0 0 (iterRowsWithRaw self.delimiter content).rows with none_ | raised
      · simp [Except.map, none_]
      · simpa [Except.map, raised] using iterRowsWithRaw_raises_ne self.delimiter content message

end FileReader

theorem numbered_select_getElem? (lines : LineSelection) {rows : List RawRow} {index : Nat}
    {record : RawRowRecord} (found : (lines.select (numbered 0 rows))[index]? = some record) :
    (record.dataLineNumber : Int) = lines.startLine.getD 1 + index := by
  have inside : ∀ {bound : Option Int} {kept : List RawRowRecord} {place : Nat},
      (upTo bound 0 kept)[place]? = some record → kept[place]? = some record := by
    intro bound kept place found
    cases bound with
    | none => exact found
    | some bound =>
        rw [upTo, List.getElem?_take] at found
        split at found
        · exact found
        · cases found
  rw [lines.select_eq_upTo] at found
  have dropped := inside found
  rw [List.getElem?_drop] at dropped
  have number := numbered_getElem? (inside dropped)
  have positive : 1 ≤ lines.startLine.getD 1 := by
    cases isStart : lines.startLine with
    | none => simp
    | some start => exact lines.start_pos start isStart
  omega

/-- The reader and the scheduler accept the same line controls, with the same message for the
others, and select the same of the valid rows. -/
theorem line_selection_agrees (self : FileReader) (content : FileContent)
    (scheduler : SendScheduler RawRowRecord) (startLine endLine firstN : Option Int) :
    let all := (self.iterValidRawRows content none none none).yielded
    let raw := self.iterValidRawRows content startLine endLine firstN
    let plain := self.iterValidRows content startLine endLine firstN
    let scheduled := (scheduler.setRecords all).setLineControls startLine endLine firstN
    (∀ message, (raw.raises = some (.valueError message) ↔ scheduled = .error message) ∧
      (plain.raises = some (.valueError message) ↔ scheduled = .error message)) ∧
    ∀ after, scheduled = .ok after →
      raw.yielded = after.records ∧ plain.yielded = after.records.map RawRowRecord.toRow ∧
        ∀ (index : Nat) record, raw.yielded[index]? = some record →
          (record.dataLineNumber : Int) = startLine.getD 1 + index := by
  intro all raw plain scheduled
  obtain ⟨sameRows, sameRaises⟩ := self.iterValidRows_eq content startLine endLine firstN
  have rejects : ∀ message, scheduled = .error message ↔
      LineSelection.check startLine endLine firstN = .error message := by
    intro message
    simp only [scheduled, SendScheduler.setLineControls]
    cases LineSelection.check startLine endLine firstN with
    | error other => simp [bind, Except.bind]
    | ok lines => simp [bind, Except.bind, pure, Except.pure]
  constructor
  · intro message
    rw [rejects, show plain.raises = raw.raises from sameRaises]
    exact ⟨self.iterValidRawRows_rejects_iff content, self.iterValidRawRows_rejects_iff content⟩
  · intro after accepted
    simp only [scheduled, SendScheduler.setLineControls] at accepted
    cases checked : LineSelection.check startLine endLine firstN with
    | error message =>
        rw [checked] at accepted
        cases accepted
    | ok lines =>
        rw [checked] at accepted
        cases accepted
        have selected : raw.yielded = lines.select all := by
          rw [show all = _ from self.iterValidRawRows_all content]
          exact self.iterValidRawRows_of_accepted content checked
        obtain ⟨rfl, _, _⟩ := LineSelection.check_eq_ok checked
        refine ⟨selected, sameRows.trans (congrArg (List.map _) selected), ?_⟩
        intro index record found
        rw [selected, show all = _ from self.iterValidRawRows_all content] at found
        exact numbered_select_getElem? lines found

/-- One line from the second on. -/
theorem line_selection_agrees_second :
    (({ delimiter := ",", hasHeader := false } : FileReader).iterValidRawRows
      (.text ['a', '\n', 'b', '\n', 'c']) (some 2) none (some 1)).yielded =
        [{ dataLineNumber := 2, fields := [['b']], rawText := ['b', '\n'] }] := by
  obtain ⟨_, accepts⟩ := line_selection_agrees { delimiter := ",", hasHeader := false }
    (.text ['a', '\n', 'b', '\n', 'c']) (.init [] false) (some 2) none (some 1)
  exact (accepts _ rfl).1

end TcpSim.Engine
