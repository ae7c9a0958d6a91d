import Mathlib.Algebra.Order.Ring.Rat
import Mathlib.Data.List.Basic

/-! The scheduler that hands out the records of a file one after the other. It never looks
into a record. -/

set_option autoImplicit false

namespace TcpSim.Engine

/-- Line controls that passed the checks of `set_line_controls`. -/
structure LineSelection where
  startLine : Option Int := none
  endLine : Option Int := none
  firstN : Option Int := none
  start_pos : ∀ start ∈ startLine, 1 ≤ start := by simp
  end_pos : ∀ last ∈ endLine, 1 ≤ last := by simp
  first_pos : ∀ count ∈ firstN, 1 ≤ count := by simp
  ordered : ∀ start ∈ startLine, ∀ last ∈ endLine, start ≤ last := by simp

/-- The checks, with the message of each `ValueError`. -/
def LineSelection.check (startLine endLine firstN : Option Int) : Except String LineSelection :=
  if start : ∃ line ∈ startLine, line < 1 then .error "start_line must be >= 1"
  else if last : ∃ line ∈ endLine, line < 1 then .error "end_line must be >= 1"
  else if first : ∃ count ∈ firstN, count < 1 then .error "first_n must be >= 1"
  else if order : ∃ line ∈ startLine, ∃ other ∈ endLine, other < line then
    .error "end_line must be >= start_line"
  else
    .ok {
      startLine, endLine, firstN
      start_pos := by grind
      end_pos := by grind
      first_pos := by grind
      ordered := by grind }

/-- The lines that are left. -/
def LineSelection.select {ρ : Type} (self : LineSelection) (records : List ρ) : List ρ :=
  let startIdx : Int := (self.startLine.map (· - 1)).getD 0
  let endIdx : Int := self.endLine.getD records.length
  let filtered :=
    if startIdx ≥ records.length then [] else (records.take endIdx.toNat).drop startIdx.toNat
  match self.firstN with
  | none => filtered
  | some count => filtered.take count.toNat

theorem LineSelection.mem_of_select {ρ : Type} (self : LineSelection) {records : List ρ} {record : ρ}
    (member : record ∈ self.select records) : record ∈ records := by
  have inside : ∀ {start last : Nat}, record ∈ (records.take last).drop start → record ∈ records :=
    fun member => List.mem_of_mem_take (List.mem_of_mem_drop member)
  unfold select at member
  cases first : self.firstN with
  | none =>
      simp only [first] at member
      split at member
      · cases member
      · exact inside member
  | some count =>
      simp only [first] at member
      split at member
      · cases List.mem_of_mem_take member
      · exact inside (List.mem_of_mem_take member)

structure ScheduledMessage (ρ : Type) where
  payload : ρ
  generation : Nat
  isHeader : Bool
  lineNumber : Nat
  deriving DecidableEq, Repr

structure SendScheduler (ρ : Type) where
  sourceRecords : List ρ
  records : List ρ
  loop : Bool
  lines : LineSelection := {}
  running : Bool := false
  paused : Bool := false
  cursor : Nat := 0
  generation : Nat := 0
  pendingHeader : Option ρ := none
  pendingSwap : Option (List ρ × Option ρ) := none
  rateFeaturesPerSecond : ℚ := 10

variable {ρ : Type}

namespace SendScheduler

/-- The constructor with the default rate. -/
def init (records : List ρ) (loop : Bool) : SendScheduler ρ where
  sourceRecords := records
  records := records
  loop := loop

variable (self : SendScheduler ρ)

def setRate (rateFeaturesPerSecond : ℚ) : SendScheduler ρ :=
  { self with rateFeaturesPerSecond := max rateFeaturesPerSecond (1 / 10) }

/-- The constructor. -/
def create (records : List ρ) (rateFeaturesPerSecond : ℚ) (loop : Bool) : SendScheduler ρ :=
  (init records loop).setRate rateFeaturesPerSecond

def start : SendScheduler ρ := { self with running := true }

def stop : SendScheduler ρ := { self with running := false }

def pause : SendScheduler ρ := { self with paused := true }

def resume : SendScheduler ρ := { self with paused := false }

def rebuildActiveRecords : SendScheduler ρ :=
  { self with records := self.lines.select self.sourceRecords, cursor := 0 }

def setRecords (records : List ρ) : SendScheduler ρ :=
  { self with sourceRecords := records }.rebuildActiveRecords

def requestFileSwap (records : List ρ) (headerPayload : Option ρ) : SendScheduler ρ :=
  { self with pendingSwap := some (records, headerPayload) }

def setLineControls (startLine endLine firstN : Option Int) : Except String (SendScheduler ρ) := do
  let lines ← LineSelection.check startLine endLine firstN
  return { self with lines }.rebuildActiveRecords

def jumpTo (lineNumber : Int) : Except String (SendScheduler ρ) :=
  if lineNumber < 1 ∨ self.records.length < lineNumber then .error "line_number out of range"
  else .ok { self with cursor := (lineNumber - 1).toNat }

/-- `_apply_pending_swap_if_any`. -/
def applyPendingSwap : SendScheduler ρ :=
  match self.pendingSwap with
  | none => self
  | some (records, headerPayload) =>
      { { self with pendingSwap := none, sourceRecords := records }.rebuildActiveRecords with
        generation := self.generation + 1, pendingHeader := headerPayload }

/-- Where `step` reads: behind the last record a loop starts over. -/
def position : Nat := if self.records.length ≤ self.cursor ∧ self.loop then 0 else self.cursor

/-- The part of `step` that hands out a record. -/
def stepRecord : Option (ScheduledMessage ρ) × SendScheduler ρ :=
  match self.records[self.position]? with
  | none => (none, self)
  | some payload =>
      (some { payload, generation := self.generation, isHeader := false, lineNumber := self.position + 1 },
        { self with cursor := self.position + 1 })

/-- The part of `step` after a swap was applied. -/
def stepApplied : Option (ScheduledMessage ρ) × SendScheduler ρ :=
  match self.pendingHeader with
  | some header =>
      (some { payload := header, generation := self.generation, isHeader := true, lineNumber := 0 },
        { self with pendingHeader := none })
  | none => self.stepRecord

def step : Option (ScheduledMessage ρ) × SendScheduler ρ := self.applyPendingSwap.stepApplied

theorem stepRecord_cases :
    self.stepRecord = (none, self) ∨
    ∃ payload ∈ self.records, self.stepRecord =
      (some { payload, generation := self.generation, isHeader := false, lineNumber := self.position + 1 },
        { self with cursor := self.position + 1 }) := by
  unfold stepRecord
  split
  · exact Or.inl rfl
  next payload found => exact Or.inr ⟨payload, List.mem_of_getElem? found, rfl⟩

theorem step_of_noSwap {self : SendScheduler ρ} (noSwap : self.pendingSwap = none)
    (noHeader : self.pendingHeader = none) : self.step = self.stepRecord := by
  simp only [step, applyPendingSwap, noSwap, stepApplied, noHeader]

/-- A swap with a header is applied, and the header is the message. -/
theorem step_of_swap {self : SendScheduler ρ} {records : List ρ} {header : ρ}
    (swap : self.pendingSwap = some (records, some header)) :
    self.step =
      (some { payload := header, generation := self.generation + 1, isHeader := true, lineNumber := 0 },
        { { self with pendingSwap := none, sourceRecords := records }.rebuildActiveRecords with
          generation := self.generation + 1, pendingHeader := none }) := by
  simp only [step, applyPendingSwap, swap, stepApplied]

/-- There is nothing to hand out, and no swap to apply. -/
def isExhausted : Bool :=
  self.pendingSwap.isNone && self.pendingHeader.isNone &&
    (self.records.isEmpty || (self.records.length ≤ self.cursor && !self.loop))

theorem step_of_isExhausted {self : SendScheduler ρ} (exhausted : self.isExhausted = true) :
    self.step = (none, self) := by
  unfold isExhausted at exhausted
  simp only [Bool.and_eq_true, Option.isNone_iff_eq_none] at exhausted
  obtain ⟨⟨noSwap, noHeader⟩, finished⟩ := exhausted
  have nothing : self.records[self.position]? = none := by
    rw [List.getElem?_eq_none_iff]
    unfold position
    rcases Bool.or_eq_true_iff.mp finished with empty | behind
    · rw [List.isEmpty_iff.mp empty]
      exact Nat.zero_le _
    · simp only [Bool.and_eq_true, decide_eq_true_eq, Bool.not_eq_true'] at behind
      rw [if_neg (by simp [behind.2])]
      exact behind.1
  simp only [step, applyPendingSwap, noSwap, stepApplied, noHeader, stepRecord, nothing]

end SendScheduler

end TcpSim.Engine
