import TcpSim.Engine.SchedulerRuns

/-! Jumps to a line. A jump is checked against the active records and sets the cursor in them;
a swap that waits replaces both when the next step begins. -/

set_option autoImplicit false

namespace TcpSim.Engine

variable {ρ : Type}

/-- The number of a line of the records. -/
def HasLine (records : List ρ) (lineNumber : Int) : Prop := 1 ≤ lineNumber ∧ lineNumber ≤ records.length

instance (records : List ρ) (lineNumber : Int) : Decidable (HasLine records lineNumber) :=
  inferInstanceAs (Decidable (_ ∧ _))

/-- The next data message of steps with no other call in between; headers, and steps that send
nothing, are passed over. -/
inductive NextData : SendScheduler ρ → ScheduledMessage ρ → Prop where
  | data {scheduler : SendScheduler ρ} {message : ScheduledMessage ρ}
      (sends : scheduler.step.1 = some message) (data : message.isHeader = false) :
      NextData scheduler message
  | later {scheduler : SendScheduler ρ} {message : ScheduledMessage ρ}
      (noData : ∀ sent, scheduler.step.1 = some sent → sent.isHeader = true)
      (next : NextData scheduler.step.2 message) : NextData scheduler message

namespace SendScheduler

variable {self : SendScheduler ρ}

def NextDataLine (self : SendScheduler ρ) (lineNumber : Int) : Prop :=
  ∃ message, NextData self message ∧ message.lineNumber = lineNumber

/-- An accepted jump takes effect, and a jump is refused exactly where the records that the next
step will send from have no such line. -/
structure JumpKept (scheduler : SendScheduler ρ) (lineNumber : Int) : Prop where
  sent : ∀ jumped, scheduler.jumpTo lineNumber = .ok jumped → jumped.NextDataLine lineNumber
  refused : (∃ message, scheduler.jumpTo lineNumber = .error message) ↔
    ¬ HasLine scheduler.applyPendingSwap.records lineNumber

/-- No swap waits, or neither the active records nor those to come have the line, or it is the
first line of both. -/
def JumpUndisturbed (self : SendScheduler ρ) (lineNumber : Int) : Prop :=
  ∀ records headerPayload, self.pendingSwap = some (records, headerPayload) →
    (¬ HasLine self.records lineNumber ∧ ¬ HasLine (self.lines.select records) lineNumber) ∨
    (lineNumber = 1 ∧ self.records ≠ [] ∧ self.lines.select records ≠ [])

theorem hasLine_one_iff {records : List ρ} : HasLine records 1 ↔ records ≠ [] := by
  rw [HasLine, ← List.length_pos_iff]
  omega

theorem jumpTo_ok_iff {lineNumber : Int} {jumped : SendScheduler ρ} :
    self.jumpTo lineNumber = .ok jumped ↔
      HasLine self.records lineNumber ∧ jumped = { self with cursor := (lineNumber - 1).toNat } := by
  unfold jumpTo HasLine
  split
  · simp only [reduceCtorEq, false_iff, not_and]
    omega
  · simp only [Except.ok.injEq]
    constructor
    · intro same
      exact ⟨by omega, same.symm⟩
    · intro both
      exact both.2.symm

theorem jumpTo_error_iff {lineNumber : Int} :
    (∃ message, self.jumpTo lineNumber = .error message) ↔ ¬ HasLine self.records lineNumber := by
  constructor
  · intro raises has
    obtain ⟨message, raised⟩ := raises
    rw [jumpTo_ok_iff.mpr ⟨has, rfl⟩] at raised
    cases raised
  · intro none_
    rcases self.jumpTo_cases lineNumber with raised | ⟨low, high, _⟩
    · exact raised
    · exact absurd ⟨low, high⟩ none_

theorem applyPendingSwap_of_swap {records : List ρ} {headerPayload : Option ρ}
    (swap : self.pendingSwap = some (records, headerPayload)) :
    self.applyPendingSwap.records = self.lines.select records ∧ self.applyPendingSwap.cursor = 0 := by
  simp only [applyPendingSwap, swap, rebuildActiveRecords, and_self]

theorem applyPendingSwap_of_none (noSwap : self.pendingSwap = none) :
    self.applyPendingSwap = self := by
  simp only [applyPendingSwap, noSwap]

/-- A step with a record at the cursor sends it, after the header where one waits. -/
theorem nextDataLine_of_inside
    (inside : self.applyPendingSwap.cursor < self.applyPendingSwap.records.length) :
    self.NextDataLine (self.applyPendingSwap.cursor + 1 : Nat) := by
  have sends : ∀ scheduler : SendScheduler ρ, scheduler.pendingHeader = none →
      scheduler.cursor < scheduler.records.length → ∃ message, scheduler.stepApplied.1 = some message ∧
        message.isHeader = false ∧ message.lineNumber = scheduler.cursor + 1 := by
    intro scheduler noHeader inside
    have at_ : scheduler.position = scheduler.cursor := by
      simp [position, Nat.not_le.mpr inside]
    simp [stepApplied, noHeader, stepRecord, at_, List.getElem?_eq_getElem inside]
  cases waits : self.applyPendingSwap.pendingHeader with
  | none =>
      obtain ⟨message, sent, data, line⟩ := sends self.applyPendingSwap waits inside
      exact ⟨message, .data sent data, congrArg Nat.cast line⟩
  | some header =>
      have handedOut : self.step =
          (some { payload := header, generation := self.applyPendingSwap.generation
                  isHeader := true, lineNumber := 0 },
            { self.applyPendingSwap with pendingHeader := none }) := by
        simp only [step, stepApplied, waits]
      have settled : self.step.2.applyPendingSwap = { self.applyPendingSwap with pendingHeader := none } := by
        rw [handedOut]
        exact applyPendingSwap_of_none applyPendingSwap_pendingSwap
      obtain ⟨message, sent, data, line⟩ :=
        sends { self.applyPendingSwap with pendingHeader := none } rfl inside
      refine ⟨message, .later ?_ (.data ?_ data), congrArg Nat.cast line⟩
      · intro first isFirst
        rw [handedOut] at isFirst
        cases isFirst
        rfl
      · rw [step, settled]
        exact sent

/-- From the first position, the next data message is the first line. -/
theorem line_of_nextData {message : ScheduledMessage ρ} (next : NextData self message)
    (start : self.applyPendingSwap.cursor = 0) : message.lineNumber = 1 := by
  induction next with
  | @data scheduler message sends data =>
      have served := scheduler.step_served
      rw [sends] at served
      generalize scheduler.step.2 = after at served
      cases served with
      | header payload waits => cases data
      | record payload noHeader found => simp [position, start]
  | @later scheduler message noData next ih =>
      apply ih
      have applied : scheduler.step.2.applyPendingSwap = scheduler.step.2 := by
        apply applyPendingSwap_of_none
        have served := scheduler.step_served
        generalize scheduler.step.1 = sent at served
        generalize scheduler.step.2 = after at served
        cases served <;> exact applyPendingSwap_pendingSwap
      rw [applied]
      have served := scheduler.step_served
      generalize scheduler.step.1 = sent at served noData
      generalize scheduler.step.2 = after at served
      cases served with
      | header payload waits => exact start
      | nothing noHeader finished => exact start
      | record payload noHeader found => cases noData _ rfl

theorem jumpKept_of_noSwap {lineNumber : Int} (swap : self.pendingSwap = none) :
    self.JumpKept lineNumber := by
  refine ⟨?_, ?_⟩
  · intro jumped accepted
    obtain ⟨has, rfl⟩ := jumpTo_ok_iff.mp accepted
    obtain ⟨low, high⟩ := has
    obtain ⟨cursor, rfl⟩ : ∃ cursor : Nat, lineNumber = (cursor + 1 : Nat) :=
      ⟨(lineNumber - 1).toNat, by omega⟩
    have at_ : (((cursor + 1 : Nat) : Int) - 1).toNat = cursor := by omega
    have same : ({ self with cursor } : SendScheduler ρ).applyPendingSwap = { self with cursor } :=
      applyPendingSwap_of_none swap
    have sent := @nextDataLine_of_inside ρ { self with cursor } (by
      rw [same]
      change cursor < self.records.length
      omega)
    rw [same] at sent
    rw [at_]
    exact sent
  · rw [jumpTo_error_iff, applyPendingSwap_of_none swap]

section Swap

variable {records : List ρ} {headerPayload : Option ρ}
  (swap : self.pendingSwap = some (records, headerPayload))

include swap

/-- Behind a swap only the first line can be the next one. -/
theorem JumpKept.undisturbed {lineNumber : Int} (kept : self.JumpKept lineNumber) :
    (¬ HasLine self.records lineNumber ∧ ¬ HasLine (self.lines.select records) lineNumber) ∨
      (lineNumber = 1 ∧ self.records ≠ [] ∧ self.lines.select records ≠ []) := by
  have coming := (applyPendingSwap_of_swap swap).1
  by_cases has : HasLine self.records lineNumber
  · right
    have later : HasLine (self.lines.select records) lineNumber := by
      rw [← coming]
      by_contra absent
      exact jumpTo_error_iff.mp (kept.refused.mpr absent) has
    obtain ⟨message, next, line⟩ := kept.sent _ (jumpTo_ok_iff.mpr ⟨has, rfl⟩)
    have waiting : ({ self with cursor := (lineNumber - 1).toNat } : SendScheduler ρ).pendingSwap =
      some (records, headerPayload) := swap
    have first := line_of_nextData next (applyPendingSwap_of_swap waiting).2
    obtain rfl : lineNumber = 1 := by omega
    exact ⟨rfl, hasLine_one_iff.mp has, hasLine_one_iff.mp later⟩
  · left
    refine ⟨has, ?_⟩
    rw [← coming]
    exact kept.refused.mp (jumpTo_error_iff.mpr has)

theorem jumpKept_of_absent {lineNumber : Int} (absent : ¬ HasLine self.records lineNumber)
    (alsoAbsent : ¬ HasLine (self.lines.select records) lineNumber) : self.JumpKept lineNumber := by
  refine ⟨?_, ?_⟩
  · intro jumped accepted
    exact absurd (jumpTo_ok_iff.mp accepted).1 absent
  · rw [jumpTo_error_iff, (applyPendingSwap_of_swap swap).1]
    exact iff_of_true absent alsoAbsent

theorem jumpKept_one (some_ : self.records ≠ []) (someLater : self.lines.select records ≠ []) :
    self.JumpKept 1 := by
  refine ⟨?_, ?_⟩
  · intro jumped accepted
    obtain ⟨_, rfl⟩ := jumpTo_ok_iff.mp accepted
    have waiting : ({ self with cursor := ((1 : Int) - 1).toNat } : SendScheduler ρ).pendingSwap =
      some (records, headerPayload) := swap
    obtain ⟨comes, zero⟩ := applyPendingSwap_of_swap waiting
    have sent := nextDataLine_of_inside (by
      rw [comes, zero]
      exact List.length_pos_iff.mpr someLater)
    rw [zero] at sent
    exact sent
  · rw [jumpTo_error_iff, (applyPendingSwap_of_swap swap).1, hasLine_one_iff, hasLine_one_iff]
    exact iff_of_false (not_not.mpr some_) (not_not.mpr someLater)

end Swap

/-- In every state, reachable or not, and for every line: an accepted jump takes effect, and only
lines that are not there are refused, exactly when no waiting swap disturbs the jump. -/
theorem jump_takes_effect_iff (self : SendScheduler ρ) (lineNumber : Int) :
    self.JumpKept lineNumber ↔ self.JumpUndisturbed lineNumber := by
  constructor
  · intro kept records headerPayload swap
    exact kept.undisturbed swap
  · intro undisturbed
    cases swap : self.pendingSwap with
    | none => exact jumpKept_of_noSwap swap
    | some pending =>
        rcases undisturbed pending.1 pending.2 swap with ⟨absent, alsoAbsent⟩ | ⟨rfl, some_, later⟩
        · exact jumpKept_of_absent swap absent alsoAbsent
        · exact jumpKept_one swap some_ later

/-- A jump to the third line while the swap to a file of one line waits. -/
theorem jump_lost_to_swap :
    ¬ ∀ (records : List String) (rate : ℚ) (loop : Bool) (calls : List (SchedulerCall String))
      (lineNumber : Int), ((create records rate loop).afterCalls calls).JumpKept lineNumber := by
  intro kept
  have swapped := kept ["a", "b", "c"] 10 false [.requestFileSwap ["d"] none] 3
  obtain ⟨message, next, line⟩ := swapped.sent _ (jumpTo_ok_iff.mpr ⟨by decide, rfl⟩)
  have first := line_of_nextData next rfl
  omega

end SendScheduler

end TcpSim.Engine
