import TcpSim.Engine.Scheduler

/-! Sequences of calls of the scheduler: what is sent is always the selected slice of the
current source, line after line. -/

set_option autoImplicit false

namespace TcpSim.Engine

variable {ρ : Type}

/-! ## The selection as a slice -/

/-- `records[start - 1:end][:first_n]`, where an absent bound selects to the end. -/
def LineSelection.slice (self : LineSelection) (records : List ρ) : List ρ :=
  let first := ((self.startLine.getD 1) - 1).toNat
  let last := (self.endLine.getD records.length).toNat
  let lines := (records.take last).drop first
  lines.take (self.firstN.getD records.length).toNat

theorem LineSelection.select_eq_slice (self : LineSelection) (records : List ρ) :
    self.select records = self.slice records := by
  have start : (self.startLine.map (· - 1)).getD 0 = (self.startLine.getD 1) - 1 := by
    cases self.startLine <;> simp
  unfold select slice
  rw [start]
  dsimp only
  have behind : (self.startLine.getD 1) - 1 ≥ records.length →
      (records.take (self.endLine.getD records.length).toNat).drop
        ((self.startLine.getD 1) - 1).toNat = [] := by
    intro past
    apply List.drop_eq_nil_of_le
    rw [List.length_take]
    omega
  have lines : (if (self.startLine.getD 1) - 1 ≥ records.length then []
      else (records.take (self.endLine.getD records.length).toNat).drop
        ((self.startLine.getD 1) - 1).toNat) =
      (records.take (self.endLine.getD records.length).toNat).drop
        ((self.startLine.getD 1) - 1).toNat := by
    split
    next past => exact (behind past).symm
    next => rfl
  rw [lines]
  cases self.firstN with
  | none =>
      symm
      apply List.take_of_length_le
      simp only [List.length_drop, List.length_take, Option.getD_none]
      omega
  | some count => rfl

/-! ## Calls -/

inductive SchedulerCall (ρ : Type) where
  | setRecords (records : List ρ)
  | requestFileSwap (records : List ρ) (headerPayload : Option ρ)
  | setLineControls (startLine endLine firstN : Option Int)
  | jumpTo (lineNumber : Int)
  | setRate (rateFeaturesPerSecond : ℚ)
  | start
  | stop
  | pause
  | resume
  | step

namespace SendScheduler

variable (self : SendScheduler ρ)

/-- The scheduler after a call; one that raises changes nothing. -/
def call : SchedulerCall ρ → SendScheduler ρ
  | .setRecords records => self.setRecords records
  | .requestFileSwap records headerPayload => self.requestFileSwap records headerPayload
  | .setLineControls startLine endLine firstN =>
      (self.setLineControls startLine endLine firstN).toOption.getD self
  | .jumpTo lineNumber => (self.jumpTo lineNumber).toOption.getD self
  | .setRate rate => self.setRate rate
  | .start => self.start
  | .stop => self.stop
  | .pause => self.pause
  | .resume => self.resume
  | .step => self.step.2

def afterCalls (calls : List (SchedulerCall ρ)) : SendScheduler ρ := calls.foldl call self

variable {self}

theorem setLineControls_cases (startLine endLine firstN : Option Int) :
    (∃ message, self.setLineControls startLine endLine firstN = .error message) ∨
    ∃ lines : LineSelection, self.setLineControls startLine endLine firstN =
      .ok { self with lines }.rebuildActiveRecords := by
  unfold setLineControls
  cases LineSelection.check startLine endLine firstN with
  | error message => exact .inl ⟨message, rfl⟩
  | ok lines => exact .inr ⟨lines, rfl⟩

theorem jumpTo_cases (lineNumber : Int) :
    (∃ message, self.jumpTo lineNumber = .error message) ∨
    1 ≤ lineNumber ∧ lineNumber ≤ self.records.length ∧
      self.jumpTo lineNumber = .ok { self with cursor := (lineNumber - 1).toNat } := by
  unfold jumpTo
  split
  · exact .inl ⟨_, rfl⟩
  next inside => exact .inr ⟨by omega, by omega, rfl⟩

/-! ## The invariant -/

/-- Between two calls: the active records are the slice of the source, the cursor is in them
or behind the last, and no header waits without its swap. -/
structure Aligned (scheduler : SendScheduler ρ) : Prop where
  slice : scheduler.records = scheduler.lines.slice scheduler.sourceRecords
  inside : scheduler.cursor ≤ scheduler.records.length
  handedOut : scheduler.pendingHeader = none

theorem aligned_rebuild (handedOut : self.pendingHeader = none) :
    self.rebuildActiveRecords.Aligned where
  slice := self.lines.select_eq_slice self.sourceRecords
  inside := Nat.zero_le _
  handedOut := handedOut

/-- Applying a swap keeps all but the waiting header. -/
theorem Aligned.applyPendingSwap (aligned : self.Aligned) :
    self.applyPendingSwap.records = self.applyPendingSwap.lines.slice
        self.applyPendingSwap.sourceRecords ∧
      self.applyPendingSwap.cursor ≤ self.applyPendingSwap.records.length := by
  unfold SendScheduler.applyPendingSwap
  split
  · exact ⟨aligned.slice, aligned.inside⟩
  · exact ⟨LineSelection.select_eq_slice _ _, Nat.zero_le _⟩

theorem applyPendingSwap_pendingSwap : self.applyPendingSwap.pendingSwap = none := by
  unfold SendScheduler.applyPendingSwap
  split
  next none_ => exact none_
  next => rfl

/-- What `stepApplied` does: hand out the header, nothing, or the record at the position. -/
inductive Served (self : SendScheduler ρ) : Option (ScheduledMessage ρ) → SendScheduler ρ → Prop where
  | header (payload : ρ) (waits : self.pendingHeader = some payload) :
      Served self (some { payload, generation := self.generation, isHeader := true, lineNumber := 0 })
        { self with pendingHeader := none }
  | nothing (noHeader : self.pendingHeader = none)
      (finished : self.records = [] ∨ self.loop = false ∧ self.records.length ≤ self.cursor) :
      Served self none self
  | record (payload : ρ) (noHeader : self.pendingHeader = none)
      (found : self.records[self.position]? = some payload) :
      Served self (some {
        payload, generation := self.generation, isHeader := false, lineNumber := self.position + 1 })
        { self with cursor := self.position + 1 }

theorem position_outside_iff : self.records.length ≤ self.position ↔
    self.records = [] ∨ self.loop = false ∧ self.records.length ≤ self.cursor := by
  unfold position
  cases self.loop with
  | true =>
      by_cases behind : self.records.length ≤ self.cursor
      · simp [behind]
      · have some_ : self.records ≠ [] := by
          intro none_
          simp [none_] at behind
        simp [behind, some_]
  | false =>
      simp only [Bool.false_eq_true, and_false, if_false, true_and]
      constructor
      · exact .inr
      · rintro (none_ | behind)
        · simp [none_]
        · exact behind

theorem stepApplied_served (self : SendScheduler ρ) :
    Served self self.stepApplied.1 self.stepApplied.2 := by
  unfold stepApplied
  split
  next header waits => exact .header header waits
  next noHeader =>
      unfold stepRecord
      split
      next outside =>
          rw [List.getElem?_eq_none_iff] at outside
          exact .nothing noHeader (position_outside_iff.mp outside)
      next payload found => exact .record payload noHeader found

theorem step_served (self : SendScheduler ρ) :
    Served self.applyPendingSwap self.step.1 self.step.2 :=
  self.applyPendingSwap.stepApplied_served

theorem Aligned.step (aligned : self.Aligned) : self.step.2.Aligned := by
  obtain ⟨slice, inside⟩ := aligned.applyPendingSwap
  have served := self.step_served
  generalize self.step.1 = message at served
  generalize self.step.2 = after at served
  cases served with
  | header payload waits => exact ⟨slice, inside, rfl⟩
  | nothing noHeader finished => exact ⟨slice, inside, noHeader⟩
  | record payload noHeader found =>
      obtain ⟨within, _⟩ := List.getElem?_eq_some_iff.mp found
      exact ⟨slice, within, noHeader⟩

theorem Aligned.call (aligned : self.Aligned) (call : SchedulerCall ρ) : (self.call call).Aligned := by
  cases call with
  | setRecords records => exact aligned_rebuild aligned.handedOut
  | setLineControls startLine endLine firstN =>
      rw [SendScheduler.call]
      rcases self.setLineControls_cases startLine endLine firstN with ⟨message, raised⟩ | ⟨lines, set_⟩
      · rw [raised]
        exact aligned
      · rw [set_]
        exact aligned_rebuild aligned.handedOut
  | jumpTo lineNumber =>
      rw [SendScheduler.call]
      rcases self.jumpTo_cases lineNumber with ⟨message, raised⟩ | ⟨low, high, jumped⟩
      · rw [raised]
        exact aligned
      · rw [jumped]
        refine ⟨aligned.slice, ?_, aligned.handedOut⟩
        change (lineNumber - 1).toNat ≤ self.records.length
        omega
  | step => exact aligned.step
  | _ => exact ⟨aligned.slice, aligned.inside, aligned.handedOut⟩

theorem create_aligned (records : List ρ) (rate : ℚ) (loop : Bool) :
    (create records rate loop).Aligned where
  slice := by
    rw [← LineSelection.select_eq_slice]
    simp [create, setRate, init, LineSelection.select]
  inside := Nat.zero_le _
  handedOut := rfl

theorem aligned_afterCalls (aligned : self.Aligned) (calls : List (SchedulerCall ρ)) :
    (self.afterCalls calls).Aligned := by
  induction calls generalizing self with
  | nil => exact aligned
  | cons call rest ih => exact ih (aligned.call call)

/-! ## Line after line -/

def totalLines (self : SendScheduler ρ) : Nat := self.records.length

/-- The line that follows (a header is line 0): the next one, or behind the last the first
again in a loop. -/
def lineAfter (self : SendScheduler ρ) (line : Nat) : Option Nat :=
  if line < self.totalLines then some (line + 1)
  else if self.loop ∧ 0 < self.totalLines then some 1
  else none

theorem step_after_line (noSwap : self.pendingSwap = none) (noHeader : self.pendingHeader = none) :
    self.step.1.map (fun message : ScheduledMessage ρ => (message.isHeader, message.lineNumber)) =
      (self.lineAfter self.cursor).map (false, ·) := by
  rw [step_of_noSwap noSwap noHeader]
  unfold lineAfter totalLines
  by_cases more : self.cursor < self.records.length
  · have at_ : self.position = self.cursor := by
      simp [SendScheduler.position, Nat.not_le.mpr more]
    rw [if_pos more]
    simp only [stepRecord, at_, List.getElem?_eq_getElem more, Option.map_some]
  rw [if_neg more]
  by_cases again : self.loop = true ∧ 0 < self.records.length
  · have first : self.position = 0 := by
      simp [SendScheduler.position, Nat.not_lt.mp more, again.1]
    rw [if_pos again]
    simp only [stepRecord, first, List.getElem?_eq_getElem again.2, Option.map_some]
  · have ended : self.records = [] ∨ self.loop = false ∧ self.records.length ≤ self.cursor := by
      cases loops : self.loop with
      | false => exact .inr ⟨rfl, Nat.not_lt.mp more⟩
      | true =>
          left
          apply List.eq_nil_of_length_eq_zero
          exact Nat.eq_zero_of_not_pos fun some_ => again ⟨loops, some_⟩
    have nothing : self.records[self.position]? = none :=
      List.getElem?_eq_none_iff.mpr (position_outside_iff.mpr ended)
    rw [if_neg again]
    simp only [stepRecord, nothing, Option.map_none]

/-- A header waits only where its swap was just applied. -/
theorem Aligned.cursor_of_header (aligned : self.Aligned) {payload : ρ}
    (waits : self.applyPendingSwap.pendingHeader = some payload) : self.applyPendingSwap.cursor = 0 := by
  unfold SendScheduler.applyPendingSwap at waits ⊢
  split at waits
  · rw [aligned.handedOut] at waits
    cases waits
  · rfl

/-- After a step that returned a message, the cursor is behind its line. -/
theorem Aligned.step_some (aligned : self.Aligned) {message : ScheduledMessage ρ}
    (sends : self.step.1 = some message) :
    self.step.2.cursor = message.lineNumber ∧ self.step.2.pendingSwap = none := by
  have served := self.step_served
  rw [sends] at served
  generalize self.step.2 = after at served ⊢
  cases served with
  | header payload waits => exact ⟨aligned.cursor_of_header waits, applyPendingSwap_pendingSwap⟩
  | record payload noHeader found => exact ⟨rfl, applyPendingSwap_pendingSwap⟩

theorem Aligned.step_next (aligned : self.Aligned) {message : ScheduledMessage ρ}
    (sends : self.step.1 = some message) :
    self.step.2.step.1.map (fun next => (next.isHeader, next.lineNumber)) =
      (self.step.2.lineAfter message.lineNumber).map (false, ·) := by
  obtain ⟨cursor, noSwap⟩ := aligned.step_some sends
  rw [← cursor]
  exact step_after_line noSwap aligned.step.handedOut

theorem step_record {message : ScheduledMessage ρ} (sends : self.step.1 = some message)
    (data : message.isHeader = false) :
    1 ≤ message.lineNumber ∧ message.lineNumber ≤ self.step.2.totalLines ∧
      self.step.2.records[message.lineNumber - 1]? = some message.payload := by
  have served := self.step_served
  rw [sends] at served
  generalize self.step.2 = after at served ⊢
  cases served with
  | header payload waits => cases data
  | record payload noHeader found =>
      obtain ⟨within, _⟩ := List.getElem?_eq_some_iff.mp found
      exact ⟨Nat.le_add_left 1 _, within, found⟩

/-- Whatever calls were made, the active records are the slice of the current source, a step
sends its lines in order, and it sends nothing only where there is nothing to send. -/
theorem scheduler_traverses_slice (records : List ρ) (rate : ℚ) (loop : Bool)
    (calls : List (SchedulerCall ρ)) :
    let scheduler := (create records rate loop).afterCalls calls
    let applied := scheduler.applyPendingSwap
    scheduler.records = scheduler.lines.slice scheduler.sourceRecords ∧
      scheduler.cursor ≤ scheduler.totalLines ∧
      (∀ message, scheduler.step.1 = some message → message.isHeader = false →
        1 ≤ message.lineNumber ∧ message.lineNumber ≤ scheduler.step.2.totalLines ∧
        scheduler.step.2.records[message.lineNumber - 1]? = some message.payload) ∧
      (∀ message, scheduler.step.1 = some message →
        scheduler.step.2.step.1.map (fun next => (next.isHeader, next.lineNumber)) =
          (scheduler.step.2.lineAfter message.lineNumber).map (false, ·)) ∧
      ((∀ message, scheduler.step.1 = some message → message.isHeader = false) →
        (scheduler.step.1 = none ↔
          applied.records = [] ∨ applied.loop = false ∧ applied.cursor = applied.totalLines)) := by
  intro scheduler applied
  have aligned := aligned_afterCalls (create_aligned records rate loop) calls
  refine ⟨aligned.slice, aligned.inside, fun message sends data => step_record sends data,
    fun message sends => aligned.step_next sends, ?_⟩
  intro noHeader
  have inside : applied.cursor ≤ applied.records.length := aligned.applyPendingSwap.2
  have served : Served applied scheduler.step.1 scheduler.step.2 := scheduler.step_served
  generalize scheduler.step.1 = message at served noHeader ⊢
  generalize scheduler.step.2 = after at served
  cases served with
  | header payload waits => cases noHeader _ rfl
  | nothing _ finished =>
      refine iff_of_true rfl ?_
      exact finished.imp_right fun ended => ⟨ended.1, le_antisymm inside ended.2⟩
  | record payload _ found =>
      apply iff_of_false (Option.some_ne_none _)
      intro finished
      have outside := position_outside_iff.mpr
        (finished.imp_right fun ended => ⟨ended.1, ended.2.ge⟩)
      rw [List.getElem?_eq_none_iff.mpr outside] at found
      cases found

end SendScheduler

end TcpSim.Engine
