import TcpSim.Engine.SchedulerRuns

/-! Step after step of a scheduler: the records in order, and again from the first one in
a loop. -/

set_option autoImplicit false

namespace TcpSim.Engine

variable {ρ : Type}

namespace SendScheduler

/-- The messages of so many steps. -/
def steps (self : SendScheduler ρ) : Nat → List (ScheduledMessage ρ) × SendScheduler ρ
  | 0 => ([], self)
  | count + 1 =>
      let (message, next) := self.step
      let (more, last) := next.steps count
      (message.toList ++ more, last)

def payloads (self : SendScheduler ρ) (count : Nat) : List ρ :=
  (self.steps count).1.map ScheduledMessage.payload

/-- No swap is under way. -/
structure Quiet (scheduler : SendScheduler ρ) : Prop where
  noSwap : scheduler.pendingSwap = none
  noHeader : scheduler.pendingHeader = none

variable {self : SendScheduler ρ}

theorem steps_add (first second : Nat) :
    (self.steps (first + second)).1 =
      (self.steps first).1 ++ ((self.steps first).2.steps second).1 := by
  induction first generalizing self with
  | zero => rw [Nat.zero_add]; rfl
  | succ first ih =>
      rw [Nat.succ_add]
      simp only [steps, ih, List.append_assoc]

theorem Quiet.step (quiet : self.Quiet) : self.step.2.Quiet := by
  rw [step_of_noSwap quiet.noSwap quiet.noHeader]
  rcases self.stepRecord_cases with nothing | ⟨payload, _, sends⟩
  · rw [nothing]
    exact quiet
  · rw [sends]
    exact ⟨quiet.noSwap, quiet.noHeader⟩

theorem Quiet.step_within (quiet : self.Quiet) (within : self.cursor < self.records.length) :
    ∃ message, message.payload = self.records[self.cursor] ∧
      self.step = (some message, { self with cursor := self.cursor + 1 }) := by
  have at_ : self.position = self.cursor := by
    simp [position, Nat.not_le.mpr within]
  rw [step_of_noSwap quiet.noSwap quiet.noHeader]
  unfold stepRecord
  rw [at_, List.getElem?_eq_getElem within]
  exact ⟨_, rfl, rfl⟩

/-- Up to the last record, the records come in order. -/
theorem Quiet.steps_within (quiet : self.Quiet) {count : Nat}
    (within : self.cursor + count ≤ self.records.length) :
    self.payloads count = (self.records.drop self.cursor).take count ∧
      (self.steps count).2 = { self with cursor := self.cursor + count } := by
  induction count generalizing self with
  | zero => exact ⟨by simp [payloads, steps], rfl⟩
  | succ count ih =>
      have inside : self.cursor < self.records.length := by omega
      obtain ⟨message, payload, steps_⟩ := quiet.step_within inside
      have later := quiet.step
      rw [steps_] at later
      obtain ⟨payloads_, last⟩ := ih later (by dsimp only; omega)
      unfold payloads at payloads_ ⊢
      rw [steps, steps_]
      dsimp only
      constructor
      · rw [List.map_append, payloads_, List.drop_eq_getElem_cons inside, List.take_succ_cons, ← payload]
        rfl
      · rw [last]
        simp only [Nat.add_assoc, Nat.add_comm 1]

theorem steps_of_isExhausted (exhausted : self.isExhausted = true) (count : Nat) :
    (self.steps count).1 = [] := by
  induction count with
  | zero => rfl
  | succ count ih =>
      rw [steps, step_of_isExhausted exhausted]
      exact ih

theorem Quiet.payloads_subset (quiet : self.Quiet) (count : Nat) :
    ∀ payload ∈ self.payloads count, payload ∈ self.records := by
  induction count generalizing self with
  | zero => simp [payloads, steps]
  | succ count ih =>
      intro payload member
      unfold payloads at member
      rw [steps] at member
      dsimp only at member
      rw [List.map_append] at member
      have later := ih quiet.step payload
      rw [step_of_noSwap quiet.noSwap quiet.noHeader] at later member
      rcases self.stepRecord_cases with nothing | ⟨sent, isRecord, sends⟩
      · rw [nothing] at later member
        exact later member
      · rw [sends] at later member
        rcases List.mem_append.mp member with now | afterwards
        · cases List.mem_singleton.mp now
          exact isRecord
        · exact later afterwards

theorem Quiet.payloads_ne_nil (quiet : self.Quiet) (loops : self.loop = true)
    (behind : self.records.length ≤ self.cursor) (some_ : self.records ≠ []) (count : Nat) :
    self.payloads (count + 1) ≠ [] := by
  have first : self.position = 0 := by
    simp [position, behind, loops]
  have filled : 0 < self.records.length := List.length_pos_iff.mpr some_
  unfold payloads
  rw [steps, step_of_noSwap quiet.noSwap quiet.noHeader]
  unfold stepRecord
  rw [first, List.getElem?_eq_getElem filled]
  simp

def atEnd (self : SendScheduler ρ) : SendScheduler ρ := { self with cursor := self.records.length }

theorem Quiet.payloads_beyond (quiet : self.Quiet) (atStart : self.cursor = 0) (count : Nat) :
    self.payloads (self.records.length + count) = self.records ++ self.atEnd.payloads count := by
  obtain ⟨all, last⟩ := quiet.steps_within (by omega : self.cursor + self.records.length ≤ _)
  rw [atStart, List.drop_zero, List.take_length] at all
  rw [atStart, Nat.zero_add] at last
  unfold payloads at all ⊢
  rw [steps_add, List.map_append, all, last]
  rfl

theorem Quiet.payloads_atEnd (quiet : self.Quiet) (ends : self.loop = false) (count : Nat) :
    self.atEnd.payloads count = [] := by
  have exhausted : self.atEnd.isExhausted = true := by
    simp [atEnd, isExhausted, quiet.noSwap, quiet.noHeader, ends]
  rw [payloads, steps_of_isExhausted exhausted]
  rfl

/-- A new scheduler under line controls, accepted or not, stands at the first of some of its
records. -/
theorem create_setLineControls (records : List ρ) (rate : ℚ) (loop : Bool)
    (startLine endLine firstN : Option Int) :
    let scheduler := (create records rate loop).call (.setLineControls startLine endLine firstN)
    scheduler.Quiet ∧ scheduler.cursor = 0 ∧ scheduler.loop = loop ∧ scheduler.records.Sublist records := by
  intro scheduler
  have shape : scheduler = ((create records rate loop).setLineControls startLine endLine
    firstN).toOption.getD (create records rate loop) := rfl
  rcases (create records rate loop).setLineControls_cases startLine endLine firstN with
    ⟨message, raised⟩ | ⟨lines, set_⟩
  · rw [shape, raised]
    exact ⟨⟨rfl, rfl⟩, rfl, rfl, List.Sublist.refl _⟩
  · rw [shape, set_]
    refine ⟨⟨rfl, rfl⟩, rfl, rfl, ?_⟩
    change (lines.select records).Sublist records
    rw [lines.select_eq_slice]
    exact (List.take_sublist _ _).trans ((List.drop_sublist _ _).trans (List.take_sublist _ _))

end SendScheduler

/-! ## Records that must come last -/

section Ordered

variable {complete : ρ → Prop}

theorem pairwise_of_forall_complete {records : List ρ} (all : ∀ record ∈ records, complete record) :
    records.Pairwise fun earlier _ => complete earlier :=
  List.pairwise_of_forall_mem_list fun first isFirst _ _ => all first isFirst

/-- If only the last record may be incomplete and is not, none is. -/
theorem complete_of_last {records : List ρ} (ordered : records.Pairwise fun earlier _ => complete earlier)
    (last : ∀ record ∈ records.getLast?, complete record) : ∀ record ∈ records, complete record := by
  induction records with
  | nil => simp
  | cons first rest ih =>
      obtain ⟨firstOrdered, restOrdered⟩ := List.pairwise_cons.mp ordered
      cases rest with
      | nil =>
          intro record member
          rw [List.mem_singleton.mp member]
          exact last first rfl
      | cons second rest =>
          have others := ih restOrdered (by simpa using last)
          intro record member
          rcases List.mem_cons.mp member with isFirst | later
          · rw [isFirst]
            exact firstOrdered second (by simp)
          · exact others record later

variable {self : SendScheduler ρ}

theorem SendScheduler.Quiet.not_pairwise (quiet : self.Quiet) (loops : self.loop = true) {last : ρ}
    (isLast : self.records.getLast? = some last) (incomplete : ¬complete last) (count : Nat) :
    ¬(self.records ++ self.atEnd.payloads (count + 1)).Pairwise fun earlier _ => complete earlier := by
  have some_ : self.records ≠ [] := by
    rintro none_
    simp [none_] at isLast
  have again : self.atEnd.Quiet := ⟨quiet.noSwap, quiet.noHeader⟩
  obtain ⟨next, member⟩ := List.exists_mem_of_ne_nil _ (again.payloads_ne_nil loops le_rfl some_ count)
  intro ordered
  have before := (List.pairwise_append.mp ordered).2.2
  exact incomplete (before last (List.mem_of_getLast? isLast) next member)

/-- From the first record on, an incomplete one is followed by another message exactly when a
loop goes past it. -/
theorem SendScheduler.Quiet.payloads_pairwise_iff (quiet : self.Quiet)
    (atStart : self.cursor = 0) (ordered : self.records.Pairwise fun earlier _ => complete earlier)
    (count : Nat) :
    ((self.payloads count).Pairwise fun earlier _ => complete earlier) ↔
      ¬(self.loop = true ∧ self.records.length < count ∧
        ∃ last ∈ self.records.getLast?, ¬complete last) := by
  by_cases within : count ≤ self.records.length
  · have taken := (quiet.steps_within (by omega : self.cursor + count ≤ self.records.length)).1
    rw [taken, atStart, List.drop_zero]
    exact iff_of_true (ordered.sublist (List.take_sublist _ _)) fun fails => by omega
  obtain ⟨more, rfl⟩ : ∃ more, count = self.records.length + (more + 1) :=
    ⟨count - self.records.length - 1, by omega⟩
  by_cases goesPast : self.loop = true ∧ ∃ last ∈ self.records.getLast?, ¬complete last
  · obtain ⟨loops, last, isLast, incomplete⟩ := goesPast
    rw [quiet.payloads_beyond atStart]
    refine iff_of_false (quiet.not_pairwise loops isLast incomplete more) ?_
    intro holds
    exact holds ⟨loops, by omega, last, isLast, incomplete⟩
  · refine iff_of_true ?_ fun fails => goesPast ⟨fails.1, fails.2.2⟩
    cases loops : self.loop with
    | false =>
        rw [quiet.payloads_beyond atStart, quiet.payloads_atEnd loops, List.append_nil]
        exact ordered
    | true =>
        have every := complete_of_last ordered fun record isLast =>
          by_contra fun incomplete => goesPast ⟨loops, record, isLast, incomplete⟩
        exact pairwise_of_forall_complete fun payload member =>
          every payload (quiet.payloads_subset _ payload member)

end Ordered

end TcpSim.Engine
