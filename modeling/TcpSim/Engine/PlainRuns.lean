import TcpSim.Engine.Scheduler

/-! A scheduler that only steps, pauses and resumes: its messages are the records of the file one
after the other, and from the first one again in a loop. -/

set_option autoImplicit false

namespace TcpSim.Engine

variable {ρ : Type}

namespace SendScheduler

/-- The scheduler has the whole file, and its cursor is where the messages so far have got. -/
structure Plain (records : List ρ) (loop : Bool) (produced : Nat) (scheduler : SendScheduler ρ) :
    Prop where
  same : scheduler.records = records
  loops : scheduler.loop = loop
  noSwap : scheduler.pendingSwap = none
  noHeader : scheduler.pendingHeader = none
  inside : scheduler.cursor ≤ records.length
  place : scheduler.cursor % records.length = produced % records.length
  once : loop = false → scheduler.cursor = produced

theorem init_plain (records : List ρ) (loop : Bool) : Plain records loop 0 (init records loop).start :=
  ⟨rfl, rfl, rfl, rfl, Nat.zero_le _, rfl, fun _ => rfl⟩

namespace Plain

variable {records : List ρ} {loop : Bool} {produced : Nat} {scheduler : SendScheduler ρ}
  (plain : Plain records loop produced scheduler)

include plain

theorem of_running (running paused : Bool) :
    Plain records loop produced { scheduler with running, paused } :=
  ⟨plain.same, plain.loops, plain.noSwap, plain.noHeader, plain.inside, plain.place, plain.once⟩

theorem position {payload : ρ} (found : scheduler.records[scheduler.position]? = some payload) :
    scheduler.position = produced % records.length ∧ scheduler.position < records.length ∧
      (loop = false → scheduler.position = produced) := by
  have inside : scheduler.position < records.length := by
    rw [← plain.same]
    exact (List.getElem?_eq_some_iff.mp found).1
  have place := plain.place
  unfold SendScheduler.position at inside ⊢
  rw [plain.same, plain.loops] at inside ⊢
  split at inside
  next behind =>
    -- the cursor is behind the last record, and a loop starts over
    have last : scheduler.cursor = records.length := Nat.le_antisymm plain.inside behind.1
    rw [last, Nat.mod_self] at place
    rw [if_pos behind]
    refine ⟨place, inside, ?_⟩
    intro never
    rw [never] at behind
    exact absurd behind.2 Bool.false_ne_true
  next within =>
    rw [if_neg within]
    rw [Nat.mod_eq_of_lt inside] at place
    exact ⟨place, inside, plain.once⟩

/-- The message that is handed out is the next record. -/
theorem step {message : Option (ScheduledMessage ρ)} {next : SendScheduler ρ}
    (stepped : scheduler.step = (message, next)) :
    message = none ∧ next = scheduler ∨
      ∃ sent, message = some sent ∧ records[produced % records.length]? = some sent.payload ∧
        sent.isHeader = false ∧ Plain records loop (produced + 1) next := by
  rw [SendScheduler.step_of_noSwap plain.noSwap plain.noHeader] at stepped
  unfold SendScheduler.stepRecord at stepped
  cases found : scheduler.records[scheduler.position]? with
  | none =>
      rw [found] at stepped
      cases stepped
      exact .inl ⟨rfl, rfl⟩
  | some payload =>
      rw [found] at stepped
      cases stepped
      obtain ⟨place, inside, once⟩ := plain.position found
      rw [plain.same, place] at found
      refine .inr ⟨_, rfl, found, rfl, plain.same, plain.loops, plain.noSwap, plain.noHeader, inside,
        ?_, ?_⟩
      · change (scheduler.position + 1) % _ = (produced + 1) % _
        rw [place, Nat.mod_add_mod]
      · intro never
        exact congrArg (· + 1) (once never)

theorem produced_le (never : loop = false) : produced ≤ records.length := by
  rw [← plain.once never]
  exact plain.inside

end Plain

end SendScheduler

end TcpSim.Engine
