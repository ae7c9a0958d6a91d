import TcpSim.Engine.SchedulerRuns
import TcpSim.Lib.Runs
import TcpSim.Lib.Spaced

/-! The loop of `run_auto` in time: how often it takes a message, whatever the user asks for in
between and however long sending takes. -/

set_option autoImplicit false

namespace TcpSim.Engine

variable {ρ : Type}

inductive LoopPoint where
  /-- In `asyncio.sleep`, or about to begin. -/
  | sleeping (wakes : ℚ)
  /-- In `send_callback`. -/
  | sending (since : ℚ)
  | done
  deriving DecidableEq, Repr

structure AutoLoop (ρ : Type) where
  scheduler : SendScheduler ρ
  clock : ℚ
  point : LoopPoint
  /-- History: when messages were taken. -/
  taken : List ℚ := []

inductive LoopAction (ρ : Type) where
  | tick (now : ℚ)
  /-- The sleep is over, which takes at least its delay. -/
  | turn
  /-- `send_callback` returns. -/
  | sent
  /-- `send_callback` raises, or the task is cancelled. -/
  | ended
  /-- Something else calls the scheduler. -/
  | call (call : SchedulerCall ρ)

namespace AutoLoop

variable (self : AutoLoop ρ)

def sleep (delay : ℚ) : AutoLoop ρ := { self with point := .sleeping (self.clock + delay) }

/-- The `finally` of `run_auto`. -/
def finish : AutoLoop ρ := { self with scheduler := self.scheduler.stop, point := .done }

/-- A turn of the loop, up to its next await. -/
def turn : AutoLoop ρ :=
  if !self.scheduler.running then self.finish
  else if self.scheduler.paused then self.sleep (1 / 20)
  else
    match self.scheduler.step with
    | (none, scheduler) => { self with scheduler }.sleep (1 / 20)
    | (some _, scheduler) =>
        { self with scheduler, point := .sending self.clock, taken := self.taken ++ [self.clock] }

/-- One step; `none` when the action is not possible. -/
def step (self : AutoLoop ρ) : LoopAction ρ → Option (AutoLoop ρ)
  | .tick now => if self.clock ≤ now then some { self with clock := now } else none
  | .turn =>
      match self.point with
      | .sleeping wakes => if wakes ≤ self.clock then some self.turn else none
      | _ => none
  | .sent =>
      match self.point with
      | .sending _ => some (self.sleep (1 / self.scheduler.rateFeaturesPerSecond))
      | _ => none
  | .ended =>
      match self.point with
      | .done => none
      | _ => some self.finish
  | .call call => some { self with scheduler := self.scheduler.call call }

/-- `run_auto` begins. -/
def started (scheduler : SendScheduler ρ) (now : ℚ) : AutoLoop ρ where
  scheduler := scheduler.start
  clock := now
  point := .sleeping now

end AutoLoop

/-! ## The rate -/

namespace SendScheduler

variable (self : SendScheduler ρ)

theorem step_rate : self.step.2.rateFeaturesPerSecond = self.rateFeaturesPerSecond := by
  have swapped : self.applyPendingSwap.rateFeaturesPerSecond = self.rateFeaturesPerSecond := by
    unfold applyPendingSwap
    split <;> rfl
  unfold SendScheduler.step stepApplied
  split
  · exact swapped
  · rcases self.applyPendingSwap.stepRecord_cases with same | ⟨_, _, same⟩
    · rw [same]
      exact swapped
    · rw [same]
      exact swapped

theorem call_rate (call : SchedulerCall ρ) :
    (self.call call).rateFeaturesPerSecond = self.rateFeaturesPerSecond ∨
      ∃ rate, call = .setRate rate ∧ (self.call call).rateFeaturesPerSecond = max rate (1 / 10) := by
  cases call with
  | setRate rate => exact .inr ⟨rate, rfl, rfl⟩
  | step => exact .inl self.step_rate
  | setLineControls startLine endLine firstN =>
      refine .inl ?_
      simp only [SendScheduler.call]
      rcases @setLineControls_cases ρ self startLine endLine firstN with
        ⟨_, rejected⟩ | ⟨_, accepted⟩
      · rw [rejected]
        rfl
      · rw [accepted]
        rfl
  | jumpTo lineNumber =>
      refine .inl ?_
      simp only [SendScheduler.call]
      rcases @jumpTo_cases ρ self lineNumber with ⟨_, rejected⟩ | ⟨_, _, accepted⟩
      · rw [rejected]
        rfl
      · rw [accepted]
        rfl
  | _ => exact .inl rfl

end SendScheduler

namespace AutoLoop

variable {self next : AutoLoop ρ}

/-- What a turn does: it ends the loop, waits, or takes a message. -/
theorem turn_cases :
    self.turn = self.finish ∨
    (∃ scheduler, self.turn = { self with scheduler }.sleep (1 / 20) ∧
      scheduler.rateFeaturesPerSecond = self.scheduler.rateFeaturesPerSecond) ∨
    self.turn = { self with
      scheduler := self.scheduler.step.2
      point := .sending self.clock
      taken := self.taken ++ [self.clock] } := by
  unfold turn
  split
  · exact .inl rfl
  · split
    · exact .inr (.inl ⟨self.scheduler, rfl, rfl⟩)
    · have rate := self.scheduler.step_rate
      split
      next scheduler stepped =>
        rw [stepped] at rate
        exact .inr (.inl ⟨scheduler, rfl, rate⟩)
      next stepped =>
        rw [stepped]
        exact .inr (.inr rfl)

/-- The moments at which messages were taken keep the gap of the fastest rate, and so does the
next one. -/
structure Paced (limit : ℚ) (state : AutoLoop ρ) : Prop where
  low : 1 / 10 ≤ state.scheduler.rateFeaturesPerSecond
  high : state.scheduler.rateFeaturesPerSecond ≤ limit
  spaced : Spaced (1 / limit) state.taken
  past : ∀ moment ∈ state.taken, moment ≤ state.clock
  rests : ∀ wakes, state.point = .sleeping wakes → ∀ moment ∈ state.taken, moment + 1 / limit ≤ wakes

namespace Paced

variable {limit : ℚ} (paced : Paced limit self)

include paced

theorem limit_pos : 0 < limit := by
  have low := paced.low
  have high := paced.high
  linarith

/-- A sleep that begins when its turn has come. -/
theorem sleepAgain {wakes : ℚ} (asleep : self.point = .sleeping wakes) (due : wakes ≤ self.clock)
    {scheduler : SendScheduler ρ}
    (rate : scheduler.rateFeaturesPerSecond = self.scheduler.rateFeaturesPerSecond) :
    Paced limit ({ self with scheduler }.sleep (1 / 20)) where
  low := paced.low.trans_eq rate.symm
  high := rate.trans_le paced.high
  spaced := paced.spaced
  past := paced.past
  rests := by
    intro later same moment member
    obtain rfl := LoopPoint.sleeping.inj same
    have rested := paced.rests wakes asleep moment member
    change moment + 1 / limit ≤ self.clock + 1 / 20
    linarith

theorem sent : Paced limit (self.sleep (1 / self.scheduler.rateFeaturesPerSecond)) where
  low := paced.low
  high := paced.high
  spaced := paced.spaced
  past := paced.past
  rests := by
    intro later same moment member
    obtain rfl := LoopPoint.sleeping.inj same
    have positive : 0 < self.scheduler.rateFeaturesPerSecond := by
      have low := paced.low
      linarith
    exact add_le_add (paced.past moment member) (one_div_le_one_div_of_le positive paced.high)

theorem taking {wakes : ℚ} (asleep : self.point = .sleeping wakes) (due : wakes ≤ self.clock) :
    Paced limit { self with
      scheduler := self.scheduler.step.2
      point := .sending self.clock
      taken := self.taken ++ [self.clock] } where
  low := paced.low.trans_eq self.scheduler.step_rate.symm
  high := self.scheduler.step_rate.trans_le paced.high
  spaced := paced.spaced.concat fun moment member =>
    (paced.rests wakes asleep moment member).trans due
  past := by
    intro moment member
    rcases List.mem_append.mp member with earlier | new
    · exact paced.past moment earlier
    · exact (List.mem_singleton.mp new).le
  rests := fun later same => by cases same

theorem finish : Paced limit self.finish where
  low := paced.low
  high := paced.high
  spaced := paced.spaced
  past := paced.past
  rests := fun later same => by cases same

theorem step {action : LoopAction ρ}
    (slow : ∀ rate, action = .call (.setRate rate) → max rate (1 / 10) ≤ limit) (taken : self.step action = some next) :
    Paced limit next := by
  cases action with
  | tick now =>
      simp only [AutoLoop.step] at taken
      split at taken
      next forward =>
        cases taken
        exact ⟨paced.low, paced.high, paced.spaced,
          fun moment member => (paced.past moment member).trans forward, paced.rests⟩
      next => cases taken
  | turn =>
      simp only [AutoLoop.step] at taken
      split at taken
      next wakes asleep =>
        split at taken
        next due =>
          cases taken
          rcases self.turn_cases with ends | ⟨scheduler, waits, rate⟩ | takes
          · rw [ends]
            exact paced.finish
          · rw [waits]
            exact paced.sleepAgain asleep due rate
          · rw [takes]
            exact paced.taking asleep due
        next => cases taken
      next => cases taken
  | sent =>
      simp only [AutoLoop.step] at taken
      split at taken
      · cases taken
        exact paced.sent
      · cases taken
  | ended =>
      simp only [AutoLoop.step] at taken
      split at taken
      · cases taken
      · cases taken
        exact paced.finish
  | call call =>
      cases taken
      have known := self.scheduler.call_rate call
      refine ⟨?_, ?_, paced.spaced, paced.past, paced.rests⟩
      · rcases known with same | ⟨rate, rfl, asked⟩
        · exact paced.low.trans_eq same.symm
        · exact (le_max_right _ _).trans_eq asked.symm
      · rcases known with same | ⟨rate, rfl, asked⟩
        · exact same.trans_le paced.high
        · exact asked.trans_le (slow rate rfl)

end Paced

theorem created_paced (records : List ρ) {rate limit : ℚ} (loop : Bool) (now : ℚ)
    (initial : max rate (1 / 10) ≤ limit) :
    Paced limit (started (SendScheduler.create records rate loop) now) where
  low := le_max_right _ _
  high := initial
  spaced := List.Pairwise.nil
  past := fun _ member => by cases member
  rests := fun _ _ _ member => by cases member

/-- In any window of time the loop takes at most as many messages as the highest rate asked for
allows, and one: whatever else is asked of the scheduler, and however long sending takes. -/
theorem auto_paced (records : List ρ) (rate : ℚ) (loop : Bool) (now : ℚ) {limit : ℚ}
    (initial : max rate (1 / 10) ≤ limit) {actions : List (LoopAction ρ)} {final : AutoLoop ρ}
    (slow : ∀ rate, .call (.setRate rate) ∈ actions → max rate (1 / 10) ≤ limit)
    (ran : Runs.run step (started (SendScheduler.create records rate loop) now) actions = some final)
    {low high : ℚ} (forward : low ≤ high) :
    ((final.taken.filter fun moment => low ≤ moment ∧ moment ≤ high).length : ℚ) ≤
      limit * (high - low) + 1 := by
  have each : Runs.Each step
      (fun _ action => ∀ rate, action = .call (.setRate rate) → max rate (1 / 10) ≤ limit)
      (started (SendScheduler.create records rate loop) now) actions :=
    (Runs.each_iff_of_run ran).mpr fun action member rate same => slow rate (same ▸ member)
  have paced : Paced limit final := each.visits_invariant (Paced limit)
    (fun _ _ _ slow paced taken => paced.step slow taken) (created_paced records loop now initial)
    ⟨actions, List.prefix_rfl, ran⟩
  have window := paced.spaced.window (one_div_pos.mpr paced.limit_pos) forward
  rw [div_div_eq_mul_div, div_one, mul_comm] at window
  exact window

/-! ## Keeping up -/

/-- The loop is let run: sleeps end in time, sending does not take too long, and each turn finds
a message. -/
def LetRun (slack delay rate : ℚ) (self : AutoLoop ρ) : LoopAction ρ → Prop
  | .tick now =>
      match self.point with
      | .sleeping wakes => now ≤ wakes + slack
      | .sending since => now ≤ since + delay
      | .done => False
  | .turn => self.scheduler.running = true ∧ self.scheduler.paused = false ∧
      self.scheduler.step.1.isSome = true
  | .sent => rate ≤ self.scheduler.rateFeaturesPerSecond
  | .ended => False
  | .call _ => True

instance (slack delay rate : ℚ) (self : AutoLoop ρ) (action : LoopAction ρ) :
    Decidable (self.LetRun slack delay rate action) :=
  match action with
  | .tick now => by
      unfold LetRun
      dsimp only
      split <;> infer_instance
  | .turn => inferInstanceAs (Decidable (_ ∧ _))
  | .sent => inferInstanceAs (Decidable (_ ≤ _))
  | .ended => .isFalse id
  | .call _ => .isTrue trivial

/-- The longest time from one message to the next. -/
def period (slack delay rate : ℚ) : ℚ := 1 / rate + slack + delay

/-- The loop is not later than its messages so far allow. -/
def OnTime (slack delay rate begun : ℚ) (state : AutoLoop ρ) : Prop :=
  match state.point with
  | .sleeping wakes => wakes ≤ begun + state.taken.length * period slack delay rate ∧
      state.clock ≤ wakes + slack
  | .sending since => since + delay + 1 / rate ≤ begun + state.taken.length * period slack delay rate ∧
      state.clock ≤ since + delay
  | .done => False

theorem turn_of_message (runs : self.scheduler.running = true)
    (unpaused : self.scheduler.paused = false) (message : self.scheduler.step.1.isSome = true) :
    self.turn = { self with
      scheduler := self.scheduler.step.2
      point := .sending self.clock
      taken := self.taken ++ [self.clock] } := by
  obtain ⟨found, taken⟩ := Option.isSome_iff_exists.mp message
  have stepped : self.scheduler.step = (some found, self.scheduler.step.2) := Prod.ext taken rfl
  unfold turn
  rw [runs, unpaused, stepped]
  rfl

section OnTime

variable {slack delay rate begun : ℚ} (slack_nonneg : 0 ≤ slack) (delay_nonneg : 0 ≤ delay)
  (rate_pos : 0 < rate)

include slack_nonneg delay_nonneg rate_pos

theorem OnTime.step {action : LoopAction ρ}
    (letRun : self.LetRun slack delay rate action) (onTime : self.OnTime slack delay rate begun)
    (taken : self.step action = some next) : next.OnTime slack delay rate begun := by
  cases action with
  | tick now =>
      simp only [AutoLoop.step] at taken
      split at taken
      · cases taken
        unfold OnTime LetRun at *
        cases point : self.point with
        | sleeping wakes =>
            simp only [point] at onTime letRun ⊢
            exact ⟨onTime.1, letRun⟩
        | sending since =>
            simp only [point] at onTime letRun ⊢
            exact ⟨onTime.1, letRun⟩
        | done =>
            simp only [point] at letRun
      · cases taken
  | turn =>
      obtain ⟨runs, unpaused, message⟩ := letRun
      simp only [AutoLoop.step] at taken
      split at taken
      next wakes asleep =>
        split at taken
        next due =>
          cases taken
          rw [turn_of_message runs unpaused message]
          unfold OnTime at onTime ⊢
          simp only [asleep] at onTime
          obtain ⟨inTime, late⟩ := onTime
          simp only [List.length_append, List.length_singleton, Nat.cast_add, Nat.cast_one]
          unfold period at inTime ⊢
          constructor
          · linarith
          · linarith
        next => cases taken
      next => cases taken
  | sent =>
      simp only [AutoLoop.step] at taken
      split at taken
      next since sending =>
        cases taken
        unfold OnTime at onTime ⊢
        simp only [sending] at onTime
        obtain ⟨inTime, late⟩ := onTime
        have faster : 1 / self.scheduler.rateFeaturesPerSecond ≤ 1 / rate :=
          one_div_le_one_div_of_le rate_pos letRun
        have positive : 0 ≤ 1 / self.scheduler.rateFeaturesPerSecond :=
          one_div_nonneg.mpr (rate_pos.le.trans letRun)
        change self.clock + 1 / self.scheduler.rateFeaturesPerSecond ≤ _ ∧
          self.clock ≤ self.clock + 1 / self.scheduler.rateFeaturesPerSecond + slack
        constructor
        · exact (add_le_add late faster).trans inTime
        · linarith
      next => cases taken
  | ended => exact letRun.elim
  | call call =>
      cases taken
      exact onTime

omit delay_nonneg in
theorem OnTime.clock_le {state : AutoLoop ρ} (onTime : state.OnTime slack delay rate begun) :
    state.clock ≤ begun + state.taken.length * period slack delay rate + slack := by
  have positive : 0 < 1 / rate := one_div_pos.mpr rate_pos
  unfold OnTime at onTime
  split at onTime
  · linarith [onTime.1, onTime.2]
  · linarith [onTime.1, onTime.2]
  · exact onTime.elim

/-- Where sleeps end in time, sending is not too slow and there is always a message, the loop
keeps up with the lowest rate: after a while it has taken as many messages as periods went by. -/
theorem auto_keeps_up (scheduler : SendScheduler ρ) (begun : ℚ) {actions : List (LoopAction ρ)}
    {final : AutoLoop ρ}
    (letRun : Runs.Each step (LetRun slack delay rate) (started scheduler begun) actions)
    (ran : Runs.run step (started scheduler begun) actions = some final) :
    (final.clock - begun - slack) / period slack delay rate ≤ final.taken.length := by
  have initial : (started scheduler begun).OnTime slack delay rate begun := by
    change begun ≤ begun + (0 : Nat) * _ ∧ begun ≤ begun + slack
    constructor
    · simp
    · linarith
  have onTime : final.OnTime slack delay rate begun := letRun.visits_invariant
    (fun state => state.OnTime slack delay rate begun)
    (fun _ _ _ letRun onTime taken =>
      onTime.step slack_nonneg delay_nonneg rate_pos letRun taken)
    initial ⟨actions, List.prefix_rfl, ran⟩
  have bound := onTime.clock_le slack_nonneg rate_pos
  have positive : 0 < period slack delay rate := by
    have positive : 0 < 1 / rate := one_div_pos.mpr rate_pos
    unfold period
    linarith
  rw [div_le_iff₀ positive]
  linarith

end OnTime

/-! Three messages; the rate is raised after the second one. -/

def hurries : List (LoopAction Nat) :=
  [.turn, .sent, .tick (1 / 10), .turn, .tick (1 / 5), .sent, .call (.setRate 20), .tick (3 / 10),
    .turn, .sent, .tick (7 / 20)]

def threeRecords : SendScheduler Nat := .create [1, 2, 3] 10 false

theorem auto_paced_hurries : ∃ final,
    Runs.run step (started threeRecords 0) hurries = some final ∧
      final.taken = [0, 1 / 10, 3 / 10] ∧
      ((final.taken.filter fun moment => 0 ≤ moment ∧ moment ≤ 1 / 10).length : ℚ) ≤
        20 * (1 / 10 - 0) + 1 := by
  have reached : (Runs.run step (started threeRecords 0) hurries).map (·.taken) =
      some [0, 1 / 10, 3 / 10] := by decide +kernel
  obtain ⟨final, ran, taken⟩ := Option.map_eq_some_iff.mp reached
  refine ⟨final, ran, taken, auto_paced [1, 2, 3] 10 false 0 (by decide +kernel) ?_ ran
    (by decide +kernel)⟩
  intro rate member
  have known : rate = 20 := by simpa [hurries] using member
  rw [known]
  decide +kernel

theorem auto_keeps_up_hurries : ∃ final,
    Runs.run step (started threeRecords 0) hurries = some final ∧ final.clock = 7 / 20 ∧
      (final.clock - 0 - 1 / 20) / period (1 / 20) (1 / 10) 10 ≤ final.taken.length := by
  have reached : (Runs.run step (started threeRecords 0) hurries).map (·.clock) =
      some (7 / 20) := by decide +kernel
  obtain ⟨final, ran, clock⟩ := Option.map_eq_some_iff.mp reached
  exact ⟨final, ran, clock, auto_keeps_up (by decide +kernel) (by decide +kernel) (by decide +kernel)
    threeRecords 0 (by decide +kernel) ran⟩

end AutoLoop

end TcpSim.Engine
