import TcpSim.Engine.SinkLog
import TcpSim.Engine.SinkOpening

/-! The waits of `configure` calls. There is one place for a requested configuration: a wait
ends as long as no second request takes it, and the drain loop does not end before. -/

set_option autoImplicit false

namespace TcpSim.Engine

/-- The part of the writer's state that requests and their waits are about. -/
structure Requests where
  cfg : SinkConfig
  task : Option DrainTask
  pendingConfig : Option PendingConfig
  nextEvent : Nat
  doneEvents : List Nat
  queue : List QueueItem

def SinkWriter.requests (sink : SinkWriter) : Requests where
  cfg := sink.cfg
  task := sink.task
  pendingConfig := sink.pendingConfig
  nextEvent := sink.nextEvent
  doneEvents := sink.doneEvents
  queue := sink.queue

/-! ## What the actions do to the requests -/

theorem SinkWriter.updateBackpressure_requests (sink : SinkWriter) :
    sink.updateBackpressure.requests = sink.requests := by
  unfold SinkWriter.updateBackpressure
  split
  · rfl
  · split
    · rfl
    · rfl

theorem SinkWriter.handleRecord_requests (sink : SinkWriter) (item : QueueItem) (now : String)
    (writing : List Bool) : (sink.handleRecord item now writing).requests = sink.requests := by
  unfold SinkWriter.handleRecord
  split
  · exact SinkWriter.updateBackpressure_requests _
  · split
    · exact SinkWriter.updateBackpressure_requests _
    · exact SinkWriter.updateBackpressure_requests _

theorem SinkWriter.submit_requests (sink : SinkWriter) (record : FramedRecord) (src : String) :
    ∃ items, (sink.submit record src).2.requests =
      { sink.requests with queue := sink.queue ++ items } := by
  unfold SinkWriter.submit
  split
  · exact ⟨[], by simp [SinkWriter.requests]⟩
  · dsimp only
    split
    · exact ⟨[], by simp [SinkWriter.requests, SinkWriter.emit]⟩
    · exact ⟨[_], SinkWriter.updateBackpressure_requests _⟩

/-- The turn settles the request, if there is one, and the task ends on the sentinel. -/
def Requests.turn (requests : Requests) (stop : Bool) : Requests :=
  { requests with
    cfg := (requests.pendingConfig.map (·.cfg)).getD requests.cfg
    task := if stop then some .finished else requests.task
    pendingConfig := none
    doneEvents := requests.doneEvents ++ (requests.pendingConfig.map (·.done)).toList }

theorem SinkWriter.turn_requests {sink : SinkWriter} {opening : List Bool}
    (reopens : sink.Reopens opening) (item : QueueItem) (now : String) (writing : List Bool) :
    (sink.turn item now opening writing).requests = sink.requests.turn item.stop := by
  obtain ⟨settled, applied, _, requested, events, done, queue⟩ :=
    SinkWriter.applyPendingConfig_ok reopens
  have kept : sink.Settled settled :=
    SinkWriter.applyPendingConfig_settled (by rw [applied]; rfl)
  have next : sink.nextCfg = (sink.pendingConfig.map (·.cfg)).getD sink.cfg := by
    unfold SinkWriter.nextCfg
    cases sink.pendingConfig <;> rfl
  have before : settled.requests = sink.requests.turn false := by
    simp only [SinkWriter.requests, Requests.turn, requested, events, done, queue, kept.cfg,
      kept.task, next]
    rfl
  simp only [SinkWriter.turn, applied]
  cases item.stop with
  | true =>
      simp only [if_true]
      calc
        { settled with file := closeFile settled.file, task := some .finished }.requests =
          { settled.requests with task := some .finished } := rfl
        _ = sink.requests.turn true := by rw [before]; rfl
  | false =>
      simp only [Bool.false_eq_true, if_false]
      split
      · exact before
      · exact (SinkWriter.handleRecord_requests settled item now writing).trans before

theorem SinkWriter.begin_requests {sink : SinkWriter} {opening : List Bool}
    (opens : sink.cfg.Opens opening) :
    (sink.begin opening).requests = { sink.requests with task := some .running } := by
  obtain ⟨after, ran, _⟩ := @openFileIfEnabled_ok (sink.file.withFaults opening) sink.cfg opens
  have returned : sink.runFile opening (openFileIfEnabled sink.cfg) = .ok () after := ran
  simp only [SinkWriter.begin, returned]
  split <;> rfl

/-- What a step does to the requests while no opening of a file raises. -/
inductive Requests.Step (requests : Requests) : SinkAction → Requests → Prop where
  | grows {action : SinkAction} (items : List QueueItem) (other : ∀ cfg, action ≠ .configure cfg)
      (goesOn : action ≠ .stopTimeout) :
      Step requests action { requests with queue := requests.queue ++ items }
  | starts (idle : requests.task = none) :
      Step requests .start { requests with task := some .created }
  | begins {opening : List Bool} (created : requests.task = some .created) :
      Step requests (.begin opening) { requests with task := some .running }
  | assigns {cfg : SinkConfig} (idle : requests.task = none) :
      Step requests (.configure cfg) { requests with cfg }
  | asks {cfg : SinkConfig} (busy : requests.task ≠ none) :
      Step requests (.configure cfg) { requests with
        pendingConfig := some { cfg, done := requests.nextEvent }
        nextEvent := requests.nextEvent + 1
        queue := requests.queue ++ [.wakeUp] }
  | turns {now : String} {opening writing : List Bool} {item : QueueItem}
      {queue : List QueueItem} (running : requests.task = some .running)
      (head : requests.queue = item :: queue) :
      Step requests (.drain now opening writing) ({ requests with queue }.turn item.stop)
  | stops (finished : requests.task = some .finished) :
      Step requests .stopReturn { requests with task := none }
  | givesUp (live : requests.task = some .created ∨ requests.task = some .running) :
      Step requests .stopTimeout { requests with task := none }

/-- Opening a file in the step does not raise. -/
def SinkWriter.OpensFor (sink : SinkWriter) : SinkAction → Prop
  | .begin opening => sink.cfg.Opens opening
  | .drain _ opening _ => sink.Reopens opening
  | _ => True

theorem SinkWriter.step_requests {sink next : SinkWriter} {action : SinkAction}
    (opens : sink.OpensFor action) (taken : sink.step action = some next) :
    sink.requests.Step action next.requests := by
  have grows (items : List QueueItem) (other : ∀ cfg, action ≠ .configure cfg)
      (goesOn : action ≠ .stopTimeout)
      (same : next.requests = { sink.requests with queue := sink.queue ++ items }) :
      sink.requests.Step action next.requests := by
    rw [same]
    exact .grows items other goesOn
  have idles (other : ∀ cfg, action ≠ .configure cfg) (goesOn : action ≠ .stopTimeout)
      (same : next.requests = sink.requests) : sink.requests.Step action next.requests :=
    grows [] other goesOn (by rw [same, List.append_nil]; rfl)
  cases SinkWriter.steps_of_step taken with
  | starts idle => exact .starts idle
  | startsNothing => exact idles (by simp) (by simp) rfl
  | begins opening created =>
      rw [SinkWriter.begin_requests opens]
      exact .begins created
  | submits record src =>
      obtain ⟨items, queued⟩ := SinkWriter.submit_requests sink record src
      exact grows items (by simp) (by simp) queued
  | configures cfg =>
      unfold SinkWriter.configure
      split
      next idle => exact .assigns idle
      next busy => exact .asks (by simp [SinkWriter.requests, busy])
  | @turns now opening writing item queue running head =>
      have reopens : { sink with queue }.Reopens opening := opens
      rw [SinkWriter.turn_requests reopens]
      exact .turns running head
  | stopsNothing => exact idles (by simp) (by simp) rfl
  | stops => exact grows [.stopSentinel] (by simp) (by simp) rfl
  | returns _ finished => exact .stops finished
  | raises => exact idles (by simp) (by simp) rfl
  | givesUp _ live => exact .givesUp live

/-! ## Waits -/

namespace Requests

/-- A `configure` call waits for the event. -/
def Waiting (requests : Requests) (event : Nat) : Prop :=
  event < requests.nextEvent ∧ event ∉ requests.doneEvents

def Live (requests : Requests) : Prop :=
  requests.task = some .created ∨ requests.task = some .running

/-- The event is the pending request's, and the drain loop has an item ahead of it. -/
structure Covers (requests : Requests) (event : Nat) : Prop where
  pending : ∃ pending ∈ requests.pendingConfig, pending.done = event
  ahead : requests.queue ≠ []
  live : requests.Live

def Covered (requests : Requests) : Prop :=
  ∀ event, requests.Waiting event → requests.Covers event

structure Numbered (requests : Requests) : Prop where
  done : ∀ event ∈ requests.doneEvents, event < requests.nextEvent
  pending : ∀ pending ∈ requests.pendingConfig, requests.Waiting pending.done

theorem turn_numbered {requests : Requests} (numbered : requests.Numbered) (stop : Bool) :
    (requests.turn stop).Numbered where
  done := by
    intro event member
    rcases List.mem_append.mp member with old | new
    · exact numbered.done event old
    · obtain ⟨pending, requested, rfl⟩ := Option.map_eq_some_iff.mp (Option.mem_toList.mp new)
      exact (numbered.pending pending requested).1
  pending := by
    intro pending requested
    cases requested

theorem Step.numbered {requests next : Requests} {action : SinkAction}
    (step : requests.Step action next) (numbered : requests.Numbered) : next.Numbered := by
  cases step with
  | asks busy =>
      refine ⟨fun event member => Nat.lt_succ_of_lt (numbered.done event member), ?_⟩
      intro pending requested
      cases requested
      exact ⟨Nat.lt_succ_self _, fun member => Nat.lt_irrefl _ (numbered.done _ member)⟩
  | @turns _ _ _ item queue running head =>
      have taken : Numbered { requests with queue } := ⟨numbered.done, numbered.pending⟩
      exact turn_numbered taken item.stop
  | _ => exact ⟨numbered.done, numbered.pending⟩

/-- After a turn nobody waits whose request was covered. -/
theorem turn_releases {requests : Requests} {event : Nat} (stop : Bool)
    (pending : ∃ pending ∈ requests.pendingConfig, pending.done = event) :
    event ∈ (requests.turn stop).doneEvents := by
  obtain ⟨pending, requested, rfl⟩ := pending
  exact List.mem_append_right _ (Option.mem_toList.mpr (Option.mem_map_of_mem _ requested))

theorem Covered.not_pending {requests : Requests} (covered : requests.Covered)
    (numbered : requests.Numbered) (dead : ¬requests.Live) : requests.pendingConfig = none := by
  cases requested : requests.pendingConfig with
  | none => rfl
  | some pending => exact absurd (covered _ (numbered.pending pending requested)).live dead

/-- Another configuration is requested only while none is pending and the drain task has
not ended, and `stop` gives the task up only while none is pending. -/
def ConfiguresAlone (requests : Requests) : SinkAction → Prop
  | .configure _ => requests.task = none ∨ requests.pendingConfig = none ∧ requests.Live
  | .stopTimeout => requests.pendingConfig = none
  | _ => True

/-- A new request leaves no wait uncovered if it is the only one and the drain task is alive. -/
theorem ask_covered_iff {requests : Requests} (numbered : requests.Numbered)
    (covered : requests.Covered) (cfg : SinkConfig) :
    Covered { requests with
      pendingConfig := some { cfg, done := requests.nextEvent }
      nextEvent := requests.nextEvent + 1
      queue := requests.queue ++ [.wakeUp] } ↔
    requests.pendingConfig = none ∧ requests.Live := by
  constructor
  · intro after
    have own := (after requests.nextEvent ⟨Nat.lt_succ_self _,
      fun member => Nat.lt_irrefl _ (numbered.done _ member)⟩).live
    refine ⟨?_, own⟩
    -- the event of an earlier request is nobody's any more
    cases requested : requests.pendingConfig with
    | none => rfl
    | some pending =>
        obtain ⟨known, notDone⟩ := numbered.pending pending requested
        obtain ⟨_, same, event⟩ := (after pending.done ⟨Nat.lt_succ_of_lt known, notDone⟩).pending
        obtain rfl := Option.some.inj same
        exact absurd known (by rw [← event]; exact Nat.lt_irrefl _)
  · intro alone event waiting
    obtain ⟨none_pending, live⟩ := alone
    obtain ⟨known, notDone⟩ := waiting
    refine ⟨⟨_, rfl, ?_⟩, by simp, live⟩
    rcases Nat.lt_succ_iff_lt_or_eq.mp known with old | own
    · obtain ⟨pending, requested, _⟩ := (covered event ⟨old, notDone⟩).pending
      rw [none_pending] at requested
      cases requested
    · exact own.symm

theorem turn_covered {requests : Requests} (stop : Bool)
    (pending : ∀ event, requests.Waiting event →
      ∃ pending ∈ requests.pendingConfig, pending.done = event) :
    (requests.turn stop).Covered := by
  intro event waiting
  obtain ⟨known, notDone⟩ := waiting
  have old : requests.Waiting event :=
    ⟨known, fun member => notDone (List.mem_append_left _ member)⟩
  exact absurd (turn_releases stop (pending event old)) notDone

theorem Step.covered_iff {requests next : Requests} {action : SinkAction}
    (step : requests.Step action next) (numbered : requests.Numbered)
    (covered : requests.Covered) : next.Covered ↔ requests.ConfiguresAlone action := by
  cases step with
  | grows items other goesOn =>
      refine iff_of_true ?_ ?_
      · intro event waiting
        obtain ⟨pending, ahead, live⟩ := covered event waiting
        exact ⟨pending, by simp [ahead], live⟩
      · cases action with
        | configure cfg => exact absurd rfl (other cfg)
        | stopTimeout => exact absurd rfl goesOn
        | _ => trivial
  | starts idle =>
      refine iff_of_true ?_ trivial
      intro event waiting
      obtain ⟨pending, ahead, _⟩ := covered event waiting
      exact ⟨pending, ahead, .inl rfl⟩
  | begins created =>
      refine iff_of_true ?_ trivial
      intro event waiting
      obtain ⟨pending, ahead, _⟩ := covered event waiting
      exact ⟨pending, ahead, .inr rfl⟩
  | assigns idle =>
      refine iff_of_true ?_ (.inl idle)
      intro event waiting
      obtain ⟨pending, ahead, live⟩ := covered event waiting
      exact ⟨pending, ahead, live⟩
  | asks busy =>
      constructor
      · intro after
        exact .inr ((ask_covered_iff numbered covered _).mp after)
      · intro alone
        exact (ask_covered_iff numbered covered _).mpr (alone.resolve_left busy)
  | @turns _ _ _ item queue running head =>
      refine iff_of_true ?_ trivial
      apply turn_covered
      exact fun event waiting => (covered event waiting).pending
  | stops finished =>
      refine iff_of_true ?_ trivial
      have dead : ¬requests.Live := by
        simp [Requests.Live, finished]
      intro event waiting
      exact absurd (covered event waiting).live dead
  | givesUp live =>
      constructor
      · intro after
        have dead : ¬({ requests with task := none } : Requests).Live := by
          simp [Requests.Live]
        exact after.not_pending ⟨numbered.done, numbered.pending⟩ dead
      · intro none_pending event waiting
        obtain ⟨pending, requested, _⟩ := (covered event waiting).pending
        rw [none_pending] at requested
        cases requested

/-- The configuration in force once the next item is taken. -/
def nextCfg (requests : Requests) : SinkConfig :=
  (requests.pendingConfig.map (·.cfg)).getD requests.cfg

end Requests

/-! ## Runs -/

/-- No fault while a file is opened. -/
def SinkAction.OpensQuietly : SinkAction → Prop
  | .begin opening => true ∉ opening
  | .drain _ opening _ => true ∉ opening
  | _ => True

theorem SinkWriter.opensFor_of_quiet (sink : SinkWriter) {action : SinkAction}
    (quiet : action.OpensQuietly) : sink.OpensFor action := by
  cases action with
  | begin opening => exact sink.cfg.opens_of_quiet quiet
  | drain now opening writing => exact sink.reopens_of_quiet quiet
  | _ => trivial

/-- The configuration asked for last, `cfg` before any was. -/
def lastRequested (cfg : SinkConfig) : List SinkAction → SinkConfig
  | [] => cfg
  | .configure requested :: later => lastRequested requested later
  | _ :: later => lastRequested cfg later

theorem Requests.Step.nextCfg {requests next : Requests} {action : SinkAction}
    (step : requests.Step action next) (numbered : requests.Numbered)
    (covered : requests.Covered) :
    next.nextCfg = lastRequested requests.nextCfg [action] := by
  cases step with
  | grows items other goesOn =>
      cases action with
      | configure cfg => exact absurd rfl (other cfg)
      | _ => rfl
  | assigns idle =>
      have dead : ¬requests.Live := by
        simp [Requests.Live, idle]
      simp [Requests.nextCfg, lastRequested, covered.not_pending numbered dead]
  | _ => rfl

/-- The action is one of the drain task's own. -/
def SinkAction.isDrain : SinkAction → Bool
  | .begin _ => true
  | .drain .. => true
  | _ => false

/-- The drain task's own next steps set the event. -/
def SinkWriter.Releases (sink : SinkWriter) (event : Nat) : Prop :=
  ∃ own final, (∀ action ∈ own, action.isDrain = true) ∧
    Runs.run SinkWriter.step sink own = some final ∧ event ∈ final.doneEvents

/-- After these actions every wait is covered and will end, and the configuration asked for
last is in force or pending. -/
structure SinkWriter.WaitsEnd (sink : SinkWriter) (initial : SinkConfig)
    (actions : List SinkAction) : Prop where
  covered : sink.requests.Covered
  released : ∀ event, sink.requests.Waiting event → sink.Releases event
  inForce : sink.requests.nextCfg = lastRequested initial actions

/-- The next turn of the running drain loop sets the event of the pending request. -/
theorem SinkWriter.turn_sets {sink : SinkWriter} {event : Nat}
    (pending : ∃ pending ∈ sink.pendingConfig, pending.done = event) (ahead : sink.queue ≠ [])
    (running : sink.task = some .running) :
    ∃ final, sink.step (.drain "" [] []) = some final ∧ event ∈ final.doneEvents := by
  obtain ⟨item, queue, head⟩ := List.exists_cons_of_ne_nil ahead
  refine ⟨({ sink with queue }).turn item "" [] [], by simp only [SinkWriter.step, running, head], ?_⟩
  have turned := SinkWriter.turn_requests (SinkWriter.reopens_of_quiet { sink with queue }
    (List.not_mem_nil)) item "" []
  have events := congrArg Requests.doneEvents turned
  simp only [SinkWriter.requests] at events
  rw [events]
  exact Requests.turn_releases item.stop pending

theorem SinkWriter.releases_of_covers {sink : SinkWriter} {event : Nat}
    (covers : sink.requests.Covers event) : sink.Releases event := by
  obtain ⟨pending, ahead, live⟩ := covers
  rcases live with created | running
  · have begun := SinkWriter.begin_requests (sink.cfg.opens_of_quiet (List.not_mem_nil))
    obtain ⟨final, turned, released⟩ := @SinkWriter.turn_sets (sink.begin []) event
      (by rw [show (sink.begin []).pendingConfig = _ from congrArg Requests.pendingConfig begun]
          exact pending)
      (by rw [show (sink.begin []).queue = _ from congrArg Requests.queue begun]
          exact ahead)
      (congrArg Requests.task begun)
    have first : sink.step (.begin []) = some (sink.begin []) := if_pos created
    refine ⟨[.begin [], .drain "" [] []], final, by simp [SinkAction.isDrain], ?_, released⟩
    exact Runs.run_cons_eq_some.mpr ⟨_, first, Runs.run_cons_eq_some.mpr ⟨_, turned, rfl⟩⟩
  · obtain ⟨final, turned, released⟩ := SinkWriter.turn_sets pending ahead running
    refine ⟨[.drain "" [] []], final, by simp [SinkAction.isDrain], ?_, released⟩
    exact Runs.run_cons_eq_some.mpr ⟨_, turned, rfl⟩

theorem SinkWriter.lastRequested_inForce {sink visited : SinkWriter} {actions : List SinkAction}
    (quiet : ∀ action ∈ actions, action.OpensQuietly) (numbered : sink.requests.Numbered)
    (covered : sink.requests.Covered)
    (each : Runs.Each SinkWriter.step (fun sink action => sink.requests.ConfiguresAlone action)
      sink actions)
    (ran : Runs.run SinkWriter.step sink actions = some visited) :
    visited.requests.nextCfg = lastRequested sink.requests.nextCfg actions := by
  induction actions generalizing sink with
  | nil =>
      cases ran
      rfl
  | cons action rest ih =>
      obtain ⟨next, taken, ran⟩ := Runs.run_cons_eq_some.mp ran
      have step := SinkWriter.step_requests
        (sink.opensFor_of_quiet (quiet action (by simp))) taken
      have after := ih (fun other member => quiet other (by simp [member]))
        (step.numbered numbered) ((step.covered_iff numbered covered).mpr each.1)
        (each.2 next taken) ran
      rw [after, step.nextCfg numbered covered]
      cases action <;> rfl

/-- With the files opening, every wait ends and the last configuration is put in force, in
every state of the run, exactly when configurations are asked for one at a time. -/
theorem configure_waits_end_iff (cfg : SinkConfig) (files : String → Option Bytes)
    {actions : List SinkAction} {final : SinkWriter}
    (quiet : ∀ action ∈ actions, action.OpensQuietly)
    (ran : Runs.run SinkWriter.step (SinkWriter.init cfg files) actions = some final) :
    (∀ done visited, done <+: actions →
      Runs.run SinkWriter.step (SinkWriter.init cfg files) done = some visited →
        visited.WaitsEnd cfg done) ↔
      Runs.Each SinkWriter.step (fun sink action => sink.requests.ConfiguresAlone action)
        (SinkWriter.init cfg files) actions := by
  have numbered : (SinkWriter.init cfg files).requests.Numbered :=
    ⟨by simp [SinkWriter.init, SinkWriter.requests], by simp [SinkWriter.init, SinkWriter.requests]⟩
  have covered : (SinkWriter.init cfg files).requests.Covered :=
    fun event waiting => absurd waiting.1 (Nat.not_lt_zero event)
  have stays := Runs.stays_iff_each SinkAction.OpensQuietly (fun sink => sink.requests.Numbered)
    (fun sink => sink.requests.Covered) (fun sink action => sink.requests.ConfiguresAlone action)
    (fun sink _ _ quiet numbered taken =>
      (SinkWriter.step_requests (sink.opensFor_of_quiet quiet) taken).numbered numbered)
    (fun sink _ _ quiet numbered covered taken =>
      (SinkWriter.step_requests (sink.opensFor_of_quiet quiet) taken).covered_iff numbered covered)
    numbered covered quiet ran
  constructor
  · intro ends
    refine stays.mp ?_
    intro visited visits
    obtain ⟨done, initialPart, reached⟩ := visits
    exact (ends done visited initialPart reached).covered
  · intro each done visited initialPart reached
    have after := stays.mpr each visited ⟨done, initialPart, reached⟩
    refine ⟨after, fun event waiting => SinkWriter.releases_of_covers (after event waiting), ?_⟩
    exact SinkWriter.lastRequested_inForce
      (fun action member => quiet action (initialPart.mem member)) numbered covered
      (each.of_prefix initialPart) reached

/-- One request, applied in the next turn. -/
def oneRequest (cfg : SinkConfig) : List SinkAction :=
  [.start, .begin [], .configure cfg, .drain "" [] []]

theorem configure_waits_end_one_request :
    (∀ done visited, done <+: oneRequest { enabled := true, path := some "sink.log" } →
      Runs.run SinkWriter.step (SinkWriter.init {} fun _ => none) done = some visited →
        visited.WaitsEnd {} done) ↔
      Runs.Each SinkWriter.step (fun sink action => sink.requests.ConfiguresAlone action)
        (SinkWriter.init {} fun _ => none)
        (oneRequest { enabled := true, path := some "sink.log" }) := by
  refine configure_waits_end_iff {} (fun _ => none) ?_ (Option.some_get (by decide +kernel)).symm
  intro action member
  simp only [oneRequest, List.mem_cons, List.not_mem_nil, or_false] at member
  rcases member with rfl | rfl | rfl | rfl <;> simp [SinkAction.OpensQuietly]

/-- A second request before the drain loop gets to the first. -/
def twoRequests (first second : SinkConfig) : List SinkAction :=
  [.start, .begin [], .configure first, .configure second, .drain "" [] [], .drain "" [] []]

/-- Nothing is pending or queued any more, and the first event was never set. -/
theorem twoRequests_waits_not_end : ∃ final,
    Runs.run SinkWriter.step (SinkWriter.init {} fun _ => none)
      (twoRequests { enabled := true, path := some "a.log" }
        { enabled := true, path := some "b.log" }) = some final ∧
      final.queue = [] ∧ final.pendingConfig.isNone = true ∧ final.nextEvent = 2 ∧
      final.doneEvents = [1] ∧
      ¬final.WaitsEnd {} (twoRequests { enabled := true, path := some "a.log" }
        { enabled := true, path := some "b.log" }) := by
  have outcome : (Runs.run SinkWriter.step (SinkWriter.init {} fun _ => none)
      (twoRequests { enabled := true, path := some "a.log" }
        { enabled := true, path := some "b.log" })).map (fun final =>
          (final.queue, final.pendingConfig.isNone, final.nextEvent, final.doneEvents)) =
      some ([], true, 2, [1]) := by decide +kernel
  obtain ⟨final, ran, seen⟩ := Option.map_eq_some_iff.mp outcome
  simp only [Prod.mk.injEq] at seen
  obtain ⟨queue, pending, next, done⟩ := seen
  refine ⟨final, ran, queue, pending, next, done, ?_⟩
  intro ends
  have waits : final.requests.Waiting 0 := by
    simp [Requests.Waiting, SinkWriter.requests, next, done]
  obtain ⟨request, requested, _⟩ := (ends.covered 0 waits).pending
  rw [show final.pendingConfig = some request from requested] at pending
  cases pending

end TcpSim.Engine
