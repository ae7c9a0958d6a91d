import TcpSim.Engine.ReceiverLifecycle
import TcpSim.Engine.SinkWaits

/-! What the calls of the receiver engine leave behind: nothing, unless the transport raises
while the drain task of the sink is alive. -/

set_option autoImplicit false

namespace TcpSim.Engine

/-! ## The sink's file -/

namespace SinkWriter

/-- The drain task is not running and the file is closed. -/
structure Released (sink : SinkWriter) : Prop where
  task : ¬sink.requests.Live
  file : sink.file.fh = none

/-- A drain task that has ended has closed the file. -/
def ClosesFile (sink : SinkWriter) : Prop :=
  ¬sink.requests.Live → sink.file.fh = none

theorem ClosesFile.of_logView {sink after : SinkWriter} (closes : sink.ClosesFile)
    (task : after.logView.task = sink.logView.task) (fh : after.logView.fh = sink.logView.fh) :
    after.ClosesFile := by
  intro dead
  refine fh.trans (closes ?_)
  unfold Requests.Live at dead ⊢
  rw [show after.requests.task = sink.requests.task from task] at dead
  exact dead

theorem turn_closesFile {sink : SinkWriter} (running : sink.task = some .running)
    (item : QueueItem) (now : String) (opening writing : List Bool) :
    (sink.turn item now opening writing).ClosesFile := by
  unfold SinkWriter.turn
  cases applied : sink.applyPendingConfig opening with
  | error error settled => exact fun _ => rfl
  | ok value settled =>
      have kept : sink.Settled settled :=
        SinkWriter.applyPendingConfig_settled (by rw [applied]; rfl)
      have task : settled.task = some .running := kept.task.trans running
      dsimp only
      split
      · exact fun _ => rfl
      · split
        · exact fun dead => absurd (.inr task) dead
        · have same := congrArg Requests.task (settled.handleRecord_requests item now writing)
          exact fun dead => absurd (.inr (same.trans task)) dead

theorem begin_closesFile (sink : SinkWriter) (opening : List Bool) :
    (sink.begin opening).ClosesFile := by
  unfold SinkWriter.begin
  split
  · exact fun _ => rfl
  · dsimp only
    split
    · exact fun dead => absurd (.inr rfl) dead
    · exact fun dead => absurd (.inr rfl) dead

theorem closesFile_step {sink next : SinkWriter} {action : SinkAction} (closes : sink.ClosesFile)
    (taken : sink.step action = some next) : next.ClosesFile := by
  cases SinkWriter.steps_of_step taken with
  | starts => exact fun dead => absurd (.inl rfl) dead
  | startsNothing => exact closes
  | begins opening => exact sink.begin_closesFile opening
  | submits record src =>
      rcases sink.submit_logView record src with view | view
      · exact closes.of_logView (congrArg LogView.task view) (congrArg LogView.fh view)
      · have task := congrArg LogView.task view
        have fh := congrArg LogView.fh view
        exact closes.of_logView task fh
  | configures cfg =>
      unfold SinkWriter.configure
      split
      · exact closes.of_logView rfl rfl
      · exact closes.of_logView rfl rfl
  | @turns now opening writing item queue running =>
      exact @turn_closesFile { sink with queue } running item now opening writing
  | stopsNothing => exact closes
  | stops => exact closes.of_logView rfl rfl
  | returns => exact fun _ => rfl
  | raises => exact closes.of_logView rfl rfl
  | givesUp => exact fun _ => rfl

theorem stop_ends {sink next : SinkWriter} {timeout : Bool}
    (taken : sink.step (if timeout then .stopTimeout else .stopReturn) = some next) :
    ¬next.requests.Live := by
  cases timeout with
  | true =>
      cases SinkWriter.steps_of_step taken with
      | givesUp => simp [Requests.Live, SinkWriter.requests, SinkWriter.stopped, SinkWriter.emit]
  | false =>
      cases SinkWriter.steps_of_step taken with
      | returns => simp [Requests.Live, SinkWriter.requests, SinkWriter.stopped, SinkWriter.emit]
      | raises _ failed => simp [Requests.Live, SinkWriter.requests, failed]

end SinkWriter

/-! ## The engine's calls -/

namespace ReceiverLifecycle

/-- A call that ended in the last step: a `start` that raised and every `stop` have left the
sink released, and a `stop` that returned the transport too. -/
structure Releases (engine : ReceiverLifecycle) : Prop where
  sink : engine.ended ≠ none → engine.ended ≠ some .startReturned → engine.sink.Released
  transport : engine.ended = some .stopReturned → engine.transportHeld = false

/-- What holds whatever raises. -/
structure Sound (engine : ReceiverLifecycle) : Prop where
  closes : engine.sink.ClosesFile
  dropped : engine.point = .stoppingSink → engine.transportHeld = false
  calm : engine.point = .idle ∨ engine.point = .startingTransport → engine.stopping = false

/-- The transport raises only once the drain task has ended, and an engine that is not started
is stopped only while it holds nothing. -/
def ReleasesAll (self : ReceiverLifecycle) : LifecycleAction → Prop
  | .transportStarted (.raised _) => ¬self.sink.requests.Live
  | .transportStopped (.raised _) => ¬self.sink.requests.Live
  | .stop => self.started = true ∨ ¬self.sink.requests.Live ∧ self.transportHeld = false
  | _ => True

theorem not_live_of_idle {sink : SinkWriter} (idle : sink.task = none) : ¬sink.requests.Live := by
  simp [Requests.Live, SinkWriter.requests, idle]

theorem sound_step {self next : ReceiverLifecycle} {action : LifecycleAction} (sound : self.Sound)
    (taken : self.step action = some next) : next.Sound := by
  cases action with
  | start sinkStarts =>
      simp only [step] at taken
      split at taken
      next idle =>
          cases taken
          have calm := sound.calm (.inl idle)
          unfold start
          split
          · exact ⟨sound.closes, by simp [finish], fun _ => calm⟩
          · split
            · exact ⟨sound.closes, by simp, fun _ => calm⟩
            · split
              · exact ⟨fun dead => absurd (.inl rfl) dead, by simp, fun _ => calm⟩
              · exact ⟨sound.closes, by simp [finish], fun _ => calm⟩
      · cases taken
  | transportStarted ended =>
      simp only [step] at taken
      split at taken
      next starting =>
          cases taken
          have calm := sound.calm (.inr starting)
          cases ended with
          | returned => exact ⟨sound.closes, by simp [transportStarted, finish], fun _ => calm⟩
          | raised held => exact ⟨sound.closes, by simp [transportStarted, finish], fun _ => calm⟩
      · cases taken
  | stop =>
      simp only [step] at taken
      split at taken
      next idle =>
          cases taken
          unfold stop
          split
          · exact ⟨sound.closes, by simp [finish], fun _ => sound.calm (.inl idle)⟩
          · exact ⟨sound.closes, by simp, by simp⟩
      · cases taken
  | transportStopped ended =>
      simp only [step] at taken
      split at taken
      · cases taken
        cases ended with
        | returned =>
            simp only [transportStopped]
            split
            · exact ⟨sound.closes, by simp [finishStop, finish], fun _ => rfl⟩
            · exact ⟨sound.closes.of_logView rfl rfl, fun _ => rfl, by simp⟩
        | raised held =>
            exact ⟨sound.closes, by simp [transportStopped, finishStop, finish], fun _ => rfl⟩
      · cases taken
  | sinkStopped timeout =>
      simp only [step] at taken
      split at taken
      next stopping =>
          obtain ⟨sink, sinkTaken, rfl⟩ := Option.map_eq_some_iff.mp taken
          exact ⟨SinkWriter.closesFile_step sound.closes sinkTaken, by simp [finishStop, finish],
            fun _ => rfl⟩
      · cases taken
  | sink action =>
      simp only [step] at taken
      split at taken
      · obtain ⟨sink, sinkTaken, rfl⟩ := Option.map_eq_some_iff.mp taken
        exact ⟨SinkWriter.closesFile_step sound.closes sinkTaken, sound.dropped, sound.calm⟩
      · cases taken

theorem releases_of_released {self : ReceiverLifecycle} (released : self.sink.Released)
    (held : self.ended = some .stopReturned → self.transportHeld = false) : self.Releases :=
  ⟨fun _ _ => released, held⟩

/-- Nothing is asked where no call ended, nor of a `start` that returned. -/
theorem releases_of_other {self : ReceiverLifecycle}
    (other : self.ended = none ∨ self.ended = some .startReturned) : self.Releases where
  sink := by
    intro some_ unlike
    rcases other with none_ | returned
    · exact absurd none_ some_
    · exact absurd returned unlike
  transport := by
    intro stopped
    rcases other with none_ | returned
    · rw [none_] at stopped
      cases stopped
    · rw [returned] at stopped
      cases stopped

theorem Sound.released {self : ReceiverLifecycle} (sound : self.Sound)
    (dead : ¬self.sink.requests.Live) : self.sink.Released :=
  ⟨dead, sound.closes dead⟩

/-- After a call that raised all hangs on the drain task. -/
theorem Sound.releases_iff {self : ReceiverLifecycle} (sound : self.Sound)
    (raised : self.ended = some .startRaised ∨ self.ended = some .stopRaised) :
    self.Releases ↔ ¬self.sink.requests.Live := by
  constructor
  · intro releases
    rcases raised with start | stop
    · exact (releases.sink (by simp [start]) (by simp [start])).task
    · exact (releases.sink (by simp [stop]) (by simp [stop])).task
  · intro dead
    refine releases_of_released (sound.released dead) ?_
    intro returned
    rcases raised with start | stop
    · rw [start] at returned
      cases returned
    · rw [stop] at returned
      cases returned

theorem start_releases {self : ReceiverLifecycle} (sound : self.Sound) (sinkStarts : Bool) :
    (self.start sinkStarts).Releases := by
  unfold start
  split
  · exact releases_of_other (.inr rfl)
  · split
    · exact releases_of_other (.inl rfl)
    next idle =>
        split
        · exact releases_of_other (.inl rfl)
        · exact releases_of_released (sound.released (not_live_of_idle idle)) (by simp [finish])

/-- A `stop` that finds the engine not started releases nothing. -/
theorem stop_releases_iff {self : ReceiverLifecycle} (sound : self.Sound) (idle : self.point = .idle) :
    self.stop.Releases ↔ self.ReleasesAll .stop := by
  simp only [stop, sound.calm (.inl idle), Bool.or_false, ReleasesAll]
  cases started : self.started with
  | true =>
      refine iff_of_true ?_ (.inl rfl)
      exact releases_of_other (.inl rfl)
  | false =>
      constructor
      · intro releases
        exact .inr ⟨(releases.sink (by simp [finish]) (by simp [finish])).task,
          releases.transport rfl⟩
      · intro nothing
        obtain ⟨dead, held⟩ := nothing.resolve_left (by simp)
        exact releases_of_released (sound.released dead) (fun _ => held)

theorem transportReturned_releases {self : ReceiverLifecycle} (sound : self.Sound) :
    (self.transportStopped .returned).Releases := by
  simp only [transportStopped]
  split
  next idle => exact releases_of_released (sound.released (not_live_of_idle idle)) (fun _ => rfl)
  · exact releases_of_other (.inl rfl)

theorem releases_step_iff {self next : ReceiverLifecycle} {action : LifecycleAction}
    (sound : self.Sound) (taken : self.step action = some next) :
    next.Releases ↔ self.ReleasesAll action := by
  have after := sound_step sound taken
  cases action with
  | start sinkStarts =>
      simp only [step] at taken
      split at taken
      · cases taken
        exact iff_of_true (start_releases sound sinkStarts) trivial
      · cases taken
  | transportStarted ended =>
      simp only [step] at taken
      split at taken
      · cases taken
        cases ended with
        | returned => exact iff_of_true (releases_of_other (.inr rfl)) trivial
        | raised held => exact after.releases_iff (.inl rfl)
      · cases taken
  | stop =>
      simp only [step] at taken
      split at taken
      next idle =>
        cases taken
        exact stop_releases_iff sound idle
      · cases taken
  | transportStopped ended =>
      simp only [step] at taken
      split at taken
      · cases taken
        cases ended with
        | returned => exact iff_of_true (transportReturned_releases sound) trivial
        | raised held => exact after.releases_iff (.inr rfl)
      · cases taken
  | sinkStopped timeout =>
      simp only [step] at taken
      split at taken
      next stopping =>
          obtain ⟨sink, sinkTaken, rfl⟩ := Option.map_eq_some_iff.mp taken
          refine iff_of_true ?_ trivial
          exact releases_of_released
            ⟨SinkWriter.stop_ends sinkTaken, after.closes (SinkWriter.stop_ends sinkTaken)⟩
            (fun _ => sound.dropped stopping)
      · cases taken
  | sink action =>
      simp only [step] at taken
      split at taken
      · obtain ⟨sink, _, rfl⟩ := Option.map_eq_some_iff.mp taken
        exact iff_of_true (releases_of_other (.inl rfl)) trivial
      · cases taken

/-! ## Runs -/

theorem init_sound (cfg : SinkConfig) (files : String → Option Bytes) :
    (init cfg files).Sound :=
  ⟨fun _ => rfl, by simp [init], fun _ => rfl⟩

/-- Every call of a run leaves behind what it should exactly when the steps meet the
condition. -/
theorem lifecycle_releases_iff (cfg : SinkConfig) (files : String → Option Bytes)
    {actions : List LifecycleAction} {final : ReceiverLifecycle}
    (ran : Runs.run step (init cfg files) actions = some final) :
    (∀ visited, Runs.Visits step (init cfg files) actions visited → visited.Releases) ↔
      Runs.Each step ReleasesAll (init cfg files) actions :=
  Runs.stays_iff_each (fun _ => True) Sound Releases ReleasesAll
    (fun _ _ _ _ sound taken => sound_step sound taken)
    (fun _ _ _ _ sound _ taken => releases_step_iff sound taken)
    (init_sound cfg files) (releases_of_other (.inl rfl)) (fun _ _ => trivial) ran

/-- A transport that starts and stops. -/
def startsAndStops : List LifecycleAction :=
  [.start true, .sink (.begin []), .transportStarted .returned, .stop, .transportStopped .returned,
    .sink (.drain "t" [] []), .sinkStopped false]

theorem lifecycle_releases_starts_and_stops :
    (∀ visited, Runs.Visits step (init { enabled := true, path := some "sink.log" } fun _ => none)
      startsAndStops visited → visited.Releases) ↔
      Runs.Each step ReleasesAll (init { enabled := true, path := some "sink.log" } fun _ => none)
        startsAndStops :=
  lifecycle_releases_iff { enabled := true, path := some "sink.log" } (fun _ => none)
    (Option.some_get (by decide +kernel)).symm

/-- The port is in use, and the engine is stopped for it. -/
def portInUse : List LifecycleAction :=
  [.start true, .sink (.begin []), .transportStarted (.raised false), .stop]

/-- `stop` has returned; the drain task goes on with the file open. -/
theorem portInUse_not_released : ∃ failed final,
    Runs.run step (init { enabled := true, path := some "sink.log" } fun _ => none)
        (portInUse.take 3) = some failed ∧ failed.ended = some .startRaised ∧ ¬failed.Releases ∧
      Runs.run step (init { enabled := true, path := some "sink.log" } fun _ => none) portInUse =
        some final ∧ final.ended = some .stopReturned ∧ final.sink.task = some .running ∧
      final.sink.file.fh = some "sink.log" ∧ ¬final.Releases := by
  have first : (Runs.run step (init { enabled := true, path := some "sink.log" } fun _ => none)
      (portInUse.take 3)).map (fun failed => (failed.ended, failed.sink.task)) =
      some (some .startRaised, some .running) := by decide +kernel
  have second : (Runs.run step (init { enabled := true, path := some "sink.log" } fun _ => none)
      portInUse).map (fun final => (final.ended, final.sink.task, final.sink.file.fh)) =
      some (some .stopReturned, some .running, some "sink.log") := by decide +kernel
  obtain ⟨failed, failedRan, failedSeen⟩ := Option.map_eq_some_iff.mp first
  obtain ⟨final, finalRan, finalSeen⟩ := Option.map_eq_some_iff.mp second
  simp only [Prod.mk.injEq] at failedSeen finalSeen
  obtain ⟨raised, alive⟩ := failedSeen
  obtain ⟨returned, running, file⟩ := finalSeen
  refine ⟨failed, final, failedRan, raised, ?_, finalRan, returned, running, file, ?_⟩
  · intro releases
    exact (releases.sink (by simp [raised]) (by simp [raised])).task (.inr alive)
  · intro releases
    exact (releases.sink (by simp [returned]) (by simp [returned])).task (.inr running)

end ReceiverLifecycle

end TcpSim.Engine
