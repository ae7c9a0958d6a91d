import TcpSim.Engine.SinkBalance
import TcpSim.Engine.SinkWaits

/-! What a failed opening of the sink's file does: the drain loop ends, and with it the wait
of the request, the account of the record in hand and the use of the old file. -/

set_option autoImplicit false

namespace TcpSim.Engine

open Effects Rollover

/-! ## The open file -/

theorem SinkFile.OpenAt.withFaults {file : SinkFile} {path : String} (opened : file.OpenAt path)
    (faults : List Bool) : (file.withFaults faults).OpenAt path :=
  opened.congr rfl rfl rfl

/-- Whatever the log holds, a write without faults returns and leaves the file open. -/
theorem writeRecord_returns {file : SinkFile} {path : String} (opened : file.OpenAt path)
    (cfg : SinkConfig) (now : String) (item : QueueItem) :
    ∃ after, writeRecord cfg now item (file.withFaults []) = .ok () after ∧
      after.OpenAt path ∧ after.written = file.written ++ [⟨item, cfg, now⟩] := by
  obtain ⟨after, ran, _, afterOpened, _⟩ := @writeRecord_quiet (file.withFaults []) rfl cfg now item
    path cfg.rotationBackupCount _ [] (opened.withFaults []) rfl (Kept.start _)
  have written := writeRecord_written ran
  exact ⟨after, ran, afterOpened, written⟩

theorem SinkWriter.updateBackpressure_file (sink : SinkWriter) :
    ∃ events, sink.updateBackpressure.file = { sink.file with events } := by
  unfold SinkWriter.updateBackpressure
  split
  · exact ⟨_, rfl⟩
  · split
    · exact ⟨_, rfl⟩
    · exact ⟨sink.file.events, rfl⟩

theorem SinkWriter.release_file (sink : SinkWriter) (item : QueueItem) :
    ∃ events, (sink.release item).file = { sink.file with events } :=
  SinkWriter.updateBackpressure_file { sink with queuedBytes := sink.queuedBytes - item.size }

theorem SinkWriter.updateBackpressure_cfg (sink : SinkWriter) :
    sink.updateBackpressure.cfg = sink.cfg :=
  congrArg Requests.cfg sink.updateBackpressure_requests

theorem SinkWriter.FileOpen.of_same {sink after : SinkWriter} (opened : sink.FileOpen)
    (cfg : after.cfg = sink.cfg) {events : List SinkEvent}
    (file : after.file = { sink.file with events }) : after.FileOpen := by
  intro enabled path target
  rw [cfg] at enabled target
  rw [file]
  exact (opened enabled path target).congr rfl rfl rfl

theorem SinkWriter.FileOpen.release {sink : SinkWriter} (opened : sink.FileOpen)
    (item : QueueItem) : (sink.release item).FileOpen := by
  obtain ⟨events, file⟩ := SinkWriter.release_file sink item
  exact opened.of_same (SinkWriter.updateBackpressure_cfg _) file

/-- Of the file's state, a submission writes to the event log only. -/
theorem SinkWriter.submit_file (sink : SinkWriter) (record : FramedRecord) (src : String) :
    ∃ events, (sink.submit record src).2.file = { sink.file with events } := by
  unfold SinkWriter.submit
  split
  · exact ⟨sink.file.events, rfl⟩
  · dsimp only
    split
    · exact ⟨_, rfl⟩
    · exact SinkWriter.updateBackpressure_file _

theorem SinkWriter.FileOpen.submit {sink : SinkWriter} (opened : sink.FileOpen)
    (record : FramedRecord) (src : String) : (sink.submit record src).2.FileOpen := by
  obtain ⟨items, queued⟩ := SinkWriter.submit_requests sink record src
  obtain ⟨events, file⟩ := SinkWriter.submit_file sink record src
  exact opened.of_same (congrArg Requests.cfg queued) file

theorem SinkWriter.handleRecord_fileOpen {sink : SinkWriter} (opened : sink.FileOpen)
    (item : QueueItem) (now : String) : (sink.handleRecord item now []).FileOpen := by
  unfold SinkWriter.handleRecord
  split
  · exact opened.release item
  next proceeds =>
    simp only [Bool.or_eq_true, Bool.not_eq_true', not_or, Bool.not_eq_false] at proceeds
    split
    next file ran =>
      have kept : FileOpen { sink with file } := by
        intro enabled path target
        obtain ⟨after, returned, afterOpened, _⟩ :=
          writeRecord_returns (opened enabled path target) sink.cfg now item
        cases returned.symm.trans ran
        exact afterOpened
      exact kept.release item
    next error file raised =>
      have kept : FileOpen ({ sink with file }.emit (.error error file.currentPath)) := by
        intro enabled path target
        obtain ⟨after, returned, _⟩ :=
          writeRecord_returns (opened enabled path target) sink.cfg now item
        cases returned.symm.trans raised
      exact kept.release item

theorem SinkWriter.turn_fileOpen {sink : SinkWriter} {opening : List Bool}
    (reopens : sink.Reopens opening) (opened : sink.FileOpen) (item : QueueItem) (now : String)
    (going : item.stop = false) : (sink.turn item now opening []).FileOpen := by
  obtain ⟨settled, applied, keeps, _⟩ := SinkWriter.applyPendingConfig_ok reopens
  simp only [SinkWriter.turn, applied, going, Bool.false_eq_true, if_false]
  split
  · exact keeps opened
  · exact SinkWriter.handleRecord_fileOpen (keeps opened) item now

theorem SinkWriter.begin_fileOpen {sink : SinkWriter} {opening : List Bool}
    (opens : sink.cfg.Opens opening) : (sink.begin opening).FileOpen := by
  obtain ⟨after, ran, opened⟩ := @openFileIfEnabled_ok (sink.file.withFaults opening) sink.cfg opens
  have returned : sink.runFile opening (openFileIfEnabled sink.cfg) = .ok () after := ran
  have running : FileOpen { sink with file := after, task := some .running } := opened
  simp only [SinkWriter.begin, returned]
  split
  · intro enabled path target
    exact (running enabled path target).congr rfl rfl rfl
  · exact running

/-- No fault while a record is written. -/
def SinkAction.WritesQuietly : SinkAction → Prop
  | .drain _ _ writing => writing = []
  | _ => True

/-- While the drain loop runs, the file of its configuration is open. -/
def SinkWriter.RunsOpen (sink : SinkWriter) : Prop :=
  sink.task = some .running → sink.FileOpen

theorem SinkWriter.runsOpen_step {sink next : SinkWriter} {action : SinkAction}
    (opens : sink.OpensFor action) (quiet : action.WritesQuietly) (open_ : sink.RunsOpen)
    (taken : sink.step action = some next) : next.RunsOpen := by
  cases SinkWriter.steps_of_step taken with
  | starts => exact fun running => by cases running
  | startsNothing => exact open_
  | begins opening => exact fun _ => SinkWriter.begin_fileOpen opens
  | submits record src =>
      obtain ⟨items, queued⟩ := SinkWriter.submit_requests sink record src
      have task : (sink.submit record src).2.task = sink.task := congrArg Requests.task queued
      intro running
      exact (open_ (task.symm.trans running)).submit record src
  | configures cfg =>
      unfold SinkWriter.configure
      split
      next idle => exact fun running => by cases idle.symm.trans running
      · exact open_
  | @turns now opening writing item queue running head =>
      obtain rfl : writing = [] := quiet
      have reopens : { sink with queue }.Reopens opening := opens
      cases stop : item.stop with
      | true =>
          have task := congrArg Requests.task (SinkWriter.turn_requests reopens item now [])
          intro still
          have ended := task.symm.trans still
          simp [Requests.turn, stop] at ended
      | false => exact fun _ => SinkWriter.turn_fileOpen reopens (open_ running) item now stop
  | stopsNothing => exact open_
  | stops => exact open_
  | returns => exact fun running => by cases running
  | raises => exact open_
  | givesUp => exact fun running => by cases running

/-! ## Surviving -/

/-- A turn without faults writes the record at the head of the queue, where its configuration
is enabled and has a path. -/
def SinkWriter.WritesNext (sink : SinkWriter) : Prop :=
  ∀ item queue now, sink.task = some .running → sink.queue = item :: queue →
    item.isData = true → sink.nextCfg.enabled = true → sink.nextCfg.truthyPath.isSome = true →
      ∃ next, sink.step (.drain now [] []) = some next ∧
        next.file.written = sink.file.written ++ [⟨item, sink.nextCfg, now⟩]

/-- The drain loop has not ended but on the sentinel, the bytes of every record taken are off
the account, every `configure` call will return, and records are written. -/
structure SinkWriter.Survives (sink : SinkWriter) : Prop where
  loop : sink.task ≠ some .failed
  bytes : sink.queuedBytes = ((sink.queue.map QueueItem.size).sum : Nat)
  waits : sink.requests.Covered
  writes : sink.WritesNext

/-- A requested configuration whose file does not open leaves the previous one in use. -/
def SinkWriter.KeepsPrevious (sink : SinkWriter) (action : SinkAction) : Prop :=
  ¬sink.OpensFor action → ∀ next, sink.step action = some next →
    next.cfg = sink.cfg ∧ next.file.fh = sink.file.fh

/-- What holds until the drain loop fails. -/
structure SinkWriter.Sound (sink : SinkWriter) : Prop where
  numbered : sink.requests.Numbered
  balanced : sink.books.Balanced
  runsOpen : sink.RunsOpen

theorem SinkWriter.release_written (sink : SinkWriter) (item : QueueItem) :
    (sink.release item).file.written = sink.file.written := by
  have written := congrArg Books.written (sink.release_books item)
  exact written.trans (Books.updateBackpressure_written _ _)

theorem SinkWriter.RunsOpen.writesNext {sink : SinkWriter} (open_ : sink.RunsOpen) :
    sink.WritesNext := by
  intro item queue now running head data enabled named
  obtain ⟨path, target⟩ := Option.isSome_iff_exists.mp named
  obtain ⟨settled, applied, keeps, _⟩ := SinkWriter.applyPendingConfig_ok
    (SinkWriter.reopens_of_quiet { sink with queue } List.not_mem_nil)
  have kept : ({ sink with queue } : SinkWriter).Settled settled :=
    SinkWriter.applyPendingConfig_settled (by rw [applied]; rfl)
  have config : settled.cfg = sink.nextCfg := kept.cfg
  have written : settled.file.written = sink.file.written := congrArg Books.written kept.books
  have opened := keeps (open_ running) (config ▸ enabled) path (config ▸ target)
  obtain ⟨after, ran, _, entered⟩ := writeRecord_returns opened settled.cfg now item
  refine ⟨({ sink with queue }).turn item now [] [], by simp only [SinkWriter.step, running, head], ?_⟩
  have going := going_of_isData data
  have proceeds : ¬(!settled.cfg.enabled || settled.file.fh.isNone) = true := by
    simp [config, enabled, opened.handle]
  have returned : settled.runFile [] (writeRecord settled.cfg now item) = .ok () after := ran
  simp only [SinkWriter.turn, applied, going.1, Bool.false_eq_true, if_false, if_neg going.2]
  rw [SinkWriter.handleRecord, if_neg proceeds, returned]
  exact (SinkWriter.release_written { settled with file := after } item).trans
    (by rw [entered, written, config])

theorem Requests.Step.alive {requests next : Requests} {action : SinkAction}
    (step : requests.Step action next) (alive : requests.task ≠ some .failed) :
    next.task ≠ some .failed := by
  cases step with
  | grows => exact alive
  | asks => exact alive
  | assigns => exact alive
  | @turns _ _ _ item queue running =>
      simp only [Requests.turn, running]
      split <;> simp
  | _ => simp

theorem SinkWriter.failed_step {sink next : SinkWriter} {action : SinkAction}
    (failed : sink.task = some .failed) (taken : sink.step action = some next) :
    next.task = some .failed := by
  cases SinkWriter.steps_of_step taken with
  | submits record src =>
      obtain ⟨items, queued⟩ := SinkWriter.submit_requests sink record src
      exact (congrArg Requests.task queued).trans failed
  | configures cfg => simp only [SinkWriter.configure, failed]
  | starts idle => cases failed.symm.trans idle
  | begins opening created => cases failed.symm.trans created
  | turns now opening writing running => cases failed.symm.trans running
  | returns _ finished => cases failed.symm.trans finished
  | givesUp _ live =>
      rcases live with created | running
      · cases failed.symm.trans created
      · cases failed.symm.trans running
  | _ => exact failed

theorem SinkWriter.fails_step {sink next : SinkWriter} {action : SinkAction}
    (fails : ¬sink.OpensFor action) (taken : sink.step action = some next) :
    next.task = some .failed := by
  cases SinkWriter.steps_of_step taken with
  | begins opening => exact SinkWriter.begin_fails fails
  | @turns now opening writing item queue =>
      have unopened : ¬({ sink with queue } : SinkWriter).Reopens opening := fails
      exact SinkWriter.turn_fails unopened item now writing
  | _ => exact absurd trivial fails

theorem SinkWriter.OpensFor.applies {sink : SinkWriter} {action : SinkAction}
    (opens : sink.OpensFor action) : sink.Applies action := by
  intro item queue now opening writing drains _
  subst drains
  have reopens : ({ sink with queue } : SinkWriter).Reopens opening := opens
  obtain ⟨settled, applied, _⟩ := SinkWriter.applyPendingConfig_ok reopens
  exact ⟨settled, applied⟩

theorem SinkWriter.sound_step {sink next : SinkWriter} {action : SinkAction}
    (opens : sink.OpensFor action) (quiet : action.WritesQuietly) (sound : sink.Sound)
    (taken : sink.step action = some next) : next.Sound where
  numbered := (SinkWriter.step_requests opens taken).numbered sound.numbered
  balanced := SinkWriter.balanced_step_of_applies opens.applies sound.balanced taken
  runsOpen := SinkWriter.runsOpen_step opens quiet sound.runsOpen taken

/-- The condition on a step: no file fails to open in it, and configurations are asked for one
at a time. -/
def SinkWriter.OpensAlone (sink : SinkWriter) (action : SinkAction) : Prop :=
  sink.OpensFor action ∧ sink.requests.ConfiguresAlone action

theorem SinkWriter.survives_step_iff {sink next : SinkWriter} {action : SinkAction}
    (quiet : action.WritesQuietly) (sound : sink.Sound) (survives : sink.Survives)
    (taken : sink.step action = some next) : next.Survives ↔ sink.OpensAlone action := by
  by_cases opens : sink.OpensFor action
  · have after := SinkWriter.sound_step opens quiet sound taken
    have step := SinkWriter.step_requests opens taken
    have waits := step.covered_iff sound.numbered survives.waits
    constructor
    · intro next
      exact ⟨opens, waits.mp next.waits⟩
    · intro alone
      exact ⟨step.alive survives.loop, after.balanced.bytes, waits.mpr alone.2,
        after.runsOpen.writesNext⟩
  · have failed := SinkWriter.fails_step opens taken
    exact iff_of_false (fun next => next.loop failed) (fun alone => opens alone.1)

theorem SinkWriter.init_sound (cfg : SinkConfig) (files : String → Option Bytes) :
    (SinkWriter.init cfg files).Sound where
  numbered :=
    ⟨by simp [SinkWriter.init, SinkWriter.requests], by simp [SinkWriter.init, SinkWriter.requests]⟩
  balanced :=
    { bytes := rfl
      markers := by simp [SinkWriter.init, SinkWriter.books]
      pending := by simp [SinkWriter.init, SinkWriter.books] }
  runsOpen := fun running => by cases running

theorem SinkWriter.init_survives (cfg : SinkConfig) (files : String → Option Bytes) :
    (SinkWriter.init cfg files).Survives where
  loop := by simp [SinkWriter.init]
  bytes := rfl
  waits := fun event waiting => absurd waiting.1 (Nat.not_lt_zero event)
  writes := fun _ _ _ running => by cases running

/-- The writer survives every failed opening of the run, and keeps what it used before,
exactly when none fails and configurations are asked for one at a time. -/
theorem sink_survives_iff (cfg : SinkConfig) (files : String → Option Bytes)
    {actions : List SinkAction} {final : SinkWriter}
    (quiet : ∀ action ∈ actions, action.WritesQuietly)
    (ran : Runs.run SinkWriter.step (SinkWriter.init cfg files) actions = some final) :
    ((∀ visited, Runs.Visits SinkWriter.step (SinkWriter.init cfg files) actions visited →
        visited.Survives) ∧
      Runs.Each SinkWriter.step SinkWriter.KeepsPrevious (SinkWriter.init cfg files) actions) ↔
      Runs.Each SinkWriter.step SinkWriter.OpensAlone (SinkWriter.init cfg files) actions := by
  have stays := Runs.stays_iff_each SinkAction.WritesQuietly
    (fun sink => sink.task ≠ some .failed → sink.Sound) SinkWriter.Survives SinkWriter.OpensAlone
    (fun sink action next quiet sound taken alive => by
      have before : sink.task ≠ some .failed :=
        fun failed => alive (SinkWriter.failed_step failed taken)
      have opens : sink.OpensFor action := by
        by_contra fails
        exact alive (SinkWriter.fails_step fails taken)
      exact SinkWriter.sound_step opens quiet (sound before) taken)
    (fun sink _ _ quiet sound survives taken =>
      SinkWriter.survives_step_iff quiet (sound survives.loop) survives taken)
    (fun _ => SinkWriter.init_sound cfg files) (SinkWriter.init_survives cfg files) quiet ran
  constructor
  · intro both
    exact stays.mp both.1
  · intro each
    refine ⟨stays.mpr each, each.mono ?_⟩
    intro sink action alone fails
    exact absurd alone.1 fails

/-- A request whose file opens, and a record after it. -/
def opensAgain : List SinkAction :=
  [.start, .begin [], .configure { enabled := true, path := some "new.log" },
    .submit { payload := [0x61] } "a:1", .drain "t" [] [], .drain "t" [] []]

theorem sink_survives_opens_again :
    ((∀ visited, Runs.Visits SinkWriter.step
        (SinkWriter.init { enabled := true, path := some "old.log" } fun _ => none) opensAgain
          visited → visited.Survives) ∧
      Runs.Each SinkWriter.step SinkWriter.KeepsPrevious
        (SinkWriter.init { enabled := true, path := some "old.log" } fun _ => none) opensAgain) ↔
      Runs.Each SinkWriter.step SinkWriter.OpensAlone
        (SinkWriter.init { enabled := true, path := some "old.log" } fun _ => none) opensAgain :=
  sink_survives_iff { enabled := true, path := some "old.log" } (fun _ => none)
    (by simp [opensAgain, SinkAction.WritesQuietly]) (Option.some_get (by decide +kernel)).symm

/-- The directory of the new path cannot be made, with a record in hand. -/
def newPathFails : List SinkAction :=
  [.start, .begin [], .submit { payload := [0x61] } "a:1",
    .configure { enabled := true, path := some "new.log" }, .drain "t" [true] []]

/-- The loop has failed; the record is gone, its byte is still on the account; the request's
event is not set and cannot be; the old file is closed, the new configuration in force. -/
theorem newPathFails_not_survived : ∃ final,
    Runs.run SinkWriter.step
      (SinkWriter.init { enabled := true, path := some "old.log" } fun _ => none) newPathFails =
        some final ∧
      final.task = some .failed ∧ final.queue = [.wakeUp] ∧ final.queuedBytes = 1 ∧
      final.pendingConfig.isNone = true ∧ final.doneEvents = [] ∧
      final.cfg.path = some "new.log" ∧ final.file.fh = none ∧ ¬final.Survives := by
  have accounts : (Runs.run SinkWriter.step
      (SinkWriter.init { enabled := true, path := some "old.log" } fun _ => none)
      newPathFails).map (fun final => (final.task, final.queue, final.queuedBytes)) =
      some (some .failed, [.wakeUp], 1) := by decide +kernel
  have requests : (Runs.run SinkWriter.step
      (SinkWriter.init { enabled := true, path := some "old.log" } fun _ => none)
      newPathFails).map (fun final =>
        (final.pendingConfig.isNone, final.doneEvents, final.cfg.path, final.file.fh)) =
      some (true, [], some "new.log", none) := by decide +kernel
  obtain ⟨final, ran, seen⟩ := Option.map_eq_some_iff.mp accounts
  rw [ran, Option.map_some, Option.some.injEq] at requests
  simp only [Prod.mk.injEq] at seen requests
  obtain ⟨task, queue, bytes⟩ := seen
  obtain ⟨pending, done, path, file⟩ := requests
  exact ⟨final, ran, task, queue, bytes, pending, done, path, file,
    fun survives => survives.loop task⟩

end TcpSim.Engine
