import TcpSim.Engine.SinkBooks
import TcpSim.Engine.SinkRotation
import TcpSim.Lib.Runs

/-! Runs of the sink writer that keep to one path and one backup count and meet
no fault: the files hold a suffix of everything ever written, in order. -/

set_option autoImplicit false

namespace TcpSim.Engine

open Effects Rollover

/-- The configuration writes to `base` with `count` backups. -/
structure SinkConfig.LogsTo (cfg : SinkConfig) (base : String) (count : Nat) : Prop where
  enabled : cfg.enabled = true
  path : cfg.path = some base
  backups : cfg.rotationBackupCount = count

theorem SinkConfig.LogsTo.truthyPath {cfg : SinkConfig} {base : String} {count : Nat}
    (logs : cfg.LogsTo base count) (named : base ≠ "") : cfg.truthyPath = some base :=
  SinkConfig.truthyPath_eq_some.mpr ⟨logs.path, named⟩

/-- The actions of a run that keeps one log and in which no file operation fails. -/
def SinkAction.KeepsLog (base : String) (count : Nat) : SinkAction → Prop
  | .begin opening => opening = []
  | .submit _ src => src ≠ ""
  | .configure cfg => cfg.LogsTo base count
  | .drain _ opening writing => opening = [] ∧ writing = []
  | _ => True

/-- The part of the writer's state that its log depends on. -/
structure LogView where
  cfg : SinkConfig
  pending : Option SinkConfig
  task : Option DrainTask
  files : String → Option Bytes
  fh : Option String
  currentPath : Option String
  written : List WrittenRecord
  accepted : List QueueItem
  queue : List QueueItem
  stopWaiting : Bool

def SinkWriter.logView (sink : SinkWriter) : LogView where
  cfg := sink.cfg
  pending := sink.pendingConfig.map PendingConfig.cfg
  task := sink.task
  files := sink.file.disk.files
  fh := sink.file.fh
  currentPath := sink.file.currentPath
  written := sink.file.written
  accepted := sink.accepted
  queue := sink.queue
  stopWaiting := sink.stopWaiting

structure LogView.Logging (view : LogView) (base : String) (count : Nat) (initial : List Bytes) :
    Prop where
  cfg : view.cfg.LogsTo base count
  pending : ∀ cfg ∈ view.pending, cfg.LogsTo base count
  kept : Kept initial (view.written.map WrittenRecord.blob) (present base count view.files)
  alive : view.task ≠ some .failed
  handle : view.task = some .running → view.fh = some base
  current : view.task = some .running → view.currentPath = some base
  found : view.task = some .running → (view.files base).isSome = true
  fifo : view.accepted =
    view.written.map WrittenRecord.item ++ view.queue.filter QueueItem.isData

/-! ## Frames -/

theorem SinkWriter.updateBackpressure_logView (sink : SinkWriter) :
    sink.updateBackpressure.logView = sink.logView := by
  unfold SinkWriter.updateBackpressure
  split
  · rfl
  · split
    · rfl
    · rfl

theorem SinkWriter.release_logView (sink : SinkWriter) (item : QueueItem) :
    (sink.release item).logView = sink.logView :=
  SinkWriter.updateBackpressure_logView _

theorem SinkWriter.submit_logView (sink : SinkWriter) (record : FramedRecord) (src : String) :
    (sink.submit record src).2.logView = sink.logView ∨
      (sink.submit record src).2.logView = { sink.logView with
        queue := sink.queue ++ [{ record := record, src := src }]
        accepted := sink.accepted ++ [{ record := record, src := src }] } := by
  unfold SinkWriter.submit
  split
  · exact .inl rfl
  · dsimp only
    split
    · exact .inl rfl
    · exact .inr (SinkWriter.updateBackpressure_logView _)

theorem SinkWriter.applyPendingConfig_logView {sink : SinkWriter} {base : String} {count : Nat}
    (before : sink.cfg.LogsTo base count)
    (requests : ∀ pending ∈ sink.pendingConfig, pending.cfg.LogsTo base count) :
    ∃ settled, sink.applyPendingConfig [] = .ok () settled ∧
      settled.logView = { sink.logView with cfg := sink.nextCfg, pending := none } := by
  unfold SinkWriter.applyPendingConfig
  cases requested : sink.pendingConfig with
  | none =>
      exact ⟨sink, rfl, by simp [SinkWriter.logView, SinkWriter.nextCfg, requested]⟩
  | some pending =>
      have logs : pending.cfg.LogsTo base count := requests pending requested
      have unchanged : ¬(pending.cfg.path ≠ sink.cfg.path ∨
          pending.cfg.enabled ≠ sink.cfg.enabled) := by
        simp [logs.path, logs.enabled, before.path, before.enabled]
      have next : sink.nextCfg = pending.cfg := by simp [SinkWriter.nextCfg, requested]
      simp only [SinkWriter.runFile, reopenIfChanged, if_neg unchanged, next]
      exact ⟨_, rfl, rfl⟩

/-! ## The invariant under each update -/

section Updates

variable {view : LogView} {base : String} {count : Nat} {initial : List Bytes}

theorem LogView.Logging.of_idle (log : view.Logging base count initial) {task : Option DrainTask}
    (fh : Option String) (stopWaiting : Bool) (idle : task ≠ some .running)
    (alive : task ≠ some .failed) :
    { view with task, fh, stopWaiting }.Logging base count initial where
  cfg := log.cfg
  pending := log.pending
  kept := log.kept
  alive := alive
  handle := fun running => absurd running idle
  current := fun running => absurd running idle
  found := fun running => absurd running idle
  fifo := log.fifo

theorem LogView.Logging.with_cfg (log : view.Logging base count initial) {cfg : SinkConfig}
    {pending : Option SinkConfig} (now : cfg.LogsTo base count)
    (later : ∀ other ∈ pending, other.LogsTo base count) :
    { view with cfg, pending }.Logging base count initial :=
  { log with cfg := now, pending := later }

theorem LogView.Logging.enqueue (log : view.Logging base count initial) {item : QueueItem}
    (marker : item.isData = false) (stopWaiting : Bool) :
    { view with queue := view.queue ++ [item], stopWaiting }.Logging base count initial :=
  { log with fifo := by simpa [List.filter_append, marker] using log.fifo }

theorem LogView.Logging.accept (log : view.Logging base count initial) {item : QueueItem}
    (data : item.isData = true) :
    { view with
      queue := view.queue ++ [item]
      accepted := view.accepted ++ [item] }.Logging base count initial :=
  { log with fifo := by simp [List.filter_append, data, log.fifo] }

theorem LogView.Logging.take (log : view.Logging base count initial) {item : QueueItem}
    {queue : List QueueItem} (head : view.queue = item :: queue)
    (marker : item.isData = false) : { view with queue }.Logging base count initial :=
  { log with fifo := by simpa [head, marker] using log.fifo }

end Updates

private theorem handleRecord_logging {sink settled : SinkWriter} {base : String} {count : Nat}
    {initial : List Bytes} {item : QueueItem} {queue : List QueueItem}
    (log : sink.logView.Logging base count initial) (running : sink.task = some .running)
    (head : sink.queue = item :: queue) (data : item.isData = true) {cfg : SinkConfig}
    (logs : cfg.LogsTo base count)
    (view : settled.logView = { sink.logView with queue, cfg, pending := none })
    (now : String) :
    (settled.handleRecord item now []).logView.Logging base count initial := by
  have file := congrArg LogView.files view
  have handle := (congrArg LogView.fh view).trans (log.handle running)
  have current := (congrArg LogView.currentPath view).trans (log.current running)
  have written := congrArg LogView.written view
  have config : settled.cfg = cfg := congrArg LogView.cfg view
  simp only [SinkWriter.logView] at file handle current written
  let ready := { settled.file with disk := { settled.file.disk with faults := [] } }
  have opened : ready.OpenAt base := ⟨handle, current, by
    simp only [ready, file]
    exact log.found running⟩
  have kept : Kept initial (sink.file.written.map WrittenRecord.blob)
      (present base count ready.disk.files) := by
    simp only [ready, file]
    exact log.kept
  obtain ⟨after, ran, _, afterOpened, afterKept⟩ :=
    @writeRecord_quiet ready rfl cfg now item base count _ _ opened logs.backups kept
  have ledger : after.written = sink.file.written ++ [⟨item, cfg, now⟩] := by
    rw [writeRecord_written ran]
    exact congrArg (· ++ [_]) written
  have closing : settled.handleRecord item now [] = { settled with file := after }.release item := by
    have proceeds : ¬(!settled.cfg.enabled || settled.file.fh.isNone) = true := by
      simp [config, logs.enabled, handle]
    have returned : settled.runFile [] (writeRecord settled.cfg now item) = .ok () after := by
      rw [config]
      exact ran
    rw [SinkWriter.handleRecord, if_neg proceeds, returned]
  rw [closing, SinkWriter.release_logView]
  have stored : { settled with file := after }.logView = { sink.logView with
      queue, cfg
      pending := none
      files := after.disk.files
      fh := some base
      currentPath := some base
      written := sink.file.written ++ [⟨item, cfg, now⟩] } := by
    have rest : { settled with file := after }.logView = { settled.logView with
        files := after.disk.files
        fh := after.fh
        currentPath := after.currentPath
        written := after.written } := rfl
    rw [rest, view, afterOpened.handle, afterOpened.current, ledger]
  rw [stored]
  refine { cfg := logs, pending := by simp, kept := ?_, alive := log.alive,
           handle := fun _ => rfl, current := fun _ => rfl,
           found := fun _ => afterOpened.found, fifo := ?_ }
  · rw [List.map_append]
    exact afterKept
  · have before := log.fifo
    simp only [SinkWriter.logView, head, data, List.filter_cons_of_pos] at before ⊢
    simp [before]

private theorem turn_logging {sink : SinkWriter} {base : String} {count : Nat}
    {initial : List Bytes} {item : QueueItem} {queue : List QueueItem}
    (log : sink.logView.Logging base count initial) (running : sink.task = some .running)
    (head : sink.queue = item :: queue) (now : String) :
    ({ sink with queue }.turn item now [] []).logView.Logging base count initial := by
  have requests : ∀ pending ∈ sink.pendingConfig, pending.cfg.LogsTo base count :=
    fun pending member => log.pending pending.cfg (Option.mem_map_of_mem _ member)
  have logs : sink.nextCfg.LogsTo base count := by
    unfold SinkWriter.nextCfg
    cases requested : sink.pendingConfig with
    | none => exact log.cfg
    | some pending => exact requests pending requested
  obtain ⟨settled, applied, view⟩ :=
    @SinkWriter.applyPendingConfig_logView { sink with queue } base count log.cfg requests
  have taken (marker : item.isData = false) : settled.logView.Logging base count initial := by
    rw [view]
    exact (log.take head marker).with_cfg logs (by simp)
  simp only [SinkWriter.turn, applied]
  split
  next stop =>
      exact (taken (not_isData_of_stop stop)).of_idle _ _ (by simp) (by simp)
  next going =>
      split
      next empty => exact taken (not_isData_of_empty empty)
      next full =>
          exact handleRecord_logging log running head (isData_of_neither going full) logs view now

private theorem begin_logging {sink : SinkWriter} {base : String} {count : Nat}
    {initial : List Bytes} (named : base ≠ "") (log : sink.logView.Logging base count initial) :
    (sink.begin []).logView.Logging base count initial := by
  let ready := { sink.file with disk := { sink.file.disk with faults := [] } }
  have logs : sink.cfg.LogsTo base count := log.cfg
  obtain ⟨after, ran, opened, written, kept⟩ :=
    @openFileIfEnabled_kept ready rfl sink.cfg base count _ _ logs.enabled (logs.truthyPath named)
      log.kept
  have returned : sink.runFile [] (openFileIfEnabled sink.cfg) = .ok () after := ran
  have running : { sink with file := after, task := some .running }.logView.Logging
      base count initial :=
    { cfg := logs
      pending := log.pending
      kept := by
        simp only [SinkWriter.logView, written]
        exact kept
      alive := by simp [SinkWriter.logView]
      handle := fun _ => opened.handle
      current := fun _ => opened.current
      found := fun _ => opened.found
      fifo := by
        simp only [SinkWriter.logView, written]
        exact log.fifo }
  simp only [SinkWriter.begin, returned]
  split
  · exact running
  · exact running

private theorem configure_logging {sink : SinkWriter} {base : String} {count : Nat}
    {initial : List Bytes} (log : sink.logView.Logging base count initial) {cfg : SinkConfig}
    (logs : cfg.LogsTo base count) : (sink.configure cfg).logView.Logging base count initial := by
  unfold SinkWriter.configure
  split
  · exact log.with_cfg logs log.pending
  · have requested : { sink.logView with cfg := sink.cfg, pending := some cfg }.Logging
        base count initial :=
      log.with_cfg log.cfg (by simpa using logs)
    exact requested.enqueue (not_isData_of_empty ⟨rfl, rfl⟩) sink.stopWaiting

private theorem stopped_logging {sink : SinkWriter} {base : String} {count : Nat}
    {initial : List Bytes} (log : sink.logView.Logging base count initial) :
    sink.stopped.logView.Logging base count initial := by
  have view : sink.stopped.logView =
      { sink.logView with task := none, fh := none, stopWaiting := false } := rfl
  rw [view]
  exact log.of_idle none false (by simp) (by simp)

theorem SinkWriter.logging_step {sink next : SinkWriter} {action : SinkAction} {base : String}
    {count : Nat} {initial : List Bytes} (named : base ≠ "") (keeps : action.KeepsLog base count)
    (log : sink.logView.Logging base count initial) (taken : sink.step action = some next) :
    next.logView.Logging base count initial := by
  cases SinkWriter.steps_of_step taken with
  | starts => exact log.of_idle _ _ (by simp) (by simp)
  | startsNothing => exact log
  | begins opening =>
      obtain rfl : opening = [] := keeps
      exact begin_logging named log
  | submits record src =>
      rcases SinkWriter.submit_logView sink record src with same | accepted
      · rw [same]
        exact log
      · rw [accepted]
        exact log.accept (isData_of_sourced keeps)
  | configures cfg => exact configure_logging log keeps
  | turns now opening writing running head =>
      obtain ⟨rfl, rfl⟩ : opening = [] ∧ writing = [] := keeps
      exact turn_logging log running head now
  | stopsNothing => exact log
  | stops => exact log.enqueue (not_isData_of_stop rfl) true
  | returns => exact stopped_logging log
  | raises _ failed => exact absurd failed log.alive
  | givesUp => exact stopped_logging log

theorem SinkWriter.init_logging {cfg : SinkConfig} {base : String} {count : Nat}
    (logs : cfg.LogsTo base count) (files : String → Option Bytes) :
    (SinkWriter.init cfg files).logView.Logging base count (present base count files) where
  cfg := logs
  pending := by simp [SinkWriter.logView, SinkWriter.init]
  kept := Kept.start _
  alive := by simp [SinkWriter.logView, SinkWriter.init]
  handle := fun running => by cases running
  current := fun running => by cases running
  found := fun running => by cases running
  fifo := rfl

/-! ## Stopping -/

theorem SinkWriter.handleRecord_logView (settled : SinkWriter) (item : QueueItem)
    (now : String) (writing : List Bool) :
    ∃ file, (settled.handleRecord item now writing).logView = { settled with file }.logView := by
  unfold SinkWriter.handleRecord
  split
  · exact ⟨settled.file, SinkWriter.release_logView settled item⟩
  · split
    next file _ => exact ⟨file, SinkWriter.release_logView _ item⟩
    next file _ => exact ⟨file, SinkWriter.release_logView _ item⟩

/-- What a turn leaves as it was. Unless it fails, the drain task ends exactly on
the sentinel. -/
structure SinkWriter.Turned (sink after : SinkWriter) (item : QueueItem) : Prop where
  queue : after.queue = sink.queue
  accepted : after.accepted = sink.accepted
  stopWaiting : after.stopWaiting = sink.stopWaiting
  task : after.task ≠ some .failed →
    after.task = if item.stop then some .finished else sink.task

theorem SinkWriter.turn_turned (sink : SinkWriter) (item : QueueItem) (now : String)
    (opening writing : List Bool) :
    sink.Turned (sink.turn item now opening writing) item := by
  have entered := (SinkWriter.turn_entry sink item now opening writing).queue_accepted
  refine ⟨entered.1, entered.2, ?_, ?_⟩
  all_goals
    unfold SinkWriter.turn
    cases applied : sink.applyPendingConfig opening with
    | error error settled =>
        have kept : sink.Settled settled :=
          SinkWriter.applyPendingConfig_settled (by rw [applied]; rfl)
        simp [kept.stopWaiting]
    | ok value settled =>
        have kept : sink.Settled settled :=
          SinkWriter.applyPendingConfig_settled (by rw [applied]; rfl)
        obtain ⟨file, view⟩ := SinkWriter.handleRecord_logView settled item now writing
        have waiting := congrArg LogView.stopWaiting view
        have task := congrArg LogView.task view
        simp only [SinkWriter.logView] at waiting task
        cases item.stop with
        | true => simp [kept.stopWaiting]
        | false =>
            simp only [Bool.false_eq_true, if_false]
            split
            · simp [kept.stopWaiting, kept.task]
            · simp [waiting, task, kept.stopWaiting, kept.task]

/-- No `stop` has been called: the queue holds no sentinel and the task has not ended. -/
structure SinkWriter.Unstopped (sink : SinkWriter) : Prop where
  queue : ∀ item ∈ sink.queue, item.stop = false
  waiting : sink.stopWaiting = false
  task : sink.task ≠ some .finished

theorem SinkWriter.init_unstopped (cfg : SinkConfig) (files : String → Option Bytes) :
    (SinkWriter.init cfg files).Unstopped where
  queue := by simp [SinkWriter.init]
  waiting := rfl
  task := by simp [SinkWriter.init]

/-- `accepted` is what `submit` had taken when `stop` was called. -/
inductive SinkWriter.Flushing (accepted : List QueueItem) (sink : SinkWriter) : Prop where
  /-- The sentinel is still queued, behind those of them not drained yet. -/
  | draining (ahead behind : List QueueItem) (sentinel : QueueItem)
      (queue : sink.queue = ahead ++ sentinel :: behind) (isStop : sentinel.stop = true)
      (noStop : ∀ item ∈ ahead, item.stop = false)
      (task : sink.task = some .created ∨ sink.task = some .running)
      (split : sink.accepted = accepted ++ behind.filter QueueItem.isData) :
      Flushing accepted sink
  | drained (later : List QueueItem)
      (split : sink.accepted = accepted ++ later ++ sink.queue.filter QueueItem.isData) :
      Flushing accepted sink

theorem SinkWriter.begin_kept (sink : SinkWriter) (opening : List Bool) :
    (sink.begin opening).queue = sink.queue ∧ (sink.begin opening).accepted = sink.accepted ∧
      (sink.begin opening).stopWaiting = sink.stopWaiting ∧
      ((sink.begin opening).task ≠ some .failed →
        (sink.begin opening).task = some .running) := by
  unfold SinkWriter.begin
  split
  · simp
  · dsimp only
    split
    · simp [SinkWriter.emit]
    · simp

theorem SinkWriter.configure_kept (sink : SinkWriter) (cfg : SinkConfig) :
    (sink.configure cfg).task = sink.task ∧
      (sink.configure cfg).stopWaiting = sink.stopWaiting ∧
      (sink.configure cfg).accepted = sink.accepted ∧
      ∃ items, (sink.configure cfg).queue = sink.queue ++ items ∧
        ∀ item ∈ items, item = .wakeUp := by
  unfold SinkWriter.configure
  split
  · exact ⟨rfl, rfl, rfl, [], by simp, by simp⟩
  · exact ⟨rfl, rfl, rfl, [.wakeUp], by simp, by simp⟩

theorem SinkWriter.submit_kept (sink : SinkWriter) (record : FramedRecord) (src : String) :
    (sink.submit record src).2.task = sink.task ∧
      (sink.submit record src).2.stopWaiting = sink.stopWaiting ∧
      ∃ items, (sink.submit record src).2.queue = sink.queue ++ items ∧
        (sink.submit record src).2.accepted = sink.accepted ++ items ∧
        ∀ item ∈ items, item = { record := record, src := src } := by
  rcases SinkWriter.submit_logView sink record src with view | view
  · have task := congrArg LogView.task view
    have waiting := congrArg LogView.stopWaiting view
    have queue := congrArg LogView.queue view
    have accepted := congrArg LogView.accepted view
    exact ⟨task, waiting, [], queue.trans (List.append_nil _).symm,
      accepted.trans (List.append_nil _).symm, by simp⟩
  · have task := congrArg LogView.task view
    have waiting := congrArg LogView.stopWaiting view
    have queue := congrArg LogView.queue view
    have accepted := congrArg LogView.accepted view
    exact ⟨task, waiting, _, queue, accepted, by simp⟩

theorem SinkWriter.Unstopped.more {sink next : SinkWriter} (unstopped : sink.Unstopped)
    (task : next.task = sink.task) (waiting : next.stopWaiting = sink.stopWaiting)
    {items : List QueueItem} (queue : next.queue = sink.queue ++ items)
    (only : ∀ item ∈ items, item.stop = false) : next.Unstopped := by
  refine ⟨?_, waiting.trans unstopped.waiting, by rw [task]; exact unstopped.task⟩
  intro item member
  rw [queue] at member
  rcases List.mem_append.mp member with before | added
  · exact unstopped.queue item before
  · exact only item added

/-- Until `stop` is called the queue gets no sentinel, and a started task stays. -/
theorem SinkWriter.unstopped_step {sink next : SinkWriter} {action : SinkAction}
    (other : action ≠ .stop) (unstopped : sink.Unstopped) (alive : next.task ≠ some .failed)
    (taken : sink.step action = some next) :
    next.Unstopped ∧ (sink.task ≠ none → next.task ≠ none) := by
  cases SinkWriter.steps_of_step taken with
  | starts => exact ⟨⟨unstopped.queue, unstopped.waiting, by simp⟩, by simp⟩
  | startsNothing => exact ⟨unstopped, id⟩
  | begins opening =>
      obtain ⟨queue, _, waiting, task⟩ := SinkWriter.begin_kept sink opening
      exact ⟨⟨by rw [queue]; exact unstopped.queue, waiting.trans unstopped.waiting,
        by simp [task alive]⟩, by simp [task alive]⟩
  | submits record src =>
      obtain ⟨task, waiting, items, queue, _, only⟩ := SinkWriter.submit_kept sink record src
      refine ⟨unstopped.more task waiting queue fun item added => ?_, by rw [task]; exact id⟩
      rw [only item added]
  | configures cfg =>
      obtain ⟨task, waiting, _, items, queue, only⟩ := SinkWriter.configure_kept sink cfg
      refine ⟨unstopped.more task waiting queue fun item added => ?_, by rw [task]; exact id⟩
      rw [only item added]
      rfl
  | @turns now opening writing item queue running head =>
      have turned := SinkWriter.turn_turned { sink with queue } item now opening writing
      have going : item.stop = false := unstopped.queue item (by simp [head])
      have task := turned.task alive
      simp only [going, Bool.false_eq_true, if_false] at task
      refine ⟨⟨?_, turned.stopWaiting.trans unstopped.waiting, by rw [task, running]; simp⟩,
        by rw [task, running]; simp⟩
      rw [turned.queue]
      exact fun other member => unstopped.queue other (by simp [head, member])
  | stopsNothing => exact absurd rfl other
  | stops => exact absurd rfl other
  | returns waits => exact absurd waits (by simp [unstopped.waiting])
  | raises waits => exact absurd waits (by simp [unstopped.waiting])
  | givesUp waits => exact absurd waits (by simp [unstopped.waiting])

private theorem drained_step {sink next : SinkWriter} {action : SinkAction}
    {accepted later : List QueueItem}
    (split : sink.accepted = accepted ++ later ++ sink.queue.filter QueueItem.isData)
    (sourced : action.Sourced) (taken : sink.step action = some next) :
    next.Flushing accepted := by
  suffices after : ∃ later, next.books.accepted =
      accepted ++ later ++ next.books.queue.filter QueueItem.isData by
    obtain ⟨later, split⟩ := after
    exact .drained later split
  have before : sink.books.accepted =
    accepted ++ later ++ sink.books.queue.filter QueueItem.isData := split
  have entry := SinkWriter.step_entry taken
  generalize next.books = books at entry
  cases entry with
  | idle => exact ⟨later, before⟩
  | enqueue _ marker _ =>
      exact ⟨later, by simpa [Books.enqueue, List.filter_append, marker] using before⟩
  | submit record src =>
      have data := @isData_of_sourced record src sourced
      unfold Books.submit
      split
      · exact ⟨later, before⟩
      · split
        · exact ⟨later, before⟩
        · exact ⟨later, by simp [Books.accept, List.filter_append, data, before]⟩
  | @drain item queue _ _ _ _ head turn =>
      obtain ⟨sameQueue, sameAccepted⟩ := turn.queue_accepted
      refine ⟨later ++ [item].filter QueueItem.isData, ?_⟩
      rw [sameQueue, sameAccepted]
      simp only [split, head, List.append_assoc, ← List.filter_append]
      rfl

/-- While a `stop` is waited for, what was accepted before it gets drained. -/
theorem SinkWriter.flushing_step {sink next : SinkWriter} {action : SinkAction}
    {accepted : List QueueItem} (other : action ≠ .stop) (inTime : action ≠ .stopTimeout)
    (sourced : action.Sourced) (flushing : sink.Flushing accepted)
    (alive : next.task ≠ some .failed) (taken : sink.step action = some next) :
    next.Flushing accepted := by
  cases flushing with
  | drained later split => exact drained_step split sourced taken
  | draining ahead behind sentinel queue isStop noStop task split =>
      cases SinkWriter.steps_of_step taken with
      | starts idle =>
          rw [idle] at task
          rcases task with created | running
          · cases created
          · cases running
      | startsNothing => exact .draining ahead behind sentinel queue isStop noStop task split
      | begins opening =>
          obtain ⟨sameQueue, sameAccepted, _, begun⟩ := SinkWriter.begin_kept sink opening
          exact .draining ahead behind sentinel (sameQueue.trans queue) isStop noStop
            (.inr (begun alive)) (sameAccepted.trans split)
      | submits record src =>
          obtain ⟨sameTask, _, items, grown, taken, only⟩ := SinkWriter.submit_kept sink record src
          have data : items.filter QueueItem.isData = items := by
            rw [List.filter_eq_self]
            intro item member
            rw [only item member]
            exact isData_of_sourced sourced
          refine .draining ahead (behind ++ items) sentinel (by simp [grown, queue]) isStop noStop
            (by rwa [sameTask]) ?_
          rw [taken, split, List.filter_append, data, List.append_assoc]
      | configures cfg =>
          obtain ⟨sameTask, _, sameAccepted, items, grown, only⟩ :=
            SinkWriter.configure_kept sink cfg
          have none : items.filter QueueItem.isData = [] := by
            rw [List.filter_eq_nil_iff]
            intro item member
            rw [only item member]
            simp [@not_isData_of_empty .wakeUp ⟨rfl, rfl⟩]
          refine .draining ahead (behind ++ items) sentinel (by simp [grown, queue]) isStop noStop
            (by rwa [sameTask]) ?_
          rw [sameAccepted, split, List.filter_append, none, List.append_nil]
      | @turns now opening writing item rest running head =>
          have turned :=
            SinkWriter.turn_turned { sink with queue := rest } item now opening writing
          cases ahead with
          | nil =>
              obtain ⟨rfl, rfl⟩ := List.cons.inj (head.symm.trans queue)
              refine .drained [] ?_
              rw [turned.accepted, turned.queue, List.append_nil]
              exact split
          | cons first ahead =>
              obtain ⟨rfl, rfl⟩ := List.cons.inj (head.symm.trans queue)
              have going : item.stop = false := noStop item (by simp)
              have kept := turned.task alive
              simp only [going, Bool.false_eq_true, if_false] at kept
              exact .draining ahead behind sentinel turned.queue isStop
                (fun other member => noStop other (by simp [member]))
                (.inr (kept.trans running)) (turned.accepted.trans split)
      | stopsNothing => exact absurd rfl other
      | stops => exact absurd rfl other
      | returns _ finished =>
          rw [finished] at task
          rcases task with created | running
          · cases created
          · cases running
      | raises _ failed => exact absurd failed alive
      | givesUp => exact absurd rfl inTime

/-! ## Runs -/

theorem SinkAction.KeepsLog.sourced {base : String} {count : Nat} {action : SinkAction}
    (keeps : action.KeepsLog base count) : action.Sourced := by
  cases action with
  | submit => exact keeps
  | _ => trivial

section Runs

variable {base : String} {count : Nat} {initial : List Bytes} (named : base ≠ "")

include named

private theorem before_stop {sink atStop : SinkWriter} {actions : List SinkAction}
    (log : sink.logView.Logging base count initial) (unstopped : sink.Unstopped)
    (keeps : ∀ action ∈ actions, action.KeepsLog base count)
    (noStop : ∀ action ∈ actions, action ≠ .stop)
    (ran : Runs.run SinkWriter.step sink actions = some atStop) :
    atStop.logView.Logging base count initial ∧ atStop.Unstopped ∧
      (sink.task ≠ none → atStop.task ≠ none) := by
  refine Runs.run_invariant_of
    (fun action : SinkAction => action.KeepsLog base count ∧ action ≠ .stop)
    (fun state : SinkWriter => state.logView.Logging base count initial ∧ state.Unstopped ∧
      (sink.task ≠ none → state.task ≠ none))
    ?_ ⟨log, unstopped, id⟩ (fun action member => ⟨keeps action member, noStop action member⟩) ran
  intro state action next both kept taken
  obtain ⟨allowed, other⟩ := both
  obtain ⟨logging, fresh, started⟩ := kept
  have after := SinkWriter.logging_step named allowed logging taken
  obtain ⟨stillFresh, stays⟩ := SinkWriter.unstopped_step other fresh after.alive taken
  exact ⟨after, stillFresh, fun begun => stays (started begun)⟩

private theorem while_flushing {sink final : SinkWriter} {accepted : List QueueItem}
    {actions : List SinkAction} (log : sink.logView.Logging base count initial)
    (flushing : sink.Flushing accepted)
    (keeps : ∀ action ∈ actions, action.KeepsLog base count)
    (waits : ∀ action ∈ actions, action ≠ .stop ∧ action ≠ .stopTimeout)
    (ran : Runs.run SinkWriter.step sink actions = some final) :
    final.logView.Logging base count initial ∧ final.Flushing accepted := by
  refine Runs.run_invariant_of
    (fun action : SinkAction =>
      action.KeepsLog base count ∧ action ≠ .stop ∧ action ≠ .stopTimeout)
    (fun state : SinkWriter =>
      state.logView.Logging base count initial ∧ state.Flushing accepted)
    ?_ ⟨log, flushing⟩ (fun action member => ⟨keeps action member, waits action member⟩) ran
  intro state action next all kept taken
  obtain ⟨allowed, other, inTime⟩ := all
  obtain ⟨logging, progress⟩ := kept
  have after := SinkWriter.logging_step named allowed logging taken
  exact ⟨after, SinkWriter.flushing_step other inTime allowed.sourced progress after.alive taken⟩

end Runs

private theorem started_before_stop {sink atStop : SinkWriter} {base : String} {count : Nat}
    {initial : List Bytes} {actions : List SinkAction} (named : base ≠ "")
    (log : sink.logView.Logging base count initial) (unstopped : sink.Unstopped)
    (keeps : ∀ action ∈ actions, action.KeepsLog base count)
    (noStop : ∀ action ∈ actions, action ≠ .stop) (started : .start ∈ actions)
    (ran : Runs.run SinkWriter.step sink actions = some atStop) :
    atStop.logView.Logging base count initial ∧ atStop.Unstopped ∧ atStop.task ≠ none := by
  obtain ⟨first, second, rfl⟩ := List.append_of_mem started
  obtain ⟨middle, firstRan, restRan⟩ := Runs.run_append_eq_some.mp ran
  obtain ⟨next, taken, secondRan⟩ := Runs.run_cons_eq_some.mp restRan
  obtain ⟨middleLog, middleUnstopped, _⟩ := before_stop named log unstopped
    (fun action member => keeps action (by simp [member]))
    (fun action member => noStop action (by simp [member])) firstRan
  have nextLog := SinkWriter.logging_step named (keeps .start (by simp)) middleLog taken
  obtain ⟨nextUnstopped, _⟩ :=
    SinkWriter.unstopped_step (by simp) middleUnstopped nextLog.alive taken
  have begun : next.task ≠ none := by
    simp only [SinkWriter.step] at taken
    split at taken
    · cases taken
      simp
    next running =>
      cases taken
      simp [running]
  obtain ⟨lastLog, lastUnstopped, stays⟩ := before_stop named nextLog nextUnstopped
    (fun action member => keeps action (by simp [member]))
    (fun action member => noStop action (by simp [member])) secondRan
  exact ⟨lastLog, lastUnstopped, stays begun⟩

/-- `stop` puts the sentinel behind everything accepted so far. -/
theorem SinkWriter.stop_flushing {atStop next : SinkWriter} {base : String} {count : Nat}
    {initial : List Bytes} (log : atStop.logView.Logging base count initial)
    (unstopped : atStop.Unstopped) (started : atStop.task ≠ none)
    (taken : atStop.step .stop = some next) : next.Flushing atStop.accepted := by
  have alive : atStop.task ≠ some .failed := log.alive
  have unfinished := unstopped.task
  simp only [SinkWriter.step, unstopped.waiting, Bool.false_eq_true, if_false] at taken
  cases task : atStop.task with
  | none => exact absurd task started
  | some state =>
      rw [task] at taken alive unfinished
      cases taken
      refine .draining atStop.queue [] .stopSentinel rfl rfl unstopped.queue ?_ (by simp)
      cases state with
      | created => exact .inl rfl
      | running => exact .inr rfl
      | finished => exact absurd rfl unfinished
      | failed => exact absurd rfl alive

/-- When `stop` returns, everything accepted before it has been written. -/
theorem SinkWriter.stopReturn_drained {sink next : SinkWriter} {base : String} {count : Nat}
    {initial : List Bytes} {accepted : List QueueItem}
    (log : sink.logView.Logging base count initial) (flushing : sink.Flushing accepted)
    (taken : sink.step .stopReturn = some next) :
    accepted <+: next.file.written.map WrittenRecord.item := by
  have written : next.file.written = sink.file.written := by
    have entry := SinkWriter.step_entry taken
    have same : next.books.written = sink.books.written := by
      generalize next.books = books at entry
      cases entry with
      | idle => rfl
      | enqueue => rfl
    exact same
  rw [written]
  cases flushing with
  | draining ahead behind sentinel queue isStop noStop task split =>
      rcases task with created | running
      · simp [SinkWriter.step, created] at taken
      · simp [SinkWriter.step, running] at taken
  | drained later split =>
      have fifo : sink.accepted = sink.file.written.map WrittenRecord.item ++
        sink.queue.filter QueueItem.isData := log.fifo
      exact ⟨later, List.append_cancel_right (split.symm.trans fifo)⟩

/-- In a run that keeps to one path and backup count and meets no fault, the files
are at every point whole files at the end of the initial content followed by the
encodings of the drained records, and these are a first part of the accepted ones;
all that was accepted before `stop` is drained when `stop` returns. -/
theorem rotation_keeps_log {base : String} (named : base ≠ "") {cfg : SinkConfig}
    (logs : cfg.LogsTo base cfg.rotationBackupCount) (files : String → Option Bytes)
    {actions : List SinkAction} {final : SinkWriter}
    (keeps : ∀ action ∈ actions, action.KeepsLog base cfg.rotationBackupCount)
    (ran : Runs.run SinkWriter.step (SinkWriter.init cfg files) actions = some final) :
    (∀ visited, Runs.Visits SinkWriter.step (SinkWriter.init cfg files) actions visited →
      Kept (present base cfg.rotationBackupCount files)
        (visited.file.written.map WrittenRecord.blob)
        (present base cfg.rotationBackupCount visited.file.disk.files) ∧
      concatenation base cfg.rotationBackupCount visited.file.disk.files <:+
        concatenation base cfg.rotationBackupCount files ++
          (visited.file.written.map WrittenRecord.blob).flatten ∧
      visited.accepted = visited.file.written.map WrittenRecord.item ++
        visited.queue.filter QueueItem.isData) ∧
    ∀ before waiting atStop, actions = before ++ .stop :: (waiting ++ [.stopReturn]) →
      .start ∈ before → (∀ action ∈ before, action ≠ .stop) →
      (∀ action ∈ waiting, action ≠ .stop ∧ action ≠ .stopTimeout) →
      Runs.run SinkWriter.step (SinkWriter.init cfg files) before = some atStop →
      atStop.accepted <+: final.file.written.map WrittenRecord.item := by
  have start := SinkWriter.init_logging logs files
  constructor
  · intro visited visits
    have log : visited.logView.Logging base cfg.rotationBackupCount _ :=
      Runs.visits_invariant_of (SinkAction.KeepsLog base cfg.rotationBackupCount)
        (fun state : SinkWriter => state.logView.Logging base cfg.rotationBackupCount
          (present base cfg.rotationBackupCount files))
        (fun _ _ _ allowed logging taken => SinkWriter.logging_step named allowed logging taken)
        start keeps visits
    refine ⟨log.kept, ?_, log.fifo⟩
    rw [concatenation_eq, concatenation_eq]
    exact log.kept.flatten_suffix
  · intro before waiting atStop split started noStop waits reached
    obtain rfl := split
    obtain ⟨middle, beforeRan, restRan⟩ := Runs.run_append_eq_some.mp ran
    obtain rfl := Option.some.inj (reached.symm.trans beforeRan)
    obtain ⟨stopping, stopTaken, restRan⟩ := Runs.run_cons_eq_some.mp restRan
    obtain ⟨waited, waitedRan, lastRan⟩ := Runs.run_append_eq_some.mp restRan
    obtain ⟨returned, returnTaken, endRan⟩ := Runs.run_cons_eq_some.mp lastRan
    cases endRan
    obtain ⟨log, unstopped, begun⟩ := started_before_stop named start
      (SinkWriter.init_unstopped cfg files)
      (fun action member => keeps action (by simp [member])) noStop started beforeRan
    have stoppingLog := SinkWriter.logging_step named (keeps .stop (by simp)) log stopTaken
    obtain ⟨waitedLog, flushed⟩ := while_flushing named stoppingLog
      (SinkWriter.stop_flushing log unstopped begun stopTaken)
      (fun action member => keeps action (by simp [member])) waits waitedRan
    exact SinkWriter.stopReturn_drained waitedLog flushed returnTaken

def threeBackups : SinkConfig where
  enabled := true
  path := some "sink.log"
  format := .delimited
  rotationMaxBytes := 3
  rotationBackupCount := 3
  queueHighWatermarkBytes := 48
  queueLowWatermarkBytes := 12
  queueMaxBytes := 96
  rotation_pos := Nat.succ_pos _

def longLines : SinkConfig :=
  { threeBackups with
    format := .jsonl
    rotationMaxBytes := 70
    rotation_pos := Nat.succ_pos _ }

/-- The second backup is missing. -/
def gapInBackups : String → Option Bytes :=
  Function.update (Function.update (Function.update (fun _ => none) "sink.log" (some [0x30]))
    "sink.log.1" (some [0x31])) "sink.log.3" (some [0x33])

/-- Every record but the first one rotates; format and cap change between the second and the
third. -/
def beforeStop : List SinkAction :=
  [.start, .begin [], .submit { payload := [0x61] } "a:1", .drain "t" [] [],
    .submit { payload := [0x62, 0x63] } "b:2", .drain "t" [] [], .configure longLines,
    .submit { payload := [0x64] } "a:1", .drain "t" [] [], .submit { payload := [0x65] } "a:1",
    .submit { payload := [0x66] } "b:2"]

def whileStopping : List SinkAction :=
  [.drain "t" [] [], .drain "t" [] [], .drain "t" [] [], .drain "t" [] []]

/-- After four rotations nothing is left of the initial content, and the second record is the
oldest one. -/
theorem rotation_keeps_log_gap_in_backups :
    ∃ atStop final, Runs.run SinkWriter.step (SinkWriter.init threeBackups gapInBackups)
        beforeStop = some atStop ∧
      Runs.run SinkWriter.step (SinkWriter.init threeBackups gapInBackups)
        (beforeStop ++ .stop :: (whileStopping ++ [.stopReturn])) = some final ∧
      final.file.rotations = 4 ∧
      final.file.disk.files "sink.log.3" = some [0x62, 0x63, 0x0A] ∧
      concatenation "sink.log" 3 gapInBackups = [0x33, 0x31, 0x30] ∧
      concatenation "sink.log" 3 final.file.disk.files <:+
        concatenation "sink.log" 3 gapInBackups ++
          (final.file.written.map WrittenRecord.blob).flatten ∧
      atStop.accepted.length = 5 ∧
      atStop.accepted <+: final.file.written.map WrittenRecord.item := by
  have stopped : (Runs.run SinkWriter.step (SinkWriter.init threeBackups gapInBackups)
      beforeStop).map (fun atStop => atStop.accepted.length) = some 5 := by decide +kernel
  have seen : (Runs.run SinkWriter.step (SinkWriter.init threeBackups gapInBackups)
      (beforeStop ++ .stop :: (whileStopping ++ [.stopReturn]))).map (fun final =>
        (final.file.rotations, final.file.disk.files "sink.log.3")) =
      some (4, some [0x62, 0x63, 0x0A]) := by decide +kernel
  obtain ⟨atStop, reached, accepted⟩ := Option.map_eq_some_iff.mp stopped
  obtain ⟨final, ran, same⟩ := Option.map_eq_some_iff.mp seen
  obtain ⟨rotations, oldest⟩ := Prod.mk.inj same
  have longer : longLines.LogsTo "sink.log" threeBackups.rotationBackupCount := ⟨rfl, rfl, rfl⟩
  have keeps : ∀ action ∈ beforeStop ++ .stop :: (whileStopping ++ [.stopReturn]),
      action.KeepsLog "sink.log" threeBackups.rotationBackupCount := by
    simp only [beforeStop, whileStopping, List.cons_append, List.nil_append, List.forall_mem_cons]
    simp [SinkAction.KeepsLog, longer]
  have kept := @rotation_keeps_log "sink.log" (by decide) threeBackups ⟨rfl, rfl, rfl⟩ gapInBackups
    _ _ keeps ran
  refine ⟨atStop, final, reached, ran, rotations, oldest, by decide +kernel,
    (kept.1 _ ⟨_, List.prefix_rfl, ran⟩).2.1, accepted, ?_⟩
  exact kept.2 _ _ _ rfl (by simp [beforeStop]) (by simp [beforeStop]) (by simp [whileStopping])
    reached

end TcpSim.Engine
