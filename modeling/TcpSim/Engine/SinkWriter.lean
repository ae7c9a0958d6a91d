import TcpSim.Engine.SinkFile
import TcpSim.Lib.Runs

/-! The sink writer: a queue filled by `submit`, drained by a background task
and reconfigured between two records. One step is what runs between two awaits. -/

set_option autoImplicit false

namespace TcpSim.Engine

/-- The drain task: created but not begun, at `queue.get()`, ended on the stop
sentinel, or ended by an exception. -/
inductive DrainTask where
  | created
  | running
  | finished
  | failed
  deriving DecidableEq, Repr

/-- A requested configuration; `done` names its event. -/
structure PendingConfig where
  cfg : SinkConfig
  done : Nat

structure SinkWriter where
  cfg : SinkConfig
  file : SinkFile
  queue : List QueueItem := []
  queuedBytes : Int := 0
  recordsDropped : Nat := 0
  backpressured : Bool := false
  task : Option DrainTask := none
  pendingConfig : Option PendingConfig := none
  /-- A `stop` call is waiting for the drain task. -/
  stopWaiting : Bool := false
  /-- The next event name, and the events that are set. -/
  nextEvent : Nat := 0
  doneEvents : List Nat := []
  /-- History: the items `submit` took while enabled, and how many it refused. -/
  accepted : List QueueItem := []
  refused : Nat := 0

/-- The constructor, on a given disk. -/
def SinkWriter.init (cfg : SinkConfig) (files : String → Option Bytes) : SinkWriter :=
  { cfg, file := { disk := { files }, statsPath := cfg.path } }

def SinkWriter.emit (self : SinkWriter) (event : SinkEvent) : SinkWriter :=
  { self with file := { self.file with events := self.file.events ++ [event] } }

def SinkWriter.updateBackpressure (self : SinkWriter) : SinkWriter :=
  if !self.backpressured && self.queuedBytes ≥ self.cfg.queueHighWatermarkBytes then
    { self with backpressured := true }.emit (.highWatermark self.queuedBytes)
  else if self.backpressured && self.queuedBytes ≤ self.cfg.queueLowWatermarkBytes then
    { self with backpressured := false }.emit (.lowWatermark self.queuedBytes)
  else self

/-- Non-blocking enqueue; the result is `false` when the record was dropped. -/
def SinkWriter.submit (self : SinkWriter) (record : FramedRecord) (src : String) :
    Bool × SinkWriter :=
  if !self.cfg.enabled then (true, self)
  else
    let size := record.payload.length
    if self.queuedBytes + size > self.cfg.queueMaxBytes then
      (false, { self with
        recordsDropped := self.recordsDropped + 1
        refused := self.refused + 1 }.emit (.recordDropped "queue_full" src size))
    else
      let item : QueueItem := { record := record, src := src }
      (true, { self with
        queuedBytes := self.queuedBytes + size
        queue := self.queue ++ [item]
        accepted := self.accepted ++ [item] }.updateBackpressure)

/-- Run a file routine with the given faults ahead of it. -/
def SinkWriter.runFile {α : Type} (self : SinkWriter) (faults : List Bool)
    (routine : FileM α) : EStateM.Result FileError SinkFile α :=
  routine { self.file with disk := { self.file.disk with faults } }

/-- The reopening in `_apply_pending_config`, when path or enabled flag change. -/
def reopenIfChanged (old new : SinkConfig) : FileM Unit := do
  if new.path ≠ old.path ∨ new.enabled ≠ old.enabled then
    modify closeFile
    openFileIfEnabled new

def SinkWriter.applyPendingConfig (self : SinkWriter) (opening : List Bool) :
    EStateM.Result FileError SinkWriter Unit :=
  match self.pendingConfig with
  | none => .ok () self
  | some pending =>
      let taken := { self with pendingConfig := none, cfg := pending.cfg }
      match self.runFile opening (reopenIfChanged self.cfg pending.cfg) with
      | .error error file => .error error { taken with file }
      | .ok _ file =>
          .ok () ({ taken with
            file := { file with statsPath := pending.cfg.path }
            doneEvents := self.doneEvents ++ [pending.done] }.emit
              (.reconfigured pending.cfg.path pending.cfg.format pending.cfg.enabled))

/-- The `finally` clause of a record: take its bytes off the account. -/
def SinkWriter.release (self : SinkWriter) (item : QueueItem) : SinkWriter :=
  { self with queuedBytes := self.queuedBytes - item.size }.updateBackpressure

/-- The drain loop's treatment of one data item, once the configuration is settled. -/
def SinkWriter.handleRecord (self : SinkWriter) (item : QueueItem) (now : String)
    (writing : List Bool) : SinkWriter :=
  if !self.cfg.enabled || self.file.fh.isNone then
    -- Disabled mid-flight: the record is dropped.
    self.release item
  else
    match self.runFile writing (writeRecord self.cfg now item) with
    | .ok _ file => { self with file }.release item
    | .error error file =>
        { self with file }.emit (.error error file.currentPath) |>.release item

/-- One turn of the drain loop on the item that `queue.get()` returned. -/
def SinkWriter.turn (self : SinkWriter) (item : QueueItem) (now : String)
    (opening writing : List Bool) : SinkWriter :=
  match self.applyPendingConfig opening with
  | .error _ self => { self with file := closeFile self.file, task := some .failed }
  | .ok _ self =>
      if item.stop then { self with file := closeFile self.file, task := some .finished }
      else if item.record.payload = [] ∧ item.src = "" then self
      else self.handleRecord item now writing

/-- The part of `_run` before its loop. -/
def SinkWriter.begin (self : SinkWriter) (opening : List Bool) : SinkWriter :=
  match self.runFile opening (openFileIfEnabled self.cfg) with
  | .error _ file => { self with file := closeFile file, task := some .failed }
  | .ok _ file =>
      let opened := { self with file, task := some .running }
      if self.cfg.enabled && file.currentPath.isSome then
        opened.emit (.started file.currentPath self.cfg.format)
      else opened

/-- `configure`, up to its wait. -/
def SinkWriter.configure (self : SinkWriter) (cfg : SinkConfig) : SinkWriter :=
  match self.task with
  | none => { self with cfg, file := { self.file with statsPath := cfg.path } }
  | some _ =>
      { self with
        pendingConfig := some { cfg, done := self.nextEvent }
        nextEvent := self.nextEvent + 1
        queue := self.queue ++ [.wakeUp] }

/-- `stop` after its wait for the drain task. -/
def SinkWriter.stopped (self : SinkWriter) : SinkWriter :=
  { self with task := none, stopWaiting := false, file := closeFile self.file }.emit .stopped

inductive SinkAction where
  | start
  /-- The drain task runs for the first time. -/
  | begin (opening : List Bool)
  | submit (record : FramedRecord) (src : String)
  | configure (cfg : SinkConfig)
  /-- The drain task takes an item; the lists are the faults of reopening and writing. -/
  | drain (now : String) (opening writing : List Bool)
  | stop
  /-- `wait_for` in `stop` returns or raises because the task has ended. -/
  | stopReturn
  /-- `wait_for` times out and the task is cancelled at `queue.get()`. -/
  | stopTimeout

/-- One step; `none` when the action is not possible. Calls of `stop` do not
overlap, which `ReceiverEngine.stop` sees to. -/
def SinkWriter.step (self : SinkWriter) : SinkAction → Option SinkWriter
  | .start =>
      match self.task with
      | none => some { self with task := some .created }
      | some _ => some self
  | .begin opening =>
      if self.task = some .created then some (self.begin opening) else none
  | .submit record src => some (self.submit record src).2
  | .configure cfg => some (self.configure cfg)
  | .drain now opening writing =>
      match self.task, self.queue with
      | some .running, item :: queue =>
          some ({ self with queue }.turn item now opening writing)
      | _, _ => none
  | .stop =>
      if self.stopWaiting then none
      else
        match self.task with
        | none => some self
        | some _ => some { self with
            queue := self.queue ++ [.stopSentinel], stopWaiting := true }
  | .stopReturn =>
      if self.stopWaiting then
        match self.task with
        | some .finished => some self.stopped
        | some .failed => some { self with stopWaiting := false }
        | _ => none
      else none
  | .stopTimeout =>
      if self.stopWaiting then
        match self.task with
        | some .created | some .running => some self.stopped
        | _ => none
      else none

/-- What a step does, one constructor for each branch. -/
inductive SinkWriter.Steps (sink : SinkWriter) : SinkAction → SinkWriter → Prop where
  | starts (idle : sink.task = none) : Steps sink .start { sink with task := some .created }
  | startsNothing (busy : sink.task ≠ none) : Steps sink .start sink
  | begins (opening : List Bool) (created : sink.task = some .created) :
      Steps sink (.begin opening) (sink.begin opening)
  | submits (record : FramedRecord) (src : String) :
      Steps sink (.submit record src) (sink.submit record src).2
  | configures (cfg : SinkConfig) : Steps sink (.configure cfg) (sink.configure cfg)
  | turns (now : String) (opening writing : List Bool) {item : QueueItem} {queue : List QueueItem}
      (running : sink.task = some .running) (head : sink.queue = item :: queue) :
      Steps sink (.drain now opening writing) ({ sink with queue }.turn item now opening writing)
  | stopsNothing (free : sink.stopWaiting = false) (idle : sink.task = none) :
      Steps sink .stop sink
  | stops (free : sink.stopWaiting = false) (busy : sink.task ≠ none) :
      Steps sink .stop { sink with queue := sink.queue ++ [.stopSentinel], stopWaiting := true }
  | returns (waits : sink.stopWaiting = true) (finished : sink.task = some .finished) :
      Steps sink .stopReturn sink.stopped
  | raises (waits : sink.stopWaiting = true) (failed : sink.task = some .failed) :
      Steps sink .stopReturn { sink with stopWaiting := false }
  | givesUp (waits : sink.stopWaiting = true)
      (live : sink.task = some .created ∨ sink.task = some .running) :
      Steps sink .stopTimeout sink.stopped

theorem SinkWriter.steps_of_step {sink next : SinkWriter} {action : SinkAction}
    (taken : sink.step action = some next) : sink.Steps action next := by
  cases action with
  | start =>
      simp only [SinkWriter.step] at taken
      split at taken
      next idle =>
          cases taken
          exact .starts idle
      next busy =>
          cases taken
          exact .startsNothing (by simp [busy])
  | begin opening =>
      simp only [SinkWriter.step] at taken
      split at taken
      next created =>
          cases taken
          exact .begins opening created
      next => cases taken
  | submit record src =>
      cases taken
      exact .submits record src
  | configure cfg =>
      cases taken
      exact .configures cfg
  | drain now opening writing =>
      simp only [SinkWriter.step] at taken
      split at taken
      next item queue running head =>
          cases taken
          exact .turns now opening writing running head
      next => cases taken
  | stop =>
      simp only [SinkWriter.step] at taken
      split at taken
      next => cases taken
      next free =>
          have free := eq_false_of_ne_true free
          split at taken
          next idle =>
              cases taken
              exact .stopsNothing free idle
          next busy =>
              cases taken
              exact .stops free (by simp [busy])
  | stopReturn =>
      simp only [SinkWriter.step] at taken
      split at taken
      next waits =>
          split at taken
          next finished =>
              cases taken
              exact .returns waits finished
          next failed =>
              cases taken
              exact .raises waits failed
          next => cases taken
      next => cases taken
  | stopTimeout =>
      simp only [SinkWriter.step] at taken
      split at taken
      next waits =>
          split at taken
          next created =>
              cases taken
              exact .givesUp waits (.inl created)
          next running =>
              cases taken
              exact .givesUp waits (.inr running)
          next => cases taken
      next => cases taken

/-- The items `submit` put on the queue: neither sentinel nor wake-up. -/
def QueueItem.isData (item : QueueItem) : Bool :=
  !item.stop && !(item.record.payload = [] && item.src = "")

end TcpSim.Engine
