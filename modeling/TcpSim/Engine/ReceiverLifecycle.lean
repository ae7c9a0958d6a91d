import TcpSim.Engine.SinkWriter
import TcpSim.Lib.Runs

/-! `start` and `stop` of the receiver engine, one call at a time. The sink is the sink
writer; the transport is any one of the receivers, whose calls may return or raise. -/

set_option autoImplicit false

namespace TcpSim.Engine

/-- Where the call in progress waits. -/
inductive LifecyclePoint where
  | idle
  | startingTransport
  | stoppingTransport
  | stoppingSink
  deriving DecidableEq, Repr

inductive CallEnd where
  | startReturned
  | startRaised
  | stopReturned
  | stopRaised
  deriving DecidableEq, Repr

/-- How a call of the transport ends; `held` says whether the transport then still holds
anything that its `start` acquired. -/
inductive TransportEnd where
  | returned
  | raised (held : Bool)
  deriving DecidableEq, Repr

structure ReceiverLifecycle where
  sink : SinkWriter
  /-- The transport holds what its `start` acquired. -/
  transportHeld : Bool := false
  started : Bool := false
  stopping : Bool := false
  point : LifecyclePoint := .idle
  /-- The end of a call in the last step. -/
  ended : Option CallEnd := none

namespace ReceiverLifecycle

def init (cfg : SinkConfig) (files : String → Option Bytes) : ReceiverLifecycle where
  sink := SinkWriter.init cfg files

variable (self : ReceiverLifecycle)

/-- The call returns or raises. -/
def finish (ended : CallEnd) : ReceiverLifecycle :=
  { self with point := .idle, ended := some ended }

/-- The `finally` clause of `stop`. -/
def finishStop (ended : CallEnd) : ReceiverLifecycle :=
  { self with started := false, stopping := false }.finish ended

/-- `start` up to its await of the transport. `sinkStarts` says whether `create_task` in the
sink's `start` returns, if it is called. -/
def start (sinkStarts : Bool) : ReceiverLifecycle :=
  if self.started then self.finish .startReturned
  else
    match self.sink.task with
    | some _ => { self with point := .startingTransport, ended := none }
    | none =>
        if sinkStarts then
          { self with
            sink := { self.sink with task := some .created }
            point := .startingTransport
            ended := none }
        else self.finish .startRaised

/-- The rest of `start`. -/
def transportStarted : TransportEnd → ReceiverLifecycle
  | .returned => { self with transportHeld := true, started := true }.finish .startReturned
  | .raised held => { self with transportHeld := self.transportHeld || held }.finish .startRaised

/-- `stop` up to its await of the transport. -/
def stop : ReceiverLifecycle :=
  if !self.started || self.stopping then self.finish .stopReturned
  else { self with stopping := true, point := .stoppingTransport, ended := none }

/-- `stop` from there up to its await in the sink's `stop`. -/
def transportStopped : TransportEnd → ReceiverLifecycle
  | .returned =>
      let released := { self with transportHeld := false }
      match self.sink.task with
      | none => released.finishStop .stopReturned
      | some _ =>
          { released with
            sink := { self.sink with
              queue := self.sink.queue ++ [.stopSentinel], stopWaiting := true }
            point := .stoppingSink
            ended := none }
  | .raised held => { self with transportHeld := held }.finishStop .stopRaised

/-- The end of the sink's `stop`: it raises what ended the drain task. -/
def sinkEnd : CallEnd :=
  if self.sink.task = some .failed then .stopRaised else .stopReturned

end ReceiverLifecycle

inductive LifecycleAction where
  | start (sinkStarts : Bool)
  | transportStarted (ended : TransportEnd)
  | stop
  | transportStopped (ended : TransportEnd)
  /-- The wait in the sink's `stop` is over, or has timed out. -/
  | sinkStopped (timeout : Bool)
  /-- The drain task, a record or a new configuration. -/
  | sink (action : SinkAction)

/-- The actions that are not calls of `start` and `stop` or their ends. -/
def SinkAction.isBackground : SinkAction → Bool
  | .begin _ => true
  | .submit .. => true
  | .configure _ => true
  | .drain .. => true
  | _ => false

/-- One step; `none` when the action is not possible. -/
def ReceiverLifecycle.step (self : ReceiverLifecycle) : LifecycleAction → Option ReceiverLifecycle
  | .start sinkStarts => if self.point = .idle then some (self.start sinkStarts) else none
  | .transportStarted ended =>
      if self.point = .startingTransport then some (self.transportStarted ended) else none
  | .stop => if self.point = .idle then some self.stop else none
  | .transportStopped ended =>
      if self.point = .stoppingTransport then some (self.transportStopped ended) else none
  | .sinkStopped timeout =>
      if self.point = .stoppingSink then
        (self.sink.step (if timeout then .stopTimeout else .stopReturn)).map fun sink =>
          { self with sink }.finishStop self.sinkEnd
      else none
  | .sink action =>
      if action.isBackground then
        (self.sink.step action).map fun sink => { self with sink, ended := none }
      else none

end TcpSim.Engine
