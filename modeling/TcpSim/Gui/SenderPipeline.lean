import TcpSim.Gui.Controller
import TcpSim.Lib.Interleaving
import Mathlib.Logic.Function.Basic

/-! The sender side of the controller as its requests interleave: the bodies of
`_start_transmission_async` and `_stop_transport_async`, cut at the awaits where another
request can run. -/

set_option autoImplicit false

namespace TcpSim.Gui.Interleaved

/-- A transport object: `_running`, or for a UDP client whether `_transport` is set. -/
structure Transport where
  kind : TransportKind
  started : Bool
  deriving DecidableEq, Repr

/-- `_run_task` of a simulator engine. -/
inductive EngineTask where
  | absent
  | running
  | cancelled
  | ended
  deriving DecidableEq, Repr

/-- The fields that the requests share. Transports and engines are numbered in the order in
which they were created; `built` and `created` say how many there are. -/
structure Pipeline where
  transports : Nat → Transport := fun _ => { kind := .tcpServer, started := false }
  built : Nat := 0
  engines : Nat → EngineTask := fun _ => .absent
  created : Nat := 0
  activeTransport : Option Nat := none
  engine : Option Nat := none
  statsTask : Bool := false

/-- The inputs of a start, with what the calls outside the controller raise. -/
structure Launch where
  settings : RuntimeSettings
  load : Option ErrorKind := none
  construct : Option ErrorKind := none
  /-- Raised by `start` of the transport before it gives way. -/
  startNow : Option ErrorKind := none
  /-- Raised by `start` of the transport after it gave way. -/
  startLater : Option ErrorKind := none
  lineControlsRejected : Bool := false
  deriving DecidableEq, Repr

/-- What follows a call of `_stop_transport_async`. -/
inductive After where
  | nothing
  | build (launch : Launch)
  deriving DecidableEq, Repr

/-- Where a request waits. -/
inductive Point where
  | done
  | statsStopping (after : After)
  | engineStopping (engine : Nat) (after : After)
  | transportStopping (transport : Nat) (after : After)
  | transportStarting (transport : Nat) (launch : Launch)
  | engineStarting
  deriving DecidableEq, Repr

/-- Whether waiting for something that is already over gives way to other requests. -/
structure StopAwaits where
  stats : Bool := true
  engine : Bool := true
  transport : Bool := true
  deriving DecidableEq, Repr

abbrev Block := Pipeline → Pipeline × Point

namespace Pipeline

def setStarted (self : Pipeline) (transport : Nat) (started : Bool) : Pipeline :=
  { self with
    transports := Function.update self.transports transport
      { self.transports transport with started } }

def setEngine (self : Pipeline) (engine : Nat) (task : EngineTask) : Pipeline :=
  { self with engines := Function.update self.engines engine task }

/-- A new transport, published before it is started. -/
def publish (self : Pipeline) (kind : TransportKind) : Pipeline :=
  { self with
    transports := Function.update self.transports self.built { kind, started := false }
    built := self.built + 1
    activeTransport := some self.built }

/-- A new engine, without a task yet. -/
def createEngine (self : Pipeline) : Pipeline :=
  { self with
    engines := Function.update self.engines self.created .absent
    created := self.created + 1
    engine := some self.created }

def clearTransport (self : Pipeline) : Pipeline := { self with activeTransport := none }

/-- The end of `SimulatorEngine.stop`, and `_engine = None`. -/
def clearEngine (self : Pipeline) (engine : Nat) : Pipeline :=
  { self.setEngine engine .absent with engine := none }

end Pipeline

/-! ## `_stop_transport_async` -/

/-- The servers return from `stop` at once unless they are running; a UDP client always
sleeps, a TCP client waits for its task and its connection. -/
def Transport.stopGivesWay (self : Transport) (awaits : Bool) : Bool :=
  match self.kind with
  | .tcpServer | .udpServer => self.started
  | .tcpClient => self.started || awaits
  | .udpClient => true

def EngineTask.stopGivesWay (self : EngineTask) (awaits : Bool) : Bool :=
  match self with
  | .absent => false
  | .running => true
  | .cancelled | .ended => awaits

def EngineTask.cancel : EngineTask → EngineTask
  | .running => .cancelled
  | task => task

def finish : Block := fun self => (self, .done)

section Stop

variable (awaits : StopAwaits) (after : After) (next : Block)

def stopActiveTransport : Block := fun self =>
  match self.activeTransport with
  | none => next self
  | some transport =>
      if (self.transports transport).stopGivesWay awaits.transport then
        (self.setStarted transport false, .transportStopping transport after)
      else next self.clearTransport

def stopEngine : Block := fun self =>
  match self.engine with
  | none => stopActiveTransport awaits after next self
  | some engine =>
      if (self.engines engine).stopGivesWay awaits.engine then
        (self.setEngine engine (self.engines engine).cancel, .engineStopping engine after)
      else stopActiveTransport awaits after next (self.clearEngine engine)

def stopTransport : Block := fun self =>
  if self.statsTask && awaits.stats then (self, .statsStopping after)
  else stopEngine awaits after next { self with statsTask := false }

end Stop

/-! ## `_start_transmission_async` -/

/-- The handler: other exceptions escape. -/
def fail (awaits : StopAwaits) (error : ErrorKind) : Block :=
  if error.failsTransmission then stopTransport awaits .nothing finish else finish

/-- A TCP client is running as soon as `start` is called. -/
def startTransport (awaits : StopAwaits) (launch : Launch) (transport : Nat) : Block := fun self =>
  if (self.transports transport).kind = .tcpClient then
    (self.setStarted transport true, .transportStarting transport launch)
  else
    match launch.startNow with
    | some error => fail awaits error self
    | none => (self, .transportStarting transport launch)

def build (awaits : StopAwaits) (launch : Launch) : Block := fun self =>
  match transportKind launch.settings, launch.construct with
  | none, _ => fail awaits .valueError self
  | some _, some error => fail awaits error self
  | some kind, none => startTransport awaits launch self.built (self.publish kind)

def runAfter (awaits : StopAwaits) : After → Block
  | .nothing => finish
  | .build launch => build awaits launch

def startTransmission (awaits : StopAwaits) (launch : Launch) : Block := fun self =>
  match launch.load with
  | some error => fail awaits error self
  | none =>
      if self.activeTransport.isSome then
        stopTransport awaits (.build launch) (build awaits launch) self
      else build awaits launch self

def startEngine (awaits : StopAwaits) (launch : Launch) : Block := fun self =>
  if launch.lineControlsRejected then fail awaits .valueError self.createEngine
  else (self.createEngine.setEngine self.created .running, .engineStarting)

def transportStarted (awaits : StopAwaits) (transport : Nat) (launch : Launch) : Block :=
  fun self =>
    if (self.transports transport).kind = .tcpClient then startEngine awaits launch self
    else
      match launch.startLater with
      | some error => fail awaits error self
      | none => startEngine awaits launch (self.setStarted transport true)

def Point.resume (awaits : StopAwaits) : Point → Option Block
  | .done => none
  | .statsStopping after => some fun self =>
      stopEngine awaits after (runAfter awaits after) { self with statsTask := false }
  | .engineStopping engine after => some fun self =>
      stopActiveTransport awaits after (runAfter awaits after) (self.clearEngine engine)
  | .transportStopping _ after => some fun self => runAfter awaits after self.clearTransport
  | .transportStarting transport launch => some (transportStarted awaits transport launch)
  | .engineStarting => some fun self => finish { self with statsTask := true }

/-! ## Requests -/

abbrev System := Interleaving.Pool Pipeline Point

def idleSystem : System where
  shared := {}
  points := []

inductive Event where
  | startTransmission (launch : Launch) (awaits : StopAwaits)
  | stopTransport (awaits : StopAwaits)
  | resume (request : Nat) (awaits : StopAwaits)
  /-- The task of an engine ends by itself. -/
  | engineEnds (engine : Nat)
  deriving DecidableEq, Repr

def step (self : System) : Event → Option System
  | .startTransmission launch awaits => some (self.launch (startTransmission awaits launch))
  | .stopTransport awaits => some (self.launch (stopTransport awaits .nothing finish))
  | .resume request awaits => self.advance request (Point.resume awaits)
  | .engineEnds engine =>
      if self.shared.engines engine = .running then
        some { self with shared := self.shared.setEngine engine .ended }
      else none

end TcpSim.Gui.Interleaved
