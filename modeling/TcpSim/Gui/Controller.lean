import TcpSim.Engine.Framer
import TcpSim.Lib.Effects

/-! The controller between window and engines: its entry points, each run to completion.
What the calls into transports, engines and files do is given by an outcome per call. -/

set_option autoImplicit false

namespace TcpSim.Gui

open Engine

/-- The exception classes that the controller tells apart. -/
inductive ErrorKind where
  | osError
  | runtimeError
  | valueError
  | csvError
  | other
  deriving DecidableEq, Repr

structure Raised where
  kind : ErrorKind
  text : String
  deriving DecidableEq, Repr

inductive TransportKind where
  | tcpServer
  | tcpClient
  | udpServer
  | udpClient
  deriving DecidableEq, Repr

/-- The fields of `RuntimeSettings` that the controller itself reads. -/
structure RuntimeSettings where
  mode : String
  protocol : String
  host : String
  port : Int
  deriving DecidableEq, Repr

structure StreamSettings where
  filePath : String
  delimiter : String := ","
  hasHeader : Bool := true
  sendHeader : Bool := true
  loop : Bool := true
  stripLf : Bool := false
  stripCr : Bool := false
  velocityCompatibilityMode : Bool := false
  deriving DecidableEq, Repr

/-- `_line_controls`: start line, end line, first n. -/
structure LineControls where
  startLine : Option Int := none
  endLine : Option Int := none
  firstN : Option Int := none
  deriving DecidableEq, Repr

def LineControls.isSet (self : LineControls) : Bool :=
  self.startLine.isSome || self.endLine.isSome || self.firstN.isSome

/-- A simulator engine, by the number of its initial records. -/
structure SimulatorEngine where
  records : Nat
  deriving DecidableEq, Repr

inductive Role where
  | sender
  | receiver
  deriving DecidableEq, Repr

structure Controller where
  status : List String := []
  activeTransport : Option TransportKind := none
  activeSettings : Option RuntimeSettings := none
  streamSettings : Option StreamSettings := none
  engine : Option SimulatorEngine := none
  statsTask : Bool := false
  lineControls : LineControls := {}
  receiverEngine : Option TransportKind := none
  receiverTransport : Option TransportKind := none
  receiverStatsTask : Bool := false
  activeRole : Role := .sender
  deriving DecidableEq, Repr

abbrev ControllerM := EStateM Raised Controller

def emit (message : String) : ControllerM Unit :=
  modify fun self => { self with status := self.status ++ [message] }

/-- A call that returns, or raises what its outcome says. -/
def call : Option Raised → ControllerM Unit
  | none => return
  | some raised => throw raised

/-! ## Sender -/

/-- The awaits of `_stop_transport_async`. -/
structure StopOutcome where
  engineStop : Option Raised := none
  transportStop : Option Raised := none

def stopEngine (outcome : Option Raised) : ControllerM Unit := do
  if (← get).engine.isSome then
    call outcome
    modify fun self => { self with engine := none }
    emit "Transmission stopped."

def stopActiveTransport (outcome : Option Raised) : ControllerM Unit := do
  if (← get).activeTransport.isSome then
    call outcome
    emit "Transport stopped."
    modify fun self => { self with activeTransport := none, activeSettings := none }
    emit "__connections__:0"
    emit "__progress__:0:0"
    emit "__rate__:0.0:0.0"
    emit "__sent__:0:0"

def stopTransportAsync (outcome : StopOutcome) : ControllerM Unit := do
  modify fun self => { self with statsTask := false }
  stopEngine outcome.engineStop
  stopActiveTransport outcome.transportStop

/-- The dispatch of `_build_transport` and `_build_receiver_transport`. -/
def transportKind (settings : RuntimeSettings) : Option TransportKind :=
  match settings.protocol.toLower, settings.mode.toLower with
  | "tcp", "server" => some .tcpServer
  | "tcp", "client" => some .tcpClient
  | "udp", "server" => some .udpServer
  | "udp", "client" => some .udpClient
  | _, _ => none

/-- The `ValueError` of a combination that has no transport. -/
def unsupported (receiver : String) (settings : RuntimeSettings) : Raised where
  kind := .valueError
  text := "Unsupported " ++ receiver ++ "mode/protocol combination: " ++
    settings.mode.toLower ++ "/" ++ settings.protocol.toLower

/-- Build a transport; `construct` is the outcome of its constructor. -/
def build (receiver : String) (settings : RuntimeSettings) (construct : Option Raised) :
    ControllerM TransportKind :=
  match transportKind settings with
  | some kind => do
      call construct
      return kind
  | none => throw (unsupported receiver settings)

def buildTransport (settings : RuntimeSettings) (construct : Option Raised) :
    ControllerM TransportKind :=
  build "" settings construct

def started (what : String) (settings : RuntimeSettings) : String :=
  what ++ " started: " ++ settings.mode ++ "/" ++ settings.protocol ++ " on " ++
    settings.host ++ ":" ++ toString settings.port

/-- `isinstance(self._active_transport, TcpServerSender)`: tell its connection count. -/
def emitConnections (connected : Nat) : ControllerM Unit := do
  if (← get).activeTransport = some .tcpServer then
    emit ("__connections__:" ++ toString connected)

/-- The common part of `_start_transmission_async` and `_apply_settings_async`: stop what
is active, then build, publish and start the new transport. -/
structure BindOutcome where
  rebind : StopOutcome := {}
  construct : Option Raised := none
  start : Option Raised := none
  connected : Nat := 0

def rebindIfActive (outcome : StopOutcome) : ControllerM Unit := do
  if (← get).activeTransport.isSome then
    emit "Applying controlled stop/rebind transition..."
    stopTransportAsync outcome

def bindTransport (settings : RuntimeSettings) (stream : Option StreamSettings)
    (outcome : BindOutcome) : ControllerM Unit := do
  rebindIfActive outcome.rebind
  let transport ← buildTransport settings outcome.construct
  modify fun self => { self with
    activeTransport := some transport, activeSettings := some settings, streamSettings := stream }
  call outcome.start
  emit (started "Transport" settings)
  emitConnections outcome.connected

def applySettingsAsync (settings : RuntimeSettings) (outcome : BindOutcome) : ControllerM Unit :=
  bindTransport settings none outcome

/-- The message of `_apply_velocity_compatibility_preset` about its updates. -/
def presetMessage (updates : List String) : String :=
  if updates = [] then "Velocity compatibility preset enabled."
  else "Velocity compatibility preset applied: " ++ ", ".intercalate updates ++ "."

def applyVelocityCompatibilityPreset (stream : StreamSettings) : ControllerM StreamSettings :=
  if !stream.velocityCompatibilityMode then return stream
  else do
    emit (presetMessage ((if stream.sendHeader then ["send_header=False"] else []) ++
      (if stream.stripLf then ["strip_lf=False"] else [])))
    return { stream with sendHeader := false, stripLf := false }

/-- `_apply_velocity_compatibility_preset`, with what it tells. -/
def StreamSettings.preset (self : StreamSettings) : StreamSettings × List String :=
  if !self.velocityCompatibilityMode then (self, [])
  else
    ({ self with sendHeader := false, stripLf := false },
      [presetMessage ((if self.sendHeader then ["send_header=False"] else []) ++
        (if self.stripLf then ["strip_lf=False"] else []))])

/-- What `_load_records` returns: the number of records and the header. -/
structure Loaded where
  records : Nat
  headerPayload : Option Bytes

structure StartOutcome where
  load : Except Raised Loaded
  bind : BindOutcome := {}
  lineControls : Option Raised := none
  engineStart : Option Raised := none
  /-- `scheduler.current_line` and `scheduler.total_lines` after the start. -/
  progress : Nat × Nat := (0, 0)
  cleanup : StopOutcome := {}

/-- `set_line_controls` on the new engine, if any control is set. -/
def setLineControls (outcome : Option Raised) : ControllerM Unit := do
  if (← get).lineControls.isSet then call outcome

def reportEmpty (loaded : Loaded) : ControllerM Unit :=
  if loaded.records = 0 ∧ loaded.headerPayload.getD [] = [] then
    emit "No valid records were loaded. Check delimiter/header settings and input file contents."
  else return

/-- What is told once the engine is running. -/
def reportStarted (stream : StreamSettings) (loaded : Loaded) (progress : Nat × Nat) :
    ControllerM Unit := do
  emit ("__progress__:" ++ toString progress.1 ++ ":" ++ toString progress.2)
  emit "__rate__:0.0:0.0"
  emit "__sent__:0:0"
  emit ("Transmission started with " ++ toString loaded.records ++ " valid records from " ++
    stream.filePath ++ ".")
  reportEmpty loaded

/-- The body of the `try` of `_start_transmission_async`. -/
def startTransmissionBody (settings : RuntimeSettings) (stream : StreamSettings)
    (outcome : StartOutcome) : ControllerM Unit := do
  let stream ← applyVelocityCompatibilityPreset stream
  let loaded ← MonadExcept.ofExcept outcome.load
  bindTransport settings (some stream) outcome.bind
  modify fun self => { self with engine := some { records := loaded.records } }
  setLineControls outcome.lineControls
  call outcome.engineStart
  modify fun self => { self with statsTask := true }
  reportStarted stream loaded outcome.progress

/-- The exceptions that `_start_transmission_async` handles. -/
def ErrorKind.failsTransmission (kind : ErrorKind) : Bool := kind != .other

def startTransmissionAsync (settings : RuntimeSettings) (stream : StreamSettings)
    (outcome : StartOutcome) : ControllerM Unit :=
  tryCatch (startTransmissionBody settings stream outcome) fun raised => do
    if raised.kind.failsTransmission then
      emit ("Failed to start transmission: " ++ raised.text)
      stopTransportAsync outcome.cleanup
    else throw raised

/-! ## Receiver -/

/-- How `wait_for(engine.stop(), timeout=5.0)` ends. -/
inductive ReceiverStop where
  | stopped
  | timedOut
  | raised (repr : String)
  deriving DecidableEq, Repr

def ReceiverStop.message : ReceiverStop → String
  | .stopped => "Reception stopped."
  | .timedOut => "Reception stop timed out after 5s; forcing teardown. " ++
      "Check JSON log for receiver_stop_timeout."
  | .raised repr => "Reception stop raised: " ++ repr

/-- The state is detached first, whatever becomes of the stop. -/
def detachReceiver (outcome : ReceiverStop) : ControllerM Unit := do
  if (← get).receiverEngine.isSome then
    modify fun self => { self with receiverEngine := none, receiverTransport := none }
    emit outcome.message
    emit "__receiver_records__:0:0"
    emit "__receiver_sink__:disabled:0:0"

def leaveReceiverRole (self : Controller) : Controller :=
  if self.activeRole = .receiver then { self with activeRole := .sender, activeSettings := none }
  else self

def stopReceptionAsync (outcome : ReceiverStop) : ControllerM Unit := do
  modify fun self => { self with receiverStatsTask := false }
  detachReceiver outcome
  modify leaveReceiverRole

structure ReceptionOutcome where
  stopSender : StopOutcome := {}
  stopReceiver : ReceiverStop := .stopped
  /-- `FramingMode(receiver_settings.framing_mode)`. -/
  framing : Option Raised := none
  construct : Option Raised := none
  /-- `to_sink_config`. -/
  sinkConfig : Option Raised := none
  start : Option Raised := none
  cleanup : ReceiverStop := .stopped

def leaveSenderRole (outcome : StopOutcome) : ControllerM Unit := do
  let self ← get
  if self.activeTransport.isSome || self.engine.isSome then
    emit "Switching to receiver role; stopping sender..."
    stopTransportAsync outcome

def stopRunningReceiver (outcome : ReceiverStop) : ControllerM Unit := do
  if (← get).receiverEngine.isSome then stopReceptionAsync outcome

/-- The body of the `try` of `_start_reception_async`. -/
def startReceptionBody (settings : RuntimeSettings) (outcome : ReceptionOutcome) :
    ControllerM Unit := do
  leaveSenderRole outcome.stopSender
  stopRunningReceiver outcome.stopReceiver
  call outcome.framing
  let transport ← build "receiver " settings outcome.construct
  call outcome.sinkConfig
  modify fun self => { self with
    receiverTransport := some transport
    receiverEngine := some transport
    activeSettings := some settings
    activeRole := .receiver }
  call outcome.start
  emit (started "Reception" settings)
  modify fun self => { self with receiverStatsTask := true }

/-- The exceptions that `_start_reception_async` handles. -/
def ErrorKind.failsReception (kind : ErrorKind) : Bool := kind != .csvError && kind != .other

def startReceptionAsync (settings : RuntimeSettings) (outcome : ReceptionOutcome) :
    ControllerM Unit :=
  tryCatch (startReceptionBody settings outcome) fun raised => do
    if raised.kind.failsReception then
      emit ("Failed to start reception: " ++ raised.text)
      stopReceptionAsync outcome.cleanup
    else throw raised

/-- The fields of `SinkSettings` that the controller's message names. -/
structure SinkSettings where
  enabled : Bool := false
  path : Option String := none
  format : String := "jsonl"
  deriving DecidableEq, Repr

/-- `_configure_sink_async`; the outcomes are of `to_sink_config` and `configure_sink`. -/
def configureSinkAsync (sink : SinkSettings) (config configure : Option Raised) :
    ControllerM Unit := do
  if (← get).receiverEngine.isNone then
    emit "No active receiver; sink configuration ignored."
  else
    call config
    call configure
    emit ("Sink reconfigured: enabled=" ++ (if sink.enabled then "True" else "False") ++
      ", format=" ++ sink.format ++ ", path=" ++ sink.path.getD "None")

/-! ## Entry points -/

inductive Request where
  | startTransmission (settings : RuntimeSettings) (stream : StreamSettings)
      (outcome : StartOutcome)
  | applySettings (settings : RuntimeSettings) (outcome : BindOutcome)
  | startReception (settings : RuntimeSettings) (outcome : ReceptionOutcome)
  | configureSink (sink : SinkSettings) (config configure : Option Raised)
  | stopTransport (outcome : StopOutcome)
  | stopReception (outcome : ReceiverStop)

def Request.program : Request → ControllerM Unit
  | .startTransmission settings stream outcome => startTransmissionAsync settings stream outcome
  | .applySettings settings outcome => applySettingsAsync settings outcome
  | .startReception settings outcome => startReceptionAsync settings outcome
  | .configureSink sink config configure => configureSinkAsync sink config configure
  | .stopTransport outcome => stopTransportAsync outcome
  | .stopReception outcome => stopReceptionAsync outcome

/-- Run a request to completion; an exception that escapes ends it as well. -/
def Controller.complete (self : Controller) (request : Request) : Option Controller :=
  some (Effects.final (request.program self))

end TcpSim.Gui
