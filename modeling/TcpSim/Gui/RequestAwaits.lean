import TcpSim.Gui.Controller
import TcpSim.Lib.Coroutines

/-! The controller's requests with their awaits: there the transports report events, the loops of the
controller take their turns and the window reads what it is told. Where nothing of that happens, they
are the requests run to completion. -/

set_option autoImplicit false

namespace TcpSim.Gui

open Effects Coroutine

abbrev RequestM := Coroutine Raised Controller

/-- An awaited call that returns, or raises what its outcome says. -/
def awaitCall (outcome : Option Raised) : RequestM Unit := do
  await
  block (call outcome)

namespace RequestM

/-! ## Sender -/

/-- A cancelled status loop takes no further turn, and its end is awaited. -/
def stopStats : RequestM Unit := do
  if (← block get).statsTask then
    block (modify fun self => { self with statsTask := false })
    await

def stopEngine (outcome : Option Raised) : RequestM Unit := do
  if (← block get).engine.isSome then
    awaitCall outcome
    block do
      modify fun self => { self with engine := none }
      emit "Transmission stopped."

def stopActiveTransport (outcome : Option Raised) : RequestM Unit := do
  if (← block get).activeTransport.isSome then
    awaitCall outcome
    block do
      emit "Transport stopped."
      modify fun self => { self with activeTransport := none, activeSettings := none }
      emit "__connections__:0"
      emit "__progress__:0:0"
      emit "__rate__:0.0:0.0"
      emit "__sent__:0:0"

def stopTransportAsync (outcome : StopOutcome) : RequestM Unit := do
  stopStats
  stopEngine outcome.engineStop
  stopActiveTransport outcome.transportStop

def rebindIfActive (outcome : StopOutcome) : RequestM Unit := do
  if (← block get).activeTransport.isSome then
    block (emit "Applying controlled stop/rebind transition...")
    stopTransportAsync outcome

def bindTransport (settings : RuntimeSettings) (stream : Option StreamSettings)
    (outcome : BindOutcome) : RequestM Unit := do
  rebindIfActive outcome.rebind
  let transport ← block (buildTransport settings outcome.construct)
  block (modify fun self => { self with
    activeTransport := some transport, activeSettings := some settings, streamSettings := stream })
  awaitCall outcome.start
  block do
    emit (started "Transport" settings)
    emitConnections outcome.connected

def startTransmissionBody (settings : RuntimeSettings) (stream : StreamSettings)
    (outcome : StartOutcome) : RequestM Unit := do
  let stream ← block (applyVelocityCompatibilityPreset stream)
  let loaded ← block (MonadExcept.ofExcept outcome.load)
  bindTransport settings (some stream) outcome.bind
  block do
    modify fun self => { self with engine := some { records := loaded.records } }
    setLineControls outcome.lineControls
  awaitCall outcome.engineStart
  block do
    modify fun self => { self with statsTask := true }
    reportStarted stream loaded outcome.progress

def startTransmissionAsync (settings : RuntimeSettings) (stream : StreamSettings)
    (outcome : StartOutcome) : RequestM Unit :=
  (startTransmissionBody settings stream outcome).handle fun raised => do
    if raised.kind.failsTransmission then
      block (emit ("Failed to start transmission: " ++ raised.text))
      stopTransportAsync outcome.cleanup
    else .raises raised

/-! ## Receiver -/

def stopReceiverStats : RequestM Unit := do
  if (← block get).receiverStatsTask then
    block (modify fun self => { self with receiverStatsTask := false })
    await

def detachReceiver (outcome : ReceiverStop) : RequestM Unit := do
  if (← block get).receiverEngine.isSome then
    block (modify fun self => { self with receiverEngine := none, receiverTransport := none })
    await
    block do
      emit outcome.message
      emit "__receiver_records__:0:0"
      emit "__receiver_sink__:disabled:0:0"

def stopReceptionAsync (outcome : ReceiverStop) : RequestM Unit := do
  stopReceiverStats
  detachReceiver outcome
  block (modify leaveReceiverRole)

def leaveSenderRole (outcome : StopOutcome) : RequestM Unit := do
  let self ← block get
  if self.activeTransport.isSome || self.engine.isSome then
    block (emit "Switching to receiver role; stopping sender...")
    stopTransportAsync outcome

def stopRunningReceiver (outcome : ReceiverStop) : RequestM Unit := do
  if (← block get).receiverEngine.isSome then stopReceptionAsync outcome

def startReceptionBody (settings : RuntimeSettings) (outcome : ReceptionOutcome) :
    RequestM Unit := do
  leaveSenderRole outcome.stopSender
  stopRunningReceiver outcome.stopReceiver
  block (call outcome.framing)
  let transport ← block (build "receiver " settings outcome.construct)
  block (call outcome.sinkConfig)
  block (modify fun self => { self with
    receiverTransport := some transport
    receiverEngine := some transport
    activeSettings := some settings
    activeRole := .receiver })
  awaitCall outcome.start
  block do
    emit (started "Reception" settings)
    modify fun self => { self with receiverStatsTask := true }

def startReceptionAsync (settings : RuntimeSettings) (outcome : ReceptionOutcome) : RequestM Unit :=
  (startReceptionBody settings outcome).handle fun raised => do
    if raised.kind.failsReception then
      block (emit ("Failed to start reception: " ++ raised.text))
      stopReceptionAsync outcome.cleanup
    else .raises raised

def configureSinkAsync (sink : SinkSettings) (config configure : Option Raised) :
    RequestM Unit := do
  if (← block get).receiverEngine.isNone then
    block (emit "No active receiver; sink configuration ignored.")
  else
    block (call config)
    awaitCall configure
    block (emit ("Sink reconfigured: enabled=" ++ (if sink.enabled then "True" else "False") ++
      ", format=" ++ sink.format ++ ", path=" ++ sink.path.getD "None"))

end RequestM

/-- The request await by await. -/
def Request.coroutine : Request → RequestM Unit
  | .startTransmission settings stream outcome =>
      RequestM.startTransmissionAsync settings stream outcome
  | .applySettings settings outcome => RequestM.bindTransport settings none outcome
  | .startReception settings outcome => RequestM.startReceptionAsync settings outcome
  | .configureSink sink config configure => RequestM.configureSinkAsync sink config configure
  | .stopTransport outcome => RequestM.stopTransportAsync outcome
  | .stopReception outcome => RequestM.stopReceptionAsync outcome

/-! ## Without others -/

namespace RequestM

@[simp] theorem awaitCall_alone (outcome : Option Raised) :
    (awaitCall outcome).alone = call outcome := by
  simp [awaitCall]

/-- A loop that is not there is not there afterwards either. -/
theorem stopStats_alone :
    stopStats.alone = (modify fun self => { self with statsTask := false } : ControllerM Unit) := by
  funext self
  cases running : self.statsTask with
  | true => simp [stopStats, running]
  | false =>
      have same : { self with statsTask := false } = self := by rw [← running]
      simp [stopStats, running, same]

theorem stopEngine_alone (outcome : Option Raised) :
    (stopEngine outcome).alone = Gui.stopEngine outcome := by
  simp [stopEngine, Gui.stopEngine]

theorem stopActiveTransport_alone (outcome : Option Raised) :
    (stopActiveTransport outcome).alone = Gui.stopActiveTransport outcome := by
  simp [stopActiveTransport, Gui.stopActiveTransport]

theorem stopTransportAsync_alone (outcome : StopOutcome) :
    (stopTransportAsync outcome).alone = Gui.stopTransportAsync outcome := by
  simp [stopTransportAsync, Gui.stopTransportAsync, stopStats_alone, stopEngine_alone,
    stopActiveTransport_alone]

theorem rebindIfActive_alone (outcome : StopOutcome) :
    (rebindIfActive outcome).alone = Gui.rebindIfActive outcome := by
  simp [rebindIfActive, Gui.rebindIfActive, stopTransportAsync_alone]

theorem bindTransport_alone (settings : RuntimeSettings) (stream : Option StreamSettings)
    (outcome : BindOutcome) :
    (bindTransport settings stream outcome).alone = Gui.bindTransport settings stream outcome := by
  simp [bindTransport, Gui.bindTransport, rebindIfActive_alone]

theorem startTransmissionAsync_alone (settings : RuntimeSettings) (stream : StreamSettings)
    (outcome : StartOutcome) : (startTransmissionAsync settings stream outcome).alone =
      Gui.startTransmissionAsync settings stream outcome := by
  simp [startTransmissionAsync, Gui.startTransmissionAsync, startTransmissionBody,
    Gui.startTransmissionBody, bindTransport_alone, stopTransportAsync_alone]

theorem stopReceiverStats_alone : stopReceiverStats.alone =
    (modify fun self => { self with receiverStatsTask := false } : ControllerM Unit) := by
  funext self
  cases running : self.receiverStatsTask with
  | true => simp [stopReceiverStats, running]
  | false =>
      have same : { self with receiverStatsTask := false } = self := by rw [← running]
      simp [stopReceiverStats, running, same]

theorem stopReceptionAsync_alone (outcome : ReceiverStop) :
    (stopReceptionAsync outcome).alone = Gui.stopReceptionAsync outcome := by
  simp [stopReceptionAsync, Gui.stopReceptionAsync, stopReceiverStats_alone, detachReceiver,
    Gui.detachReceiver]

theorem startReceptionAsync_alone (settings : RuntimeSettings) (outcome : ReceptionOutcome) :
    (startReceptionAsync settings outcome).alone = Gui.startReceptionAsync settings outcome := by
  simp [startReceptionAsync, Gui.startReceptionAsync, startReceptionBody, Gui.startReceptionBody,
    leaveSenderRole, Gui.leaveSenderRole, stopRunningReceiver, Gui.stopRunningReceiver,
    stopTransportAsync_alone, stopReceptionAsync_alone]

theorem configureSinkAsync_alone (sink : SinkSettings) (config configure : Option Raised) :
    (configureSinkAsync sink config configure).alone =
      Gui.configureSinkAsync sink config configure := by
  simp [configureSinkAsync, Gui.configureSinkAsync]

end RequestM

/-- A request that nobody interrupts is the one that is run to completion. -/
theorem Request.coroutine_alone (request : Request) :
    request.coroutine.alone = request.program := by
  cases request with
  | startTransmission settings stream outcome =>
      exact RequestM.startTransmissionAsync_alone settings stream outcome
  | applySettings settings outcome => exact RequestM.bindTransport_alone settings none outcome
  | startReception settings outcome => exact RequestM.startReceptionAsync_alone settings outcome
  | configureSink sink config configure =>
      exact RequestM.configureSinkAsync_alone sink config configure
  | stopTransport outcome => exact RequestM.stopTransportAsync_alone outcome
  | stopReception outcome => exact RequestM.stopReceptionAsync_alone outcome

end TcpSim.Gui
