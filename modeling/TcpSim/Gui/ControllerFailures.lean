import TcpSim.Gui.Controller
import TcpSim.Lib.Outcomes

/-! What the programs of the sender raise first, and what is up where they raise it. -/

set_option autoImplicit false

namespace TcpSim.Gui

open Effects

/-- An exception, and whether engine and transport are up where it is raised. -/
structure StartFailure where
  raised : Raised
  engine : Bool
  transport : Bool
  deriving DecidableEq, Repr

/-- The exception is the expected one, and what was told before is not lost. -/
structure Fails (told : List String) (failure : StartFailure) (raised : Raised) (state : Controller) :
    Prop where
  raised : raised = failure.raised
  engine : state.engine.isSome = failure.engine
  transport : state.activeTransport.isSome = failure.transport
  status : told <+: state.status

structure Up (told : List String) (engine transport : Bool) (controls : LineControls)
    (state : Controller) : Prop where
  engine : state.engine.isSome = engine
  transport : state.activeTransport.isSome = transport
  controls : state.lineControls = controls
  status : told <+: state.status

def failing (engine transport : Bool) (outcome : Option Raised) : Option StartFailure :=
  outcome.map fun raised => { raised, engine, transport }

/-- What raises while that much is stopped. -/
def StopOutcome.failure (outcome : StopOutcome) (engine transport : Bool) : Option StartFailure :=
  (failing true transport (if engine then outcome.engineStop else none)).or
    (failing false true (if transport then outcome.transportStop else none))

def buildRaises (settings : RuntimeSettings) (construct : Option Raised) : Option Raised :=
  match transportKind settings with
  | none => some (unsupported "" settings)
  | some _ => construct

def BindOutcome.failure (outcome : BindOutcome) (settings : RuntimeSettings)
    (engine transport : Bool) : Option StartFailure :=
  (if transport then outcome.rebind.failure engine true else none).or
    ((failing (engine && !transport) false (buildRaises settings outcome.construct)).or
      (failing (engine && !transport) true outcome.start))

def StartOutcome.loadRaises (outcome : StartOutcome) : Option Raised :=
  match outcome.load with
  | .error raised => some raised
  | .ok _ => none

/-- What the new engine raises, if anything: rejected line controls come first. -/
def StartOutcome.engineFailure (outcome : StartOutcome) (controls : LineControls) :
    Option Raised :=
  (if controls.isSet then outcome.lineControls else none).or outcome.engineStart

/-- The first operation of a start that raises. -/
def StartOutcome.failure (outcome : StartOutcome) (settings : RuntimeSettings) (engine transport : Bool)
    (controls : LineControls) : Option StartFailure :=
  (failing engine transport outcome.loadRaises).or
    ((outcome.bind.failure settings engine transport).or
      (failing true true (outcome.engineFailure controls)))

section Steps

variable {told : List String} {engine transport : Bool} {controls : LineControls}

theorem call_meets (outcome : Option Raised) :
    Meets (Fails told) (Up told engine transport controls) (call outcome)
      (failing engine transport outcome) fun _ => Up told engine transport controls := by
  cases outcome with
  | none => exact .pure fun _ up => up
  | some raised => exact .throw fun _ up => ⟨rfl, up.engine, up.transport, up.status⟩

theorem emit_meets (message : String) :
    Meets (Fails told) (Up told engine transport controls) (emit message) none
      fun _ => Up told engine transport controls :=
  .of_modify fun _ up =>
    ⟨up.engine, up.transport, up.controls, up.status.trans (List.prefix_append _ _)⟩

theorem emit_bind_meets {α : Type} {message : String} {next : Unit → ControllerM α}
    {failure : Option StartFailure} {after : α → Controller → Prop}
    (later : Meets (Fails told) (Up told engine transport controls) (next ()) failure after) :
    Meets (Fails told) (Up told engine transport controls) (emit message >>= next) failure after :=
  (emit_meets message).after_quiet fun _ => later

theorem stopEngine_meets (outcome : Option Raised) :
    Meets (Fails told) (Up told engine transport controls) (stopEngine outcome)
      (failing true transport (if engine then outcome else none))
      fun _ => Up told false transport controls := by
  refine .get_bind fun self up => ?_
  rw [up.engine]
  cases engine with
  | false => exact .pure fun _ up => up
  | true =>
      rw [if_pos rfl, if_pos rfl]
      refine (call_meets outcome).then_quiet fun _ => ?_
      exact .modify_bind (Up told false transport controls) (fun _ up => ⟨rfl, up.transport, up.controls, up.status⟩)
        (emit_meets _)

theorem stopActiveTransport_meets (outcome : Option Raised) :
    Meets (Fails told) (Up told engine transport controls) (stopActiveTransport outcome)
      (failing engine true (if transport then outcome else none))
      fun _ => Up told engine false controls := by
  refine .get_bind fun self up => ?_
  rw [up.transport]
  cases transport with
  | false => exact .pure fun _ up => up
  | true =>
      rw [if_pos rfl, if_pos rfl]
      refine (call_meets outcome).then_quiet fun _ => emit_bind_meets ?_
      refine .modify_bind (Up told engine false controls) (fun _ up => ⟨up.engine, rfl, up.controls, up.status⟩) ?_
      exact emit_bind_meets (emit_bind_meets (emit_bind_meets (emit_meets _)))

theorem stopTransportAsync_meets (outcome : StopOutcome) :
    Meets (Fails told) (Up told engine transport controls) (stopTransportAsync outcome)
      (outcome.failure engine transport) fun _ => Up told false false controls := by
  have stops := (@stopEngine_meets told engine transport controls outcome.engineStop).bind fun _ =>
    stopActiveTransport_meets outcome.transportStop
  exact .modify_bind (Up told engine transport controls)
    (fun _ up => ⟨up.engine, up.transport, up.controls, up.status⟩) stops

theorem rebindIfActive_meets (outcome : StopOutcome) :
    Meets (Fails told) (Up told engine transport controls) (rebindIfActive outcome)
      (if transport then outcome.failure engine true else none)
      fun _ => Up told (engine && !transport) false controls := by
  refine .get_bind fun self up => ?_
  rw [up.transport]
  cases transport with
  | false => exact .pure fun _ up => by simpa using up
  | true =>
      rw [if_pos rfl, if_pos rfl, Bool.not_true, Bool.and_false]
      exact emit_bind_meets (stopTransportAsync_meets outcome)

theorem buildTransport_meets (settings : RuntimeSettings) (construct : Option Raised) :
    Meets (Fails told) (Up told engine transport controls) (buildTransport settings construct)
      (failing engine transport (buildRaises settings construct))
      fun _ => Up told engine transport controls := by
  unfold buildTransport build buildRaises
  cases transportKind settings with
  | none => exact .throw fun _ up => ⟨rfl, up.engine, up.transport, up.status⟩
  | some kind => exact (call_meets construct).then_quiet fun _ => .pure fun _ up => up

theorem emitConnections_meets (connected : Nat) :
    Meets (Fails told) (Up told engine transport controls) (emitConnections connected) none
      fun _ => Up told engine transport controls := by
  refine .get_bind fun self _ => ?_
  split
  · exact emit_meets _
  · exact .pure fun _ up => up

theorem bindTransport_meets (settings : RuntimeSettings) (stream : Option StreamSettings)
    (outcome : BindOutcome) :
    Meets (Fails told) (Up told engine transport controls) (bindTransport settings stream outcome)
      (outcome.failure settings engine transport)
      fun _ => Up told (engine && !transport) true controls := by
  refine (rebindIfActive_meets outcome.rebind).bind fun _ =>
    (buildTransport_meets settings outcome.construct).bind fun kind => ?_
  refine .modify_bind (Up told (engine && !transport) true controls)
    (fun _ up => ⟨up.engine, rfl, up.controls, up.status⟩) ?_
  exact (call_meets outcome.start).then_quiet fun _ =>
    emit_bind_meets (emitConnections_meets outcome.connected)

theorem preset_meets (stream : StreamSettings) :
    Meets (Fails told) (Up told engine transport controls) (applyVelocityCompatibilityPreset stream)
      none fun _ => Up told engine transport controls := by
  unfold applyVelocityCompatibilityPreset
  split
  · exact .pure fun _ up => up
  · exact emit_bind_meets (.pure fun _ up => up)

theorem load_meets (outcome : StartOutcome) :
    Meets (Fails told) (Up told engine transport controls)
      (MonadExcept.ofExcept outcome.load : ControllerM Loaded)
      (failing engine transport outcome.loadRaises) fun _ => Up told engine transport controls := by
  unfold StartOutcome.loadRaises
  cases outcome.load with
  | error raised => exact .throw fun _ up => ⟨rfl, up.engine, up.transport, up.status⟩
  | ok loaded => exact .pure fun _ up => up

theorem setLineControls_meets (outcome : Option Raised) :
    Meets (Fails told) (Up told engine transport controls) (setLineControls outcome)
      (failing engine transport (if controls.isSet then outcome else none))
      fun _ => Up told engine transport controls := by
  refine .get_bind fun self up => ?_
  rw [up.controls]
  cases controls.isSet with
  | false => exact .pure fun _ up => up
  | true => exact call_meets outcome

theorem reportStarted_meets (stream : StreamSettings) (loaded : Loaded) (progress : Nat × Nat) :
    Meets (Fails told) (Up told engine transport controls) (reportStarted stream loaded progress)
      none fun _ => Up told engine transport controls := by
  refine emit_bind_meets (emit_bind_meets (emit_bind_meets (emit_bind_meets ?_)))
  unfold reportEmpty
  split
  · exact emit_meets _
  · exact .pure fun _ up => up

theorem failing_or (engine transport : Bool) (first second : Option Raised) :
    failing engine transport (first.or second) =
      (failing engine transport first).or (failing engine transport second) := by
  cases first <;> rfl

theorem startTransmissionBody_meets (settings : RuntimeSettings) (stream : StreamSettings)
    (outcome : StartOutcome) :
    Meets (Fails told) (Up told engine transport controls)
      (startTransmissionBody settings stream outcome)
      (outcome.failure settings engine transport controls) fun _ => Up told true true controls := by
  refine (preset_meets stream).after_quiet fun adjusted => (load_meets outcome).bind fun loaded =>
    (bindTransport_meets settings (some adjusted) outcome.bind).bind fun _ => ?_
  refine .modify_bind (Up told true true controls) (fun _ up => ⟨rfl, up.transport, up.controls, up.status⟩) ?_
  rw [StartOutcome.engineFailure, failing_or]
  refine (setLineControls_meets outcome.lineControls).bind fun _ =>
    (call_meets outcome.engineStart).then_quiet fun _ => ?_
  exact .modify_bind (Up told true true controls) (fun _ up => ⟨up.engine, up.transport, up.controls, up.status⟩)
    (reportStarted_meets adjusted loaded outcome.progress)

end Steps

end TcpSim.Gui
