import TcpSim.Gui.ControllerFailures
import TcpSim.Lib.Runs

/-! The two roles of the controller: which requests keep sender and receiver apart.
Starting a receiver tears the sender down; starting a sender does not touch the receiver. -/

set_option autoImplicit false

namespace TcpSim.Gui

open Effects

def Controller.NoSender (self : Controller) : Prop :=
  self.activeTransport = none ∧ self.engine = none

def Controller.Exclusive (self : Controller) : Prop :=
  self.NoSender ∨ self.receiverEngine = none

/-! ## Programs that start nothing -/

/-- An invariant that survives when the sender goes away, and sees nothing but the roles. -/
structure SenderShrinks (inv : Controller → Prop) : Prop where
  sender : ∀ before after : Controller, inv before →
    (after.activeTransport = before.activeTransport ∨ after.activeTransport = none) →
    (after.engine = before.engine ∨ after.engine = none) →
    after.receiverEngine = before.receiverEngine → inv after

structure ShrinkClosed (inv : Controller → Prop) : Prop extends SenderShrinks inv where
  receiver : ∀ before after : Controller, inv before →
    after.activeTransport = before.activeTransport → after.engine = before.engine →
    after.receiverEngine = none → inv after

theorem Controller.NoSender.shrink {before after : Controller} (noSender : before.NoSender)
    (transport : after.activeTransport = before.activeTransport ∨ after.activeTransport = none)
    (engine : after.engine = before.engine ∨ after.engine = none) : after.NoSender := by
  constructor
  · rcases transport with same | gone
    · exact same.trans noSender.1
    · exact gone
  · rcases engine with same | gone
    · exact same.trans noSender.2
    · exact gone

theorem noSender_shrinkClosed : ShrinkClosed Controller.NoSender where
  sender := fun _ _ noSender transport engine _ => noSender.shrink transport engine
  receiver := fun _ _ noSender transport engine _ =>
    noSender.shrink (.inl transport) (.inl engine)

theorem exclusive_shrinkClosed : ShrinkClosed Controller.Exclusive where
  sender := by
    intro before after exclusive transport engine receiver
    rcases exclusive with noSender | noReceiver
    · exact .inl (noSender.shrink transport engine)
    · exact .inr (receiver.trans noReceiver)
  receiver := fun _ _ _ _ _ gone => .inr gone

theorem receiverEngine_senderShrinks (receiver : Option TransportKind) :
    SenderShrinks fun self => self.receiverEngine = receiver where
  sender := fun _ _ held _ _ same => same.trans held

section Shrink

variable {inv : Controller → Prop} (closed : SenderShrinks inv)

include closed

theorem preserves_of_roles {change : Controller → Controller}
    (transport : ∀ self, (change self).activeTransport = self.activeTransport)
    (engine : ∀ self, (change self).engine = self.engine)
    (receiver : ∀ self, (change self).receiverEngine = self.receiverEngine) :
    Preserves inv (modify change : ControllerM Unit) :=
  .of_modify fun self held =>
    closed.sender self _ held (.inl (transport self)) (.inl (engine self)) (receiver self)

theorem emit_preserves (message : String) : Preserves inv (emit message) :=
  preserves_of_roles closed (fun _ => rfl) (fun _ => rfl) (fun _ => rfl)

omit closed in
theorem call_preserves (outcome : Option Raised) : Preserves inv (call outcome) := by
  cases outcome with
  | none => exact .pure inv ()
  | some raised => exact .throw inv raised

theorem stopEngine_preserves (outcome : Option Raised) : Preserves inv (stopEngine outcome) := by
  refine .get_bind fun self => .ite ?_ (.pure inv ())
  refine .bind (call_preserves outcome) fun _ => .bind ?_ fun _ => emit_preserves closed _
  exact .of_modify fun self held =>
    closed.sender self _ held (.inl rfl) (.inr rfl) rfl

theorem stopActiveTransport_preserves (outcome : Option Raised) :
    Preserves inv (stopActiveTransport outcome) := by
  refine .get_bind fun self => .ite ?_ (.pure inv ())
  refine .bind (call_preserves outcome) fun _ => .bind (emit_preserves closed _) fun _ =>
    .bind ?_ fun _ => .bind (emit_preserves closed _) fun _ =>
      .bind (emit_preserves closed _) fun _ => .bind (emit_preserves closed _) fun _ =>
        emit_preserves closed _
  exact .of_modify fun self held =>
    closed.sender self _ held (.inr rfl) (.inl rfl) rfl

theorem stopTransportAsync_preserves (outcome : StopOutcome) :
    Preserves inv (stopTransportAsync outcome) :=
  .bind (preserves_of_roles closed (fun _ => rfl) (fun _ => rfl) (fun _ => rfl)) fun _ =>
    .bind (stopEngine_preserves closed outcome.engineStop) fun _ =>
      stopActiveTransport_preserves closed outcome.transportStop

omit closed in
theorem stopReceptionAsync_preserves (shrinks : ShrinkClosed inv) (outcome : ReceiverStop) :
    Preserves inv (stopReceptionAsync outcome) := by
  have closed := shrinks.toSenderShrinks
  refine .bind (preserves_of_roles closed (fun _ => rfl) (fun _ => rfl) (fun _ => rfl)) fun _ =>
    .bind ?_ fun _ => ?_
  · refine .get_bind fun self => .ite ?_ (.pure inv ())
    refine .bind ?_ fun _ => .bind (emit_preserves closed _) fun _ =>
      .bind (emit_preserves closed _) fun _ => emit_preserves closed _
    exact .of_modify fun self held => shrinks.receiver self _ held rfl rfl rfl
  · refine preserves_of_roles closed ?_ ?_ ?_
    all_goals
      intro self
      unfold leaveReceiverRole
      split
      · rfl
      · rfl

theorem configureSinkAsync_preserves (sink : SinkSettings) (config configure : Option Raised) :
    Preserves inv (configureSinkAsync sink config configure) := by
  refine .get_bind fun self => .ite (emit_preserves closed _) ?_
  exact .bind (call_preserves config) fun _ => .bind (call_preserves configure) fun _ =>
    emit_preserves closed _

end Shrink

/-! ## Stopping the sender -/

@[simp] theorem run_emit_bind {α : Type} (message : String) (next : Unit → ControllerM α)
    (self : Controller) :
    (emit message >>= next) self = next () { self with status := self.status ++ [message] } := rfl

theorem stopEngine_of_none {self : Controller} (absent : self.engine = none)
    (outcome : Option Raised) : stopEngine outcome self = .ok () self := by
  simp [stopEngine, absent]

theorem stopEngine_of_raised {self : Controller} {engine : SimulatorEngine}
    (running : self.engine = some engine) (raised : Raised) :
    stopEngine (some raised) self = .error raised self := by
  simp [stopEngine, running, call]

theorem stopEngine_of_returned {self : Controller} {engine : SimulatorEngine}
    (running : self.engine = some engine) :
    ∃ status, stopEngine none self = .ok () { self with engine := none, status } :=
  ⟨self.status ++ ["Transmission stopped."], by simp [stopEngine, running, call, emit]⟩

theorem stopActiveTransport_of_none {self : Controller} (absent : self.activeTransport = none)
    (outcome : Option Raised) : stopActiveTransport outcome self = .ok () self := by
  simp [stopActiveTransport, absent]

theorem stopActiveTransport_of_raised {self : Controller} {transport : TransportKind}
    (active : self.activeTransport = some transport) (raised : Raised) :
    stopActiveTransport (some raised) self = .error raised self := by
  simp [stopActiveTransport, active, call]

theorem stopActiveTransport_of_returned {self : Controller} {transport : TransportKind}
    (active : self.activeTransport = some transport) :
    ∃ status, stopActiveTransport none self =
      .ok () { self with activeTransport := none, activeSettings := none, status } := by
  simp [stopActiveTransport, active, call, emit]

/-- The sender is gone exactly when none of the stops that were needed raised. -/
def StopOutcome.Stops (outcome : StopOutcome) (self : Controller) : Prop :=
  (self.engine.isSome = true → outcome.engineStop = none) ∧
    (self.activeTransport.isSome = true → outcome.transportStop = none)

theorem stopActiveTransport_noSender_iff {self : Controller} (absent : self.engine = none)
    (outcome : Option Raised) :
    (final (stopActiveTransport outcome self)).NoSender ↔
      (self.activeTransport.isSome = true → outcome = none) := by
  cases active : self.activeTransport with
  | none =>
      rw [stopActiveTransport_of_none active]
      simp [Controller.NoSender, active, absent]
  | some transport =>
      cases outcome with
      | none =>
          obtain ⟨status, ran⟩ := stopActiveTransport_of_returned active
          rw [ran]
          simp [Controller.NoSender, absent]
      | some raised =>
          rw [stopActiveTransport_of_raised active]
          simp [Controller.NoSender, active]

private theorem stops_noSender_iff (outcome : StopOutcome) (self : Controller) :
    (final ((stopEngine outcome.engineStop >>= fun _ =>
      stopActiveTransport outcome.transportStop) self)).NoSender ↔ outcome.Stops self := by
  unfold StopOutcome.Stops
  cases running : self.engine with
  | none =>
      rw [bind_of_ok (stopEngine_of_none running _), stopActiveTransport_noSender_iff running]
      simp
  | some engine =>
      cases result : outcome.engineStop with
      | none =>
          obtain ⟨status, ran⟩ := stopEngine_of_returned running
          rw [bind_of_ok ran, stopActiveTransport_noSender_iff rfl]
          simp
      | some raised =>
          rw [bind_of_error (stopEngine_of_raised running raised)]
          simp [Controller.NoSender, running]

theorem stopTransportAsync_noSender_iff (outcome : StopOutcome) (self : Controller) :
    (final (stopTransportAsync outcome self)).NoSender ↔ outcome.Stops self :=
  stops_noSender_iff outcome { self with statsTask := false }

theorem stopEngine_returns {outcome : Option Raised} {self after : Controller}
    (ran : stopEngine outcome self = .ok () after) : after.engine = none := by
  cases running : self.engine with
  | none =>
      rw [stopEngine_of_none running] at ran
      cases ran
      exact running
  | some engine =>
      cases outcome with
      | none =>
          obtain ⟨status, stopped⟩ := stopEngine_of_returned running
          rw [stopped] at ran
          cases ran
          rfl
      | some raised =>
          rw [stopEngine_of_raised running] at ran
          cases ran

theorem stopActiveTransport_returns {outcome : Option Raised} {self after : Controller}
    (ran : stopActiveTransport outcome self = .ok () after) :
    after.activeTransport = none ∧ after.engine = self.engine := by
  cases active : self.activeTransport with
  | none =>
      rw [stopActiveTransport_of_none active] at ran
      cases ran
      exact ⟨active, rfl⟩
  | some transport =>
      cases outcome with
      | none =>
          obtain ⟨status, stopped⟩ := stopActiveTransport_of_returned active
          rw [stopped] at ran
          cases ran
          exact ⟨rfl, rfl⟩
      | some raised =>
          rw [stopActiveTransport_of_raised active] at ran
          cases ran

theorem stopTransportAsync_returns {outcome : StopOutcome} {self after : Controller}
    (ran : stopTransportAsync outcome self = .ok () after) : after.NoSender := by
  obtain ⟨_, _, _, rest⟩ := bind_eq_ok ran
  obtain ⟨_, middle, engineRan, transportRan⟩ := bind_eq_ok rest
  obtain ⟨noTransport, sameEngine⟩ := stopActiveTransport_returns transportRan
  exact ⟨noTransport, sameEngine.trans (stopEngine_returns engineRan)⟩

/-! ## Starting the receiver -/

/-- The sender is torn down before anything of the receiver is built. -/
theorem leaveSenderRole_returns {outcome : StopOutcome} {self after : Controller}
    (ran : leaveSenderRole outcome self = .ok () after) : after.NoSender := by
  unfold leaveSenderRole at ran
  rw [run_get_bind] at ran
  split at ran
  next _ =>
      rw [run_emit_bind] at ran
      exact stopTransportAsync_returns ran
  next absent =>
      cases ran
      simpa [Controller.NoSender] using absent

theorem build_preserves (inv : Controller → Prop) (receiver : String)
    (settings : RuntimeSettings) (construct : Option Raised) :
    Preserves inv (build receiver settings construct) := by
  unfold build
  split
  · exact .bind (call_preserves construct) fun _ => .pure inv _
  · exact .throw inv _

theorem leaveSenderRole_preserves {inv : Controller → Prop} (closed : SenderShrinks inv)
    (outcome : StopOutcome) : Preserves inv (leaveSenderRole outcome) :=
  .get_bind fun _ => .ite (.bind (emit_preserves closed _) fun _ =>
    stopTransportAsync_preserves closed outcome) (.pure inv ())

theorem startReceptionBody_preserves (settings : RuntimeSettings) (outcome : ReceptionOutcome) :
    Preserves Controller.Exclusive (startReceptionBody settings outcome) := by
  have gone := noSender_shrinkClosed
  refine .bind_of_returns (leaveSenderRole_preserves exclusive_shrinkClosed.toSenderShrinks outcome.stopSender)
    (fun _ _ _ ran => leaveSenderRole_returns ran) (fun _ => ?_) (fun _ noSender => .inl noSender)
  refine .bind ?_ fun _ => .bind (call_preserves _) fun _ =>
    .bind (build_preserves _ _ _ _) fun transport => .bind (call_preserves _) fun _ =>
      .bind ?_ fun _ => .bind (call_preserves _) fun _ => .bind (emit_preserves gone.toSenderShrinks _) fun _ => ?_
  · exact .get_bind fun _ => .ite (stopReceptionAsync_preserves gone _) (.pure _ ())
  · exact .of_modify fun _ noSender => noSender
  · exact .of_modify fun _ noSender => noSender

theorem startReceptionAsync_preserves (settings : RuntimeSettings) (outcome : ReceptionOutcome) :
    Preserves Controller.Exclusive (startReceptionAsync settings outcome) :=
  .tryCatch (startReceptionBody_preserves settings outcome) fun raised =>
    .ite (.bind (emit_preserves exclusive_shrinkClosed.toSenderShrinks _) fun _ =>
      stopReceptionAsync_preserves exclusive_shrinkClosed outcome.cleanup) (.throw _ raised)

/-! ## Starting the sender -/

theorem emitConnections_preserves {inv : Controller → Prop} (closed : SenderShrinks inv)
    (connected : Nat) : Preserves inv (emitConnections connected) :=
  .get_bind fun _ => .ite (emit_preserves closed _) (.pure inv ())

theorem bindTransport_receiver (settings : RuntimeSettings) (stream : Option StreamSettings)
    (outcome : BindOutcome) (receiver : Option TransportKind) :
    Preserves (fun self => self.receiverEngine = receiver)
      (bindTransport settings stream outcome) := by
  have closed := receiverEngine_senderShrinks receiver
  refine .bind ?_ fun _ => .bind (build_preserves _ _ _ _) fun transport => .bind ?_ fun _ =>
    .bind (call_preserves _) fun _ => .bind (emit_preserves closed _) fun _ =>
      emitConnections_preserves closed _
  · exact .get_bind fun _ => .ite (.bind (emit_preserves closed _) fun _ =>
      stopTransportAsync_preserves closed _) (.pure _ ())
  · exact .of_modify fun _ held => held

theorem preset_preserves {inv : Controller → Prop} (closed : SenderShrinks inv)
    (stream : StreamSettings) : Preserves inv (applyVelocityCompatibilityPreset stream) :=
  .ite (.pure inv _) (.bind (emit_preserves closed _) fun _ => .pure inv _)

theorem reportStarted_preserves {inv : Controller → Prop} (closed : SenderShrinks inv)
    (stream : StreamSettings) (loaded : Loaded) (progress : Nat × Nat) :
    Preserves inv (reportStarted stream loaded progress) :=
  .bind (emit_preserves closed _) fun _ => .bind (emit_preserves closed _) fun _ =>
    .bind (emit_preserves closed _) fun _ => .bind (emit_preserves closed _) fun _ =>
      .ite (emit_preserves closed _) (.pure inv ())

theorem startTransmissionAsync_receiver (settings : RuntimeSettings) (stream : StreamSettings)
    (outcome : StartOutcome) (receiver : Option TransportKind) :
    Preserves (fun self => self.receiverEngine = receiver)
      (startTransmissionAsync settings stream outcome) := by
  have closed := receiverEngine_senderShrinks receiver
  refine .tryCatch ?_ fun raised => .ite (.bind (emit_preserves closed _) fun _ =>
    stopTransportAsync_preserves closed _) (.throw _ raised)
  refine .bind (preset_preserves closed stream) fun adjusted => .bind ?_ fun loaded =>
    .bind (bindTransport_receiver _ _ _ _) fun _ => .bind (.of_modify fun _ held => held)
      fun _ => .bind ?_ fun _ => .bind (call_preserves _) fun _ =>
        .bind (.of_modify fun _ held => held) fun _ => reportStarted_preserves closed _ _ _
  · cases outcome.load with
    | ok loaded => exact .pure _ loaded
    | error raised => exact .throw _ raised
  · exact .get_bind fun _ => .ite (call_preserves _) (.pure _ ())

/-! ## Starting the sender without one before -/

/-- There is a transport for the settings, and its constructor returns. -/
def BindOutcome.Builds (outcome : BindOutcome) (settings : RuntimeSettings) : Prop :=
  (transportKind settings).isSome = true ∧ outcome.construct = none

theorem Fails.noSender_iff {told : List String} {failure : StartFailure} {raised : Raised}
    {self : Controller} (failed : Fails told failure raised self) :
    self.NoSender ↔ failure.transport = false ∧ failure.engine = false := by
  rw [← failed.transport, ← failed.engine, Option.isSome_eq_false_iff, Option.isSome_eq_false_iff,
    Option.isNone_iff_eq_none, Option.isNone_iff_eq_none]
  rfl

theorem Up.not_noSender {told : List String} {engine : Bool} {controls : LineControls}
    {self : Controller} (up : Up told engine true controls self) : ¬self.NoSender := by
  intro none
  have transport := up.transport
  rw [none.1] at transport
  cases transport

theorem Controller.NoSender.up {self : Controller} (noSender : self.NoSender) :
    Up self.status false false self.lineControls self where
  engine := by rw [noSender.2]; rfl
  transport := by rw [noSender.1]; rfl
  controls := rfl
  status := List.prefix_rfl

theorem BindOutcome.builds_iff (outcome : BindOutcome) (settings : RuntimeSettings) :
    outcome.Builds settings ↔ buildRaises settings outcome.construct = none := by
  unfold Builds buildRaises
  cases transportKind settings <;> simp

/-- The transport is published before it is started. -/
theorem applySettingsAsync_noSender_iff {self : Controller} (noSender : self.NoSender)
    (settings : RuntimeSettings) {outcome : BindOutcome} :
    (final (applySettingsAsync settings outcome self)).NoSender ↔ ¬outcome.Builds settings := by
  have bind := @bindTransport_meets self.status false false self.lineControls settings none outcome
  have failure : outcome.failure settings false false =
      (failing false false (buildRaises settings outcome.construct)).or
        (failing false true outcome.start) := rfl
  rw [outcome.builds_iff]
  unfold applySettingsAsync
  cases builds : buildRaises settings outcome.construct with
  | some raised =>
      rw [failure, builds] at bind
      obtain ⟨error, after, ran, failed⟩ := bind.raises noSender.up
      rw [ran]
      exact iff_of_true (failed.noSender_iff.mpr ⟨rfl, rfl⟩) (by simp)
  | none =>
      rw [failure, builds] at bind
      refine iff_of_false ?_ (by simp)
      cases starts : outcome.start with
      | some raised =>
          rw [starts] at bind
          obtain ⟨error, after, ran, failed⟩ := bind.raises noSender.up
          rw [ran]
          intro none
          cases (failed.noSender_iff.mp none).1
      | none =>
          rw [starts] at bind
          obtain ⟨_, after, ran, up⟩ := bind.returns noSender.up
          rw [ran]
          exact up.not_noSender

/-- The start of a transmission fails and leaves nothing behind: before the transport is
published, or with an exception that is handled and a clean-up that stops what was made. -/
inductive StartOutcome.Undone (outcome : StartOutcome) (settings : RuntimeSettings)
    (controls : LineControls) : Prop where
  | load {raised : Raised} (fails : outcome.load = .error raised)
  | build (fails : ¬outcome.bind.Builds settings)
  | start {raised : Raised} (fails : outcome.bind.start = some raised)
      (handled : raised.kind.failsTransmission = true)
      (stopped : outcome.cleanup.transportStop = none)
  | engine {raised : Raised} (starts : outcome.bind.start = none)
      (fails : outcome.engineFailure controls = some raised)
      (handled : raised.kind.failsTransmission = true)
      (engineStopped : outcome.cleanup.engineStop = none)
      (stopped : outcome.cleanup.transportStop = none)

theorem startTransmissionAsync_of_raised {settings : RuntimeSettings} {stream : StreamSettings}
    {outcome : StartOutcome} {self after : Controller} {raised : Raised}
    (ran : startTransmissionBody settings stream outcome self = .error raised after) :
    (final (startTransmissionAsync settings stream outcome self)).NoSender ↔
      after.NoSender ∨ raised.kind.failsTransmission = true ∧ outcome.cleanup.Stops after := by
  unfold startTransmissionAsync
  rw [tryCatch_of_error ran]
  by_cases handled : raised.kind.failsTransmission = true
  · rw [if_pos handled, run_emit_bind, stopTransportAsync_noSender_iff]
    constructor
    · intro stops
      exact .inr ⟨handled, stops⟩
    · intro either
      rcases either with none | ⟨_, stops⟩
      · exact ⟨by simp [none.2], by simp [none.1]⟩
      · exact stops
  · rw [if_neg handled]
    simp [handled]

/-- Once the transport is published, only a handled exception is undone. -/
theorem StartOutcome.Undone.handled {outcome : StartOutcome} {settings : RuntimeSettings}
    {controls : LineControls} {loaded : Loaded} (undone : outcome.Undone settings controls)
    (load : outcome.load = .ok loaded) (builds : outcome.bind.Builds settings) :
    ∃ raised, raised.kind.failsTransmission = true ∧ outcome.cleanup.transportStop = none ∧
      (outcome.bind.start = some raised ∨
        outcome.bind.start = none ∧ outcome.engineFailure controls = some raised ∧
          outcome.cleanup.engineStop = none) := by
  cases undone with
  | load fails =>
      rw [load] at fails
      cases fails
  | build fails => exact absurd builds fails
  | start fails handled stopped => exact ⟨_, handled, stopped, .inl fails⟩
  | engine starts fails handled engineStopped stopped =>
      exact ⟨_, handled, stopped, .inr ⟨starts, fails, engineStopped⟩⟩

/-- Where the start fails without a sender before, and what becomes of it. -/
theorem StartOutcome.undone_iff (outcome : StartOutcome) (settings : RuntimeSettings)
    (controls : LineControls) :
    outcome.Undone settings controls ↔
      ∃ failure, outcome.failure settings false false controls = some failure ∧
        ((failure.transport = false ∧ failure.engine = false) ∨
          failure.raised.kind.failsTransmission = true ∧
            (failure.engine = true → outcome.cleanup.engineStop = none) ∧
            (failure.transport = true → outcome.cleanup.transportStop = none)) := by
  have failure : outcome.failure settings false false controls =
      (failing false false outcome.loadRaises).or
        (((failing false false (buildRaises settings outcome.bind.construct)).or
          (failing false true outcome.bind.start)).or
          (failing true true (outcome.engineFailure controls))) := rfl
  rw [failure, StartOutcome.loadRaises]
  cases load : outcome.load with
  | error raised => exact iff_of_true (.load load) ⟨_, rfl, .inl ⟨rfl, rfl⟩⟩
  | ok loaded =>
  have built := outcome.bind.builds_iff settings
  cases builds : buildRaises settings outcome.bind.construct with
  | some raised =>
      refine iff_of_true (.build ?_) ⟨_, rfl, .inl ⟨rfl, rfl⟩⟩
      rw [built, builds]
      simp
  | none =>
  have point (undone : outcome.Undone settings controls) := undone.handled load (built.mpr builds)
  cases starts : outcome.bind.start with
  | some raised =>
      rw [starts] at point
      constructor
      · intro undone
        obtain ⟨_, handled, stopped, fails | ⟨fails, _⟩⟩ := point undone <;> cases fails
        exact ⟨_, rfl, .inr ⟨handled, by simp, fun _ => stopped⟩⟩
      · rintro ⟨_, ⟨⟩, ⟨⟨⟩, _⟩ | ⟨handled, _, stopped⟩⟩
        exact .start starts handled (stopped rfl)
  | none =>
      rw [starts] at point
      constructor
      · intro undone
        obtain ⟨_, handled, stopped, fails | ⟨_, fails, engineStopped⟩⟩ := point undone
        · cases fails
        rw [fails]
        exact ⟨_, rfl, .inr ⟨handled, fun _ => engineStopped, fun _ => stopped⟩⟩
      · cases fails : outcome.engineFailure controls with
        | none => rintro ⟨_, ⟨⟩, _⟩
        | some raised =>
            rintro ⟨_, ⟨⟩, ⟨⟨⟩, _⟩ | ⟨handled, engineStopped, stopped⟩⟩
            exact .engine starts fails handled (engineStopped rfl) (stopped rfl)

/-- Without a sender before, there is none afterwards exactly when the start is undone. -/
theorem startTransmissionAsync_noSender_iff {settings : RuntimeSettings} {stream : StreamSettings}
    {outcome : StartOutcome} {self : Controller} (noSender : self.NoSender) :
    (final (startTransmissionAsync settings stream outcome self)).NoSender ↔
      outcome.Undone settings self.lineControls := by
  have body := @startTransmissionBody_meets self.status false false self.lineControls settings stream
    outcome
  rw [outcome.undone_iff]
  cases first : outcome.failure settings false false self.lineControls with
  | none =>
      rw [first] at body
      obtain ⟨_, after, ran, up⟩ := body.returns noSender.up
      unfold startTransmissionAsync
      rw [tryCatch_of_ok ran]
      exact iff_of_false up.not_noSender (by simp)
  | some failure =>
      rw [first] at body
      obtain ⟨raised, after, ran, failed⟩ := body.raises noSender.up
      obtain rfl := failed.raised
      rw [startTransmissionAsync_of_raised ran, failed.noSender_iff, StopOutcome.Stops, failed.engine,
        failed.transport]
      simp

end TcpSim.Gui
