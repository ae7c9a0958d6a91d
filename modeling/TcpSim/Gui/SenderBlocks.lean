import TcpSim.Gui.SenderTracking

/-! What a request of the sender does between two awaits: besides the change its await was
for, nothing that runs is lost. -/

set_option autoImplicit false

namespace TcpSim.Gui.Interleaved

/-- An engine that is being stopped was created and does not run; a transport that is being
started was built. -/
def Point.Valid (pipeline : Pipeline) : Point → Prop
  | .engineStopping engine _ => engine < pipeline.created ∧ pipeline.engines engine ≠ .running
  | .transportStarting transport _ => transport < pipeline.built
  | _ => True

theorem Point.Valid.mono {before after : Pipeline} (grows : Grows before after) {point : Point}
    (valid : point.Valid before) : point.Valid after := by
  cases point with
  | done => trivial
  | statsStopping next => trivial
  | engineStopping engine next =>
      exact ⟨valid.1.trans_le grows.created, grows.engines engine valid.1 valid.2⟩
  | transportStopping transport next => trivial
  | transportStarting transport launch => exact valid.trans_le grows.built
  | engineStarting => trivial

/-- The result of a block: what runs is tracked exactly when `tracked` holds. -/
structure Leads (before : Pipeline) (tracked : Prop) (result : Pipeline × Point) : Prop where
  grows : Grows before result.1
  valid : result.1.Valid
  point : result.2.Valid result.1
  tracked : result.1.Tracked ↔ tracked

abbrev Sound (before : Pipeline) (result : Pipeline × Point) : Prop :=
  Leads before before.Tracked result

theorem Quiet.leads {before after : Pipeline} (quiet : Quiet before after) {point : Point}
    (valid : point.Valid after) : Sound before (after, point) where
  grows := quiet.grows
  valid := quiet.valid
  point := valid
  tracked := quiet.tracked

theorem Quiet.trans_sound {before after : Pipeline} (quiet : Quiet before after)
    {result : Pipeline × Point} (sound : Sound after result) : Sound before result where
  grows := quiet.grows.trans sound.grows
  valid := sound.valid
  point := sound.point
  tracked := sound.tracked.trans quiet.tracked

theorem Grows.leads {before after : Pipeline} (grows : Grows before after)
    {result : Pipeline × Point} (sound : Sound after result) :
    Leads before after.Tracked result where
  grows := grows.trans sound.grows
  valid := sound.valid
  point := sound.point
  tracked := sound.tracked

theorem finish_sound {self : Pipeline} (valid : self.Valid) : Sound self (finish self) :=
  (Quiet.refl valid).leads trivial

/-! ## Stopping -/

theorem Transport.stopped_of_not_givesWay {self : Transport} {awaits : Bool}
    (atOnce : self.stopGivesWay awaits = false) : self.started = false := by
  unfold Transport.stopGivesWay at atOnce
  split at atOnce
  · exact atOnce
  · exact atOnce
  · exact (Bool.or_eq_false_iff.mp atOnce).1
  · cases atOnce

theorem EngineTask.not_running_of_not_givesWay {self : EngineTask} {awaits : Bool}
    (atOnce : self.stopGivesWay awaits = false) : self ≠ .running := by
  intro running
  rw [running] at atOnce
  cases atOnce

/-- What follows a stop is sound once no transport is published. -/
def SoundAfter (next : Block) : Prop :=
  ∀ self : Pipeline, self.Valid → self.activeTransport = none → Sound self (next self)

section Stop

variable (awaits : StopAwaits) (after : After) {next : Block} (continues : SoundAfter next)
  {self : Pipeline} (valid : self.Valid)

include continues valid

theorem stopActiveTransport_sound : Sound self (stopActiveTransport awaits after next self) := by
  unfold stopActiveTransport
  split
  next vacant => exact continues self valid vacant
  next transport active =>
    split
    next _ => exact (setStarted_quiet valid active false).leads trivial
    next atOnce =>
      have stopped : self.TransportStopped := by
        intro other published
        obtain rfl := Option.some.inj (active.symm.trans published)
        exact Transport.stopped_of_not_givesWay (Bool.eq_false_iff.mpr atOnce)
      exact (clearTransport_quiet valid stopped).trans_sound
        (continues _ (clearTransport_valid valid) rfl)

theorem stopEngine_sound : Sound self (stopEngine awaits after next self) := by
  unfold stopEngine
  split
  next _ => exact stopActiveTransport_sound awaits after continues valid
  next engine current =>
    split
    next _ =>
      have stops := EngineTask.cancel_ne_running (self.engines engine)
      refine (setEngine_quiet valid current stops).leads ⟨valid.currentEngine engine current, ?_⟩
      rw [setEngine_self]
      exact stops
    next atOnce =>
      have ended := EngineTask.not_running_of_not_givesWay (Bool.eq_false_iff.mpr atOnce)
      have stopped : self.EngineStopped := by
        intro other referenced
        obtain rfl := Option.some.inj (current.symm.trans referenced)
        exact ended
      exact (clearEngine_quiet valid ended stopped).trans_sound
        (stopActiveTransport_sound awaits after continues (clearEngine_valid valid engine))

omit continues in
theorem setStats_quiet (task : Bool) : Quiet self { self with statsTask := task } where
  grows := ⟨le_rfl, le_rfl, fun _ _ => rfl, fun _ _ stopped => stopped⟩
  valid := ⟨valid.transport, valid.engine, valid.activeTransport, valid.currentEngine⟩
  tracked := ⟨fun held => ⟨held.transport, held.engine⟩, fun held => ⟨held.transport, held.engine⟩⟩

theorem stopTransport_sound : Sound self (stopTransport awaits after next self) := by
  unfold stopTransport
  split
  · exact (Quiet.refl valid).leads trivial
  · have quiet := setStats_quiet valid false
    exact quiet.trans_sound (stopEngine_sound awaits after continues quiet.valid)

end Stop

/-! ## Starting -/

theorem finish_soundAfter : SoundAfter finish :=
  fun _ valid _ => finish_sound valid

section Start

variable (awaits : StopAwaits) (launch : Launch) {self : Pipeline} (valid : self.Valid)

include valid

theorem fail_sound (error : ErrorKind) : Sound self (fail awaits error self) := by
  unfold fail
  split
  · exact stopTransport_sound awaits .nothing finish_soundAfter valid
  · exact finish_sound valid

theorem startTransport_sound {transport : Nat} (active : self.activeTransport = some transport) :
    Sound self (startTransport awaits launch transport self) := by
  have known := valid.activeTransport transport active
  unfold startTransport
  split
  · exact (setStarted_quiet valid active true).leads known
  · split
    · exact fail_sound awaits valid _
    · exact (Quiet.refl valid).leads known

theorem build_sound (vacant : self.activeTransport = none) :
    Sound self (build awaits launch self) := by
  unfold build
  split
  · exact fail_sound awaits valid _
  · exact fail_sound awaits valid _
  · next kind _ _ =>
      have quiet := publish_quiet valid vacant kind
      exact quiet.trans_sound (startTransport_sound awaits launch quiet.valid rfl)

end Start

theorem runAfter_soundAfter (awaits : StopAwaits) (after : After) :
    SoundAfter (runAfter awaits after) := by
  cases after with
  | nothing => exact finish_soundAfter
  | build launch => exact fun _ valid vacant => build_sound awaits launch valid vacant

section Resume

variable (awaits : StopAwaits) {self : Pipeline} (valid : self.Valid)

include valid

theorem startTransmission_sound (launch : Launch) :
    Sound self (startTransmission awaits launch self) := by
  unfold startTransmission
  split
  · exact fail_sound awaits valid _
  · split
    · exact stopTransport_sound awaits _ (runAfter_soundAfter awaits (.build launch)) valid
    · next vacant =>
        exact build_sound awaits launch valid (by simpa using vacant)

theorem startEngine_leads (launch : Launch) :
    Leads self self.createEngine.Tracked (startEngine awaits launch self) := by
  unfold startEngine
  split
  · exact createEngine_grows.leads (fail_sound awaits (createEngine_valid valid) .valueError)
  · exact ⟨runEngine_grows, runEngine_valid valid, trivial, runEngine_tracked⟩

/-- The change that the await of a request was for. -/
def Point.firstChange (self : Pipeline) : Point → Pipeline
  | .transportStopping _ _ => self.clearTransport
  | .engineStopping engine _ => self.clearEngine engine
  | .transportStarting transport launch =>
      if (self.transports transport).kind = .tcpClient then self.createEngine
      else
        match launch.startLater with
        | some _ => self
        | none => (self.setStarted transport true).createEngine
  | _ => self

theorem transportStarted_leads {transport : Nat} (launch : Launch)
    (known : transport < self.built) :
    Leads self ((Point.transportStarting transport launch).firstChange self).Tracked
      (transportStarted awaits transport launch self) := by
  simp only [transportStarted, Point.firstChange]
  split
  · exact startEngine_leads awaits valid launch
  · cases launch.startLater with
    | some error => exact fail_sound awaits valid error
    | none =>
      have result := startEngine_leads awaits (setStarted_valid valid known true) launch
      exact ⟨(setStarted_grows transport true).trans result.grows, result.valid, result.point,
        result.tracked⟩

theorem resume_leads {point : Point} (known : point.Valid self) {run : Block}
    (chosen : point.resume awaits = some run) :
    Leads self (point.firstChange self).Tracked (run self) := by
  cases point with
  | done => cases chosen
  | statsStopping after =>
      cases chosen
      have quiet := setStats_quiet valid false
      exact quiet.trans_sound
        (stopEngine_sound awaits after (runAfter_soundAfter awaits after) quiet.valid)
  | engineStopping engine after =>
      cases chosen
      exact (clearEngine_grows engine).leads (stopActiveTransport_sound awaits after
        (runAfter_soundAfter awaits after) (clearEngine_valid valid engine))
  | transportStopping transport after =>
      cases chosen
      exact clearTransport_grows.leads
        (runAfter_soundAfter awaits after _ (clearTransport_valid valid) rfl)
  | transportStarting transport launch =>
      cases chosen
      exact transportStarted_leads awaits valid launch known
  | engineStarting =>
      cases chosen
      exact (setStats_quiet valid true).leads trivial

end Resume

/-! ## The unsafe steps -/

/-- The await of the request ends while nothing that runs is in the way. -/
def Point.Safe (self : Pipeline) : Point → Prop
  | .transportStopping _ _ => self.TransportStopped
  | .engineStopping _ _ => self.EngineStopped
  | .transportStarting transport launch =>
      if (self.transports transport).kind = .tcpClient then self.EngineStopped
      else launch.startLater = none →
        self.activeTransport = some transport ∧ self.EngineStopped
  | _ => True

theorem firstChange_tracked {self : Pipeline} (valid : self.Valid) {point : Point}
    (known : point.Valid self) :
    (point.firstChange self).Tracked ↔ self.Tracked ∧ point.Safe self := by
  cases point with
  | done => exact (and_iff_left trivial).symm
  | statsStopping after => exact (and_iff_left trivial).symm
  | engineStopping engine after => exact clearEngine_tracked known.2
  | transportStopping transport after => exact clearTransport_tracked
  | transportStarting transport launch =>
      simp only [Point.firstChange, Point.Safe]
      split
      · exact createEngine_tracked valid
      · cases launch.startLater with
        | some error => simp
        | none =>
            rw [createEngine_tracked (setStarted_valid valid known true), setStarted_tracked,
              and_assoc]
            exact and_congr_right fun _ => ⟨fun both _ => both, fun safe => safe rfl⟩
  | engineStarting => exact (and_iff_left trivial).symm

end TcpSim.Gui.Interleaved
