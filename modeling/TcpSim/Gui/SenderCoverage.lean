import TcpSim.Gui.SenderRuns

/-! Whatever the sender refers to either runs or is still being handled by some request, so
that nothing but what runs is referenced when no request is in progress. -/

set_option autoImplicit false

namespace TcpSim.Gui.Interleaved

open Interleaving

/-- The request will start the transport, or clear the reference to it. -/
def Point.HandlesTransport (pipeline : Pipeline) (transport : Nat) : Point → Prop
  | .statsStopping _ | .engineStopping _ _ | .transportStopping _ _ => True
  | .transportStarting starting _ =>
      starting = transport ∧ (pipeline.transports transport).kind ≠ .tcpClient
  | _ => False

/-- The request will clear the reference to the engine. -/
def Point.HandlesEngine : Point → Prop
  | .statsStopping _ | .engineStopping _ _ => True
  | _ => False

/-- The task of the engine was started and not stopped. -/
def EngineTask.Begun (task : EngineTask) : Prop := task = .running ∨ task = .ended

structure Covered (system : System) : Prop where
  transport : ∀ transport, system.shared.activeTransport = some transport →
    (system.shared.transports transport).started = true ∨
      Waits system.points (Point.HandlesTransport system.shared transport)
  engine : ∀ engine, system.shared.engine = some engine →
    (system.shared.engines engine).Begun ∨ Waits system.points Point.HandlesEngine

/-- What a block leaves referenced runs, or is handled by the request where it now waits, or
was among the `kept` ones and has not changed. -/
structure Settles (before : Pipeline) (keptTransport keptEngine : Nat → Prop)
    (result : Pipeline × Point) : Prop where
  transport : ∀ transport, result.1.activeTransport = some transport →
    (result.1.transports transport).started = true ∨
      result.2.HandlesTransport result.1 transport ∨
      keptTransport transport ∧ result.1.transports transport = before.transports transport
  engine : ∀ engine, result.1.engine = some engine →
    (result.1.engines engine).Begun ∨ result.2.HandlesEngine ∨
      keptEngine engine ∧ result.1.engines engine = before.engines engine

abbrev SettlesAll (result : Pipeline × Point) : Prop :=
  ∀ before, Settles before (fun _ => False) (fun _ => False) result

section Settles

variable {before : Pipeline} {keptTransport keptEngine : Nat → Prop} {result : Pipeline × Point}

theorem Settles.mono (settles : Settles before keptTransport keptEngine result)
    {moreTransports moreEngines : Nat → Prop}
    (transports : ∀ transport, keptTransport transport → moreTransports transport)
    (engines : ∀ engine, keptEngine engine → moreEngines engine) :
    Settles before moreTransports moreEngines result where
  transport := fun transport active =>
    (settles.transport transport active).imp_right fun rest =>
      rest.imp_right fun kept => ⟨transports transport kept.1, kept.2⟩
  engine := fun engine current =>
    (settles.engine engine current).imp_right fun rest =>
      rest.imp_right fun kept => ⟨engines engine kept.1, kept.2⟩

theorem Settles.of_engines {earlier : Pipeline}
    (settles : Settles before (fun _ => False) keptEngine result)
    (same : before.engines = earlier.engines) :
    Settles earlier (fun _ => False) keptEngine result where
  transport := fun transport active =>
    (settles.transport transport active).imp_right fun rest =>
      .inl (rest.resolve_right fun kept => kept.1)
  engine := by
    rw [← same]
    exact settles.engine

theorem Settles.all {pipeline : Pipeline}
    (settles : Settles pipeline (fun _ => False) (pipeline.engine = some ·) result)
    (vacant : pipeline.engine = none) : SettlesAll result := by
  intro other
  constructor
  · intro transport active
    refine (settles.transport transport active).imp_right fun rest => ?_
    exact .inl (rest.resolve_right fun kept => kept.1)
  · intro engine current
    refine (settles.engine engine current).imp_right fun rest => ?_
    refine .inl (rest.resolve_right fun kept => ?_)
    rw [vacant] at kept
    cases kept.1

end Settles

theorem finish_settles (self : Pipeline) :
    Settles self (self.activeTransport = some ·) (self.engine = some ·) (finish self) where
  transport := fun _ active => .inr (.inr ⟨active, rfl⟩)
  engine := fun _ current => .inr (.inr ⟨current, rfl⟩)

/-! ## Stopping -/

/-- What follows a stop refers to no other engine than before. -/
def SettlesAfter (next : Block) : Prop :=
  ∀ self : Pipeline, self.activeTransport = none →
    Settles self (fun _ => False) (self.engine = some ·) (next self)

theorem finish_settlesAfter : SettlesAfter finish := by
  intro self vacant
  refine (finish_settles self).mono ?_ (fun _ current => current)
  intro transport active
  rw [vacant] at active
  cases active

section Stop

variable (awaits : StopAwaits) (after : After) {next : Block} (continues : SettlesAfter next)
  (self : Pipeline)

include continues

theorem stopActiveTransport_settles :
    Settles self (fun _ => False) (self.engine = some ·)
      (stopActiveTransport awaits after next self) := by
  unfold stopActiveTransport
  split
  next vacant => exact continues self vacant
  next transport active =>
    split
    next _ =>
      exact ⟨fun _ _ => .inr (.inl trivial), fun _ current => .inr (.inr ⟨current, rfl⟩)⟩
    next _ => exact (continues self.clearTransport rfl).of_engines rfl

theorem stopEngine_settlesAll : SettlesAll (stopEngine awaits after next self) := by
  unfold stopEngine
  split
  next vacant => exact (stopActiveTransport_settles awaits after continues self).all vacant
  next engine current =>
    split
    next _ => exact fun _ => ⟨fun _ _ => .inr (.inl trivial), fun _ _ => .inr (.inl trivial)⟩
    next _ => exact (stopActiveTransport_settles awaits after continues _).all rfl

theorem stopTransport_settlesAll : SettlesAll (stopTransport awaits after next self) := by
  unfold stopTransport
  split
  · exact fun _ => ⟨fun _ _ => .inr (.inl trivial), fun _ _ => .inr (.inl trivial)⟩
  · exact stopEngine_settlesAll awaits after continues _

end Stop

/-! ## Starting -/

/-- The exceptions that the transport's `start` raises are handled. -/
def Launch.Handled (launch : Launch) : Prop :=
  (∀ error, launch.startNow = some error → error.failsTransmission = true) ∧
    ∀ error, launch.startLater = some error → error.failsTransmission = true

def After.Handled : After → Prop
  | .nothing => True
  | .build launch => launch.Handled

def Point.Handled : Point → Prop
  | .statsStopping after | .engineStopping _ after | .transportStopping _ after => after.Handled
  | .transportStarting _ launch => launch.Handled
  | _ => True

section Start

variable (awaits : StopAwaits) (self : Pipeline)

theorem fail_settlesAll {error : ErrorKind} (handled : error.failsTransmission = true) :
    SettlesAll (fail awaits error self) := by
  unfold fail
  rw [if_pos handled]
  exact stopTransport_settlesAll awaits .nothing finish_settlesAfter self

theorem fail_settles (error : ErrorKind) :
    Settles self (self.activeTransport = some ·) (self.engine = some ·)
      (fail awaits error self) := by
  cases handled : error.failsTransmission with
  | true =>
      exact (fail_settlesAll awaits self handled self).mono (fun _ => False.elim)
        (fun _ => False.elim)
  | false =>
      unfold fail
      rw [if_neg (by simp [handled])]
      exact finish_settles self

variable {launch : Launch} (handled : launch.Handled)

include handled

theorem startTransport_settles {transport : Nat} (active : self.activeTransport = some transport) :
    Settles self (fun _ => False) (self.engine = some ·)
      (startTransport awaits launch transport self) := by
  unfold startTransport
  split
  next client =>
    refine ⟨?_, fun _ current => .inr (.inr ⟨current, rfl⟩)⟩
    intro other published
    obtain rfl := Option.some.inj (active.symm.trans published)
    exact .inl (setStarted_started_self transport true)
  next late =>
    split
    next error raises =>
      exact (fail_settlesAll awaits self (handled.1 error raises) self).mono
        (fun _ => False.elim) (fun _ => False.elim)
    next _ =>
      refine ⟨?_, fun _ current => .inr (.inr ⟨current, rfl⟩)⟩
      intro other published
      obtain rfl := Option.some.inj (active.symm.trans published)
      exact .inr (.inl ⟨rfl, late⟩)

theorem build_settlesAfter : SettlesAfter (build awaits launch) := by
  intro self vacant
  have none : ∀ transport, ¬self.activeTransport = some transport := by simp [vacant]
  unfold build
  split
  · exact (fail_settles awaits self _).mono (fun transport => (none transport).elim)
      (fun _ => id)
  · exact (fail_settles awaits self _).mono (fun transport => (none transport).elim)
      (fun _ => id)
  · next kind _ _ =>
      exact (startTransport_settles awaits (self.publish kind) handled rfl).of_engines rfl

omit handled in
theorem startEngine_settles :
    Settles self (self.activeTransport = some ·) (fun _ => False)
      (startEngine awaits launch self) := by
  unfold startEngine
  split
  · exact (fail_settlesAll awaits self.createEngine rfl self).mono (fun _ => False.elim)
      (fun _ => id)
  · refine ⟨fun _ active => .inr (.inr ⟨active, rfl⟩), ?_⟩
    intro engine current
    obtain rfl := Option.some.inj current
    exact .inl (.inl (setEngine_self self.created .running))

theorem transportStarted_settles (transport : Nat) :
    Settles self
      (fun other => self.activeTransport = some other ∧
        ¬(Point.transportStarting transport launch).HandlesTransport self other)
      (fun _ => False) (transportStarted awaits transport launch self) := by
  unfold transportStarted
  split
  next client =>
    refine (startEngine_settles awaits self).mono ?_ (fun _ => id)
    intro other active
    refine ⟨active, ?_⟩
    intro handles
    obtain ⟨rfl, late⟩ := handles
    exact late client
  next late =>
    split
    next error raises =>
      exact (fail_settlesAll awaits self (handled.2 error raises) self).mono
        (fun _ => False.elim) (fun _ => id)
    next _ =>
      let begun := self.setStarted transport true
      have settles : Settles begun (begun.activeTransport = some ·) (fun _ => False)
          (startEngine awaits launch begun) := startEngine_settles awaits begun
      refine ⟨?_, fun engine current => (settles.engine engine current).imp_right fun rest =>
        .inl (rest.resolve_right fun kept => kept.1)⟩
      intro other active
      by_cases same : other = transport
      · rcases settles.transport other active with runs | handles | kept
        · exact .inl runs
        · exact .inr (.inl handles)
        · left
          rw [kept.2, same]
          exact setStarted_started_self transport true
      · refine (settles.transport other active).imp_right fun rest => rest.imp_right fun kept => ?_
        refine ⟨⟨kept.1, ?_⟩, kept.2.trans (setStarted_of_ne same true)⟩
        intro handles
        exact same handles.1.symm

end Start

/-! ## One step -/

theorem runAfter_settlesAfter (awaits : StopAwaits) {after : After} (handled : after.Handled) :
    SettlesAfter (runAfter awaits after) := by
  cases after with
  | nothing => exact finish_settlesAfter
  | build launch => exact build_settlesAfter awaits handled

theorem startTransmission_settles (awaits : StopAwaits) {launch : Launch}
    (handled : launch.Handled) (self : Pipeline) :
    Settles self (self.activeTransport = some ·) (self.engine = some ·)
      (startTransmission awaits launch self) := by
  unfold startTransmission
  split
  · exact fail_settles awaits self _
  · split
    · exact (stopTransport_settlesAll awaits (.build launch) (build_settlesAfter awaits handled)
        self self).mono (fun _ => False.elim) (fun _ => False.elim)
    · next vacant =>
        exact (build_settlesAfter awaits handled self (by simpa using vacant)).mono
          (fun _ => False.elim) (fun _ => id)

/-- Once its await is over, a request keeps no reference that it was to handle itself. -/
theorem resume_settles (awaits : StopAwaits) {point : Point} (handled : point.Handled)
    {run : Block} (chosen : point.resume awaits = some run) (self : Pipeline) :
    Settles self
      (fun transport => self.activeTransport = some transport ∧
        ¬point.HandlesTransport self transport)
      (fun engine => self.engine = some engine ∧ ¬point.HandlesEngine) (run self) := by
  cases point with
  | done => cases chosen
  | statsStopping after =>
      cases chosen
      exact (stopEngine_settlesAll awaits after (runAfter_settlesAfter awaits handled) _
        self).mono (fun _ => False.elim) (fun _ => False.elim)
  | engineStopping engine after =>
      cases chosen
      exact ((stopActiveTransport_settles awaits after (runAfter_settlesAfter awaits handled)
        (self.clearEngine engine)).all rfl self).mono (fun _ => False.elim) (fun _ => False.elim)
  | transportStopping transport after =>
      cases chosen
      have settles : Settles self (fun _ => False) (self.engine = some ·)
          (runAfter awaits after self.clearTransport) :=
        (runAfter_settlesAfter awaits handled self.clearTransport rfl).of_engines rfl
      exact settles.mono (fun _ => False.elim) (fun _ current => ⟨current, id⟩)
  | transportStarting transport launch =>
      cases chosen
      exact (transportStarted_settles awaits self handled transport).mono (fun _ => id)
        (fun _ => False.elim)
  | engineStarting =>
      cases chosen
      exact ⟨fun _ active => .inr (.inr ⟨⟨active, id⟩, rfl⟩),
        fun _ current => .inr (.inr ⟨⟨current, id⟩, rfl⟩)⟩

/-- A request goes on handling a transport that was built, whatever the others do. -/
theorem Point.HandlesTransport.mono {before after : Pipeline} (grows : Grows before after)
    {transport : Nat} (known : transport < before.built) {point : Point}
    (handles : point.HandlesTransport before transport) :
    point.HandlesTransport after transport := by
  cases point with
  | done => cases handles
  | statsStopping next => trivial
  | engineStopping engine next => trivial
  | transportStopping stopping next => trivial
  | transportStarting starting launch =>
      obtain ⟨same, late⟩ := handles
      refine ⟨same, ?_⟩
      rw [grows.kinds transport known]
      exact late
  | engineStarting => cases handles

theorem launch_covered {self : System} (sane : Sane self) (covered : Covered self) {block : Block}
    (grows : Grows self.shared (block self.shared).1)
    (settles : Settles self.shared (self.shared.activeTransport = some ·)
      (self.shared.engine = some ·) (block self.shared)) : Covered (self.launch block) where
  transport := by
    intro transport active
    rcases settles.transport transport active with runs | handles | ⟨published, same⟩
    · exact .inl runs
    · exact .inr (waits_launch block (.inr handles))
    · rcases covered.transport transport published with runs | waits
      · left
        change ((block self.shared).1.transports transport).started = true
        rw [same]
        exact runs
      · have known := sane.shared.activeTransport transport published
        exact .inr (waits_launch block (.inl (waits.mono fun _ handles =>
          handles.mono grows known)))
  engine := by
    intro engine current
    rcases settles.engine engine current with begun | handles | ⟨referenced, same⟩
    · exact .inl begun
    · exact .inr (waits_launch block (.inr handles))
    · rcases covered.engine engine referenced with begun | waits
      · left
        change ((block self.shared).1.engines engine).Begun
        rw [same]
        exact begun
      · exact .inr (waits_launch block (.inl waits))

/-- A step raises no exception that `_start_transmission_async` lets through while a transport
is published. -/
def Handled (self : System) : Event → Prop
  | .startTransmission launch _ => launch.Handled
  | .resume request _ => ∀ point, self.points[request]? = some point → point.Handled
  | _ => True

theorem resume_covered {self next : System} {request : Nat} {awaits : StopAwaits}
    (sane : Sane self) (covered : Covered self) (handled : Handled self (.resume request awaits))
    (taken : step self (.resume request awaits) = some next) : Covered next := by
  obtain ⟨point, run, found, chosen, rfl⟩ := advance_eq_some.mp taken
  have member := List.mem_of_getElem? found
  have grows := (resume_leads awaits sane.shared (sane.points point member) chosen).grows
  have settles := resume_settles awaits (handled point found) chosen self.shared
  constructor
  · intro transport active
    rcases settles.transport transport active with runs | handles | ⟨⟨published, unlike⟩, same⟩
    · exact .inl runs
    · exact .inr (waits_set found (.inl handles))
    · rcases covered.transport transport published with runs | waits
      · left
        change ((run self.shared).1.transports transport).started = true
        rw [same]
        exact runs
      · have known := sane.shared.activeTransport transport published
        exact .inr (Waits.mono (waits_set found (.inr ⟨unlike, waits⟩)) fun _ handles =>
          handles.mono grows known)
  · intro engine current
    rcases settles.engine engine current with begun | handles | ⟨⟨referenced, unlike⟩, same⟩
    · exact .inl begun
    · exact .inr (waits_set found (.inl handles))
    · rcases covered.engine engine referenced with begun | waits
      · left
        change ((run self.shared).1.engines engine).Begun
        rw [same]
        exact begun
      · exact .inr (waits_set found (.inr ⟨unlike, waits⟩))

theorem engineEnds_covered {self next : System} {engine : Nat} (covered : Covered self)
    (taken : step self (.engineEnds engine) = some next) : Covered next := by
  obtain ⟨runs, rfl⟩ := engineEnds_eq_some taken
  refine ⟨covered.transport, ?_⟩
  intro other current
  by_cases same : other = engine
  · left
    right
    rw [same]
    exact setEngine_self engine .ended
  · refine (covered.engine other current).imp_left fun begun => ?_
    change ((self.shared.setEngine engine .ended).engines other).Begun
    rw [setEngine_of_ne same]
    exact begun

theorem step_covered {self next : System} {event : Event} (sane : Sane self)
    (covered : Covered self) (handled : Handled self event)
    (taken : step self event = some next) : Covered next := by
  cases event with
  | startTransmission launch awaits =>
      obtain rfl := Option.some.inj taken
      exact launch_covered sane covered
        (startTransmission_sound awaits sane.shared launch).grows
        (startTransmission_settles awaits handled self.shared)
  | stopTransport awaits =>
      obtain rfl := Option.some.inj taken
      exact launch_covered sane covered
        (stopTransport_sound awaits .nothing finish_soundAfter sane.shared).grows
        ((stopTransport_settlesAll awaits .nothing finish_settlesAfter self.shared
          self.shared).mono (fun _ => False.elim) (fun _ => False.elim))
  | resume request awaits => exact resume_covered sane covered handled taken
  | engineEnds engine => exact engineEnds_covered covered taken

/-! ## No request in progress -/

/-- What runs is exactly what is referenced; an engine that ended by itself is still
referenced. -/
structure Pipeline.Exactly (pipeline : Pipeline) : Prop where
  transport : ∀ transport, (pipeline.transports transport).started = true ↔
    pipeline.activeTransport = some transport
  engine : ∀ engine, pipeline.engines engine = .running → pipeline.engine = some engine
  begun : ∀ engine, pipeline.engine = some engine → (pipeline.engines engine).Begun

theorem exactly_of_idle {system : System} (tracked : system.shared.Tracked)
    (covered : Covered system) (idle : system.Idle .done) : system.shared.Exactly where
  transport := fun transport =>
    ⟨tracked.transport transport, fun active =>
      (covered.transport transport active).resolve_right (idle.not_waits id)⟩
  engine := tracked.engine
  begun := fun engine current =>
    (covered.engine engine current).resolve_right (idle.not_waits id)

end TcpSim.Gui.Interleaved
