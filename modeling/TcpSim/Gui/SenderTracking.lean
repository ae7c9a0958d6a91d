import TcpSim.Gui.SenderPipeline

/-! Which changes to the shared fields of the sender lose sight of something that runs. -/

set_option autoImplicit false

namespace TcpSim.Gui.Interleaved

open Function

/-- Every running transport and every running engine is referenced. -/
structure Pipeline.Tracked (pipeline : Pipeline) : Prop where
  transport : ∀ transport, (pipeline.transports transport).started = true →
    pipeline.activeTransport = some transport
  engine : ∀ engine, pipeline.engines engine = .running → pipeline.engine = some engine

/-- Only transports and engines that were created can run. -/
structure Pipeline.Valid (pipeline : Pipeline) : Prop where
  transport : ∀ transport, (pipeline.transports transport).started = true → transport < pipeline.built
  engine : ∀ engine, pipeline.engines engine = .running → engine < pipeline.created
  activeTransport : ∀ transport, pipeline.activeTransport = some transport → transport < pipeline.built
  currentEngine : ∀ engine, pipeline.engine = some engine → engine < pipeline.created

def Pipeline.TransportStopped (self : Pipeline) : Prop :=
  ∀ transport, self.activeTransport = some transport → (self.transports transport).started = false

def Pipeline.EngineStopped (self : Pipeline) : Prop :=
  ∀ engine, self.engine = some engine → self.engines engine ≠ .running

/-- Objects keep their kind, and an engine that was created does not start again. -/
structure Grows (before after : Pipeline) : Prop where
  built : before.built ≤ after.built
  created : before.created ≤ after.created
  kinds : ∀ transport, transport < before.built →
    (after.transports transport).kind = (before.transports transport).kind
  engines : ∀ engine, engine < before.created → before.engines engine ≠ .running →
    after.engines engine ≠ .running

theorem Grows.refl (self : Pipeline) : Grows self self where
  built := le_rfl
  created := le_rfl
  kinds := fun _ _ => rfl
  engines := fun _ _ stopped => stopped

theorem Grows.trans {first second third : Pipeline} (left : Grows first second)
    (right : Grows second third) : Grows first third where
  built := left.built.trans right.built
  created := left.created.trans right.created
  kinds := fun transport known =>
    (right.kinds transport (known.trans_le left.built)).trans (left.kinds transport known)
  engines := fun engine known stopped =>
    right.engines engine (known.trans_le left.created) (left.engines engine known stopped)

/-- The change keeps the numbering, and neither loses nor finds anything that runs. -/
structure Quiet (before after : Pipeline) : Prop where
  grows : Grows before after
  valid : after.Valid
  tracked : after.Tracked ↔ before.Tracked

theorem Quiet.refl {self : Pipeline} (valid : self.Valid) : Quiet self self where
  grows := .refl self
  valid := valid
  tracked := Iff.rfl

theorem Quiet.trans {first second third : Pipeline} (left : Quiet first second)
    (right : Quiet second third) : Quiet first third where
  grows := left.grows.trans right.grows
  valid := right.valid
  tracked := right.tracked.trans left.tracked

/-! ## Transports -/

section Changes

variable {self : Pipeline} (valid : self.Valid)

@[simp] theorem setStarted_started_self (transport : Nat) (started : Bool) :
    ((self.setStarted transport started).transports transport).started = started := by
  simp [Pipeline.setStarted]

theorem setStarted_of_ne {transport other : Nat} (distinct : other ≠ transport)
    (started : Bool) :
    (self.setStarted transport started).transports other = self.transports other := by
  simp [Pipeline.setStarted, distinct]

@[simp] theorem setStarted_kind (transport other : Nat) (started : Bool) :
    ((self.setStarted transport started).transports other).kind = (self.transports other).kind := by
  by_cases same : other = transport
  · subst same
    simp [Pipeline.setStarted]
  · rw [setStarted_of_ne same]

theorem setStarted_grows (transport : Nat) (started : Bool) :
    Grows self (self.setStarted transport started) where
  built := le_rfl
  created := le_rfl
  kinds := fun other _ => setStarted_kind transport other started
  engines := fun _ _ stopped => stopped

include valid in
theorem setStarted_valid {transport : Nat} (known : transport < self.built) (started : Bool) :
    (self.setStarted transport started).Valid where
  transport := by
    intro other runs
    by_cases same : other = transport
    · exact same ▸ known
    · rw [setStarted_of_ne same] at runs
      exact valid.transport other runs
  engine := valid.engine
  activeTransport := valid.activeTransport
  currentEngine := valid.currentEngine

theorem setStarted_tracked (transport : Nat) :
    (self.setStarted transport true).Tracked ↔
      self.Tracked ∧ self.activeTransport = some transport := by
  constructor
  · intro after
    have published := after.transport transport (setStarted_started_self transport true)
    refine ⟨⟨?_, after.engine⟩, published⟩
    intro other runs
    by_cases same : other = transport
    · rw [same]
      exact published
    · exact after.transport other (by rwa [setStarted_of_ne same])
  · intro before
    obtain ⟨tracked, active⟩ := before
    refine ⟨?_, tracked.engine⟩
    intro other runs
    by_cases same : other = transport
    · rw [same]
      exact active
    · rw [setStarted_of_ne same] at runs
      exact tracked.transport other runs

include valid in
theorem setStarted_quiet {transport : Nat} (active : self.activeTransport = some transport)
    (started : Bool) : Quiet self (self.setStarted transport started) where
  grows := setStarted_grows transport started
  valid := setStarted_valid valid (valid.activeTransport transport active) started
  tracked := by
    constructor
    · intro after
      refine ⟨?_, after.engine⟩
      intro other runs
      by_cases same : other = transport
      · rw [same]
        exact active
      · exact after.transport other (by rwa [setStarted_of_ne same])
    · intro before
      refine ⟨?_, before.engine⟩
      intro other runs
      by_cases same : other = transport
      · rw [same]
        exact active
      · rw [setStarted_of_ne same] at runs
        exact before.transport other runs

theorem clearTransport_grows : Grows self self.clearTransport where
  built := le_rfl
  created := le_rfl
  kinds := fun _ _ => rfl
  engines := fun _ _ stopped => stopped

include valid in
theorem clearTransport_valid : self.clearTransport.Valid where
  transport := valid.transport
  engine := valid.engine
  activeTransport := by
    intro transport active
    cases active
  currentEngine := valid.currentEngine

/-- `_active_transport = None` loses sight of the transport exactly when it is running. -/
theorem clearTransport_tracked :
    self.clearTransport.Tracked ↔ self.Tracked ∧ self.TransportStopped := by
  constructor
  · intro after
    have none : ∀ transport, (self.transports transport).started = false := by
      intro transport
      cases runs : (self.transports transport).started with
      | false => rfl
      | true => cases after.transport transport runs
    refine ⟨⟨?_, after.engine⟩, fun transport _ => none transport⟩
    intro transport runs
    cases (none transport).symm.trans runs
  · intro before
    obtain ⟨tracked, stopped⟩ := before
    refine ⟨?_, tracked.engine⟩
    intro transport runs
    have idle := stopped transport (tracked.transport transport runs)
    cases idle.symm.trans runs

include valid in
theorem clearTransport_quiet (stopped : self.TransportStopped) :
    Quiet self self.clearTransport where
  grows := clearTransport_grows
  valid := clearTransport_valid valid
  tracked := clearTransport_tracked.trans (and_iff_left stopped)

theorem publish_of_ne {transport : Nat} (kind : TransportKind) (distinct : transport ≠ self.built) :
    (self.publish kind).transports transport = self.transports transport := by
  simp [Pipeline.publish, distinct]

include valid in
theorem publish_quiet (vacant : self.activeTransport = none) (kind : TransportKind) :
    Quiet self (self.publish kind) where
  grows :=
    { built := Nat.le_succ self.built
      created := le_rfl
      kinds := fun transport known => by rw [publish_of_ne kind known.ne]
      engines := fun _ _ stopped => stopped }
  valid :=
    { transport := by
        intro transport runs
        by_cases same : transport = self.built
        · rw [same]
          exact Nat.lt_succ_self self.built
        · rw [publish_of_ne kind same] at runs
          exact (valid.transport transport runs).trans (Nat.lt_succ_self _)
      engine := valid.engine
      activeTransport := by
        intro transport active
        obtain rfl := Option.some.inj active
        exact Nat.lt_succ_self self.built
      currentEngine := valid.currentEngine }
  tracked := by
    constructor
    · intro after
      refine ⟨?_, after.engine⟩
      intro transport runs
      have old := (valid.transport transport runs).ne
      have same := after.transport transport (by rwa [publish_of_ne kind old])
      exact absurd (Option.some.inj same).symm old
    · intro before
      refine ⟨?_, before.engine⟩
      intro transport runs
      by_cases same : transport = self.built
      · rw [same]
        rfl
      · rw [publish_of_ne kind same] at runs
        have active := before.transport transport runs
        rw [vacant] at active
        cases active

/-! ## Engines -/

@[simp] theorem setEngine_self (engine : Nat) (task : EngineTask) :
    (self.setEngine engine task).engines engine = task := by
  simp [Pipeline.setEngine]

theorem setEngine_of_ne {engine other : Nat} (distinct : other ≠ engine) (task : EngineTask) :
    (self.setEngine engine task).engines other = self.engines other := by
  simp [Pipeline.setEngine, distinct]

theorem EngineTask.cancel_ne_running (task : EngineTask) : task.cancel ≠ .running := by
  cases task with
  | absent => simp [EngineTask.cancel]
  | running => simp [EngineTask.cancel]
  | cancelled => simp [EngineTask.cancel]
  | ended => simp [EngineTask.cancel]

theorem setEngine_ne_running {engine other : Nat} {task : EngineTask} (stops : task ≠ .running)
    (stopped : self.engines other ≠ .running) :
    (self.setEngine engine task).engines other ≠ .running := by
  by_cases same : other = engine
  · rw [same, setEngine_self]
    exact stops
  · rw [setEngine_of_ne same]
    exact stopped

theorem setEngine_grows {engine : Nat} {task : EngineTask} (stops : task ≠ .running) :
    Grows self (self.setEngine engine task) where
  built := le_rfl
  created := le_rfl
  kinds := fun _ _ => rfl
  engines := fun _ _ stopped => setEngine_ne_running stops stopped

theorem setEngine_running {engine other : Nat} {task : EngineTask} (stops : task ≠ .running)
    (runs : (self.setEngine engine task).engines other = .running) :
    other ≠ engine ∧ self.engines other = .running := by
  by_cases same : other = engine
  · rw [same, setEngine_self] at runs
    exact absurd runs stops
  · rw [setEngine_of_ne same] at runs
    exact ⟨same, runs⟩

include valid in
theorem setEngine_valid {engine : Nat} {task : EngineTask} (stops : task ≠ .running) :
    (self.setEngine engine task).Valid where
  transport := valid.transport
  engine := fun other runs => valid.engine other (setEngine_running stops runs).2
  activeTransport := valid.activeTransport
  currentEngine := valid.currentEngine

include valid in
/-- The engine that `_engine` refers to is cancelled, or ends. -/
theorem setEngine_quiet {engine : Nat} (current : self.engine = some engine) {task : EngineTask}
    (stops : task ≠ .running) : Quiet self (self.setEngine engine task) where
  grows := setEngine_grows stops
  valid := setEngine_valid valid stops
  tracked := by
    constructor
    · intro after
      refine ⟨after.transport, ?_⟩
      intro other runs
      by_cases same : other = engine
      · rw [same]
        exact current
      · exact after.engine other (by rwa [setEngine_of_ne same])
    · intro before
      exact ⟨before.transport, fun other runs =>
        before.engine other (setEngine_running stops runs).2⟩

theorem clearEngine_grows (engine : Nat) : Grows self (self.clearEngine engine) where
  built := le_rfl
  created := le_rfl
  kinds := fun _ _ => rfl
  engines := fun _ _ stopped => setEngine_ne_running (by simp) stopped

include valid in
theorem clearEngine_valid (engine : Nat) : (self.clearEngine engine).Valid where
  transport := valid.transport
  engine := fun other runs => valid.engine other (setEngine_running (by simp) runs).2
  activeTransport := valid.activeTransport
  currentEngine := by
    intro other current
    cases current

/-- `_engine = None` after the stop of an engine loses sight of another one that runs. -/
theorem clearEngine_tracked {engine : Nat} (ended : self.engines engine ≠ .running) :
    (self.clearEngine engine).Tracked ↔ self.Tracked ∧ self.EngineStopped := by
  constructor
  · intro after
    have none : ∀ other, self.engines other ≠ .running := by
      intro other runs
      have different : other ≠ engine := by
        intro same
        rw [same] at runs
        exact ended runs
      have still : (self.clearEngine engine).engines other = .running :=
        (setEngine_of_ne different .absent).trans runs
      cases after.engine other still
    exact ⟨⟨after.transport, fun other runs => absurd runs (none other)⟩, fun other _ => none other⟩
  · intro before
    obtain ⟨tracked, stopped⟩ := before
    refine ⟨tracked.transport, ?_⟩
    intro other runs
    have running := (setEngine_running (by simp) runs).2
    exact absurd running (stopped other (tracked.engine other running))

include valid in
theorem clearEngine_quiet {engine : Nat} (ended : self.engines engine ≠ .running)
    (stopped : self.EngineStopped) : Quiet self (self.clearEngine engine) where
  grows := clearEngine_grows engine
  valid := clearEngine_valid valid engine
  tracked := (clearEngine_tracked ended).trans (and_iff_left stopped)

theorem createEngine_of_ne {engine : Nat} (distinct : engine ≠ self.created) :
    self.createEngine.engines engine = self.engines engine := by
  simp [Pipeline.createEngine, distinct]

theorem createEngine_grows : Grows self self.createEngine where
  built := le_rfl
  created := Nat.le_succ self.created
  kinds := fun _ _ => rfl
  engines := fun engine known stopped => by rwa [createEngine_of_ne known.ne]

include valid in
theorem createEngine_valid : self.createEngine.Valid where
  transport := valid.transport
  engine := by
    intro engine runs
    by_cases same : engine = self.created
    · rw [same]
      exact Nat.lt_succ_self self.created
    · rw [createEngine_of_ne same] at runs
      exact (valid.engine engine runs).trans (Nat.lt_succ_self _)
  activeTransport := valid.activeTransport
  currentEngine := by
    intro engine current
    obtain rfl := Option.some.inj current
    exact Nat.lt_succ_self self.created

theorem createEngine_running {engine : Nat} (runs : self.createEngine.engines engine = .running) :
    engine ≠ self.created ∧ self.engines engine = .running := by
  by_cases same : engine = self.created
  · rw [same] at runs
    simp [Pipeline.createEngine] at runs
  · rw [createEngine_of_ne same] at runs
    exact ⟨same, runs⟩

include valid in
theorem createEngine_tracked :
    self.createEngine.Tracked ↔ self.Tracked ∧ self.EngineStopped := by
  constructor
  · intro after
    have none : ∀ engine, self.engines engine ≠ .running := by
      intro engine runs
      have old := (valid.engine engine runs).ne
      have same := after.engine engine ((createEngine_of_ne old).trans runs)
      exact old (Option.some.inj same).symm
    exact ⟨⟨after.transport, fun engine runs => absurd runs (none engine)⟩,
      fun engine _ => none engine⟩
  · intro before
    obtain ⟨tracked, stopped⟩ := before
    refine ⟨tracked.transport, ?_⟩
    intro engine runs
    have running := (createEngine_running runs).2
    exact absurd running (stopped engine (tracked.engine engine running))

include valid in
theorem runEngine_valid : (self.createEngine.setEngine self.created .running).Valid where
  transport := valid.transport
  engine := by
    intro engine runs
    by_cases same : engine = self.created
    · rw [same]
      exact Nat.lt_succ_self self.created
    · rw [setEngine_of_ne same] at runs
      exact (createEngine_valid valid).engine engine runs
  activeTransport := valid.activeTransport
  currentEngine := (createEngine_valid valid).currentEngine

theorem runEngine_grows : Grows self (self.createEngine.setEngine self.created .running) where
  built := le_rfl
  created := Nat.le_succ self.created
  kinds := fun _ _ => rfl
  engines := by
    intro engine known stopped
    rw [setEngine_of_ne known.ne, createEngine_of_ne known.ne]
    exact stopped

theorem runEngine_tracked :
    (self.createEngine.setEngine self.created .running).Tracked ↔ self.createEngine.Tracked := by
  constructor
  · intro after
    refine ⟨after.transport, ?_⟩
    intro engine runs
    have other := (createEngine_running runs).1
    exact after.engine engine (by rwa [setEngine_of_ne other])
  · intro before
    refine ⟨before.transport, ?_⟩
    intro engine runs
    by_cases same : engine = self.created
    · rw [same]
      rfl
    · rw [setEngine_of_ne same] at runs
      exact before.engine engine runs

end Changes

end TcpSim.Gui.Interleaved
