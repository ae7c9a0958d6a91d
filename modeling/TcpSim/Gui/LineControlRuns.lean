import TcpSim.Engine.LineSelections
import TcpSim.Gui.StartFailures
import TcpSim.Gui.Transmission
import TcpSim.Lib.Runs

/-! The line controls that the controller stores, over runs of completed requests. They are
stored before they are checked, and checked only by an engine. -/

set_option autoImplicit false

namespace TcpSim.Gui

open Effects Engine

/-! ## What a start does before its engine -/

/-- The body of a start up to the engine: the adjusted settings and what was loaded. -/
def prepareTransmission (settings : RuntimeSettings) (stream : StreamSettings)
    (outcome : StartOutcome) : ControllerM (StreamSettings × Loaded) := do
  let stream ← applyVelocityCompatibilityPreset stream
  let loaded ← MonadExcept.ofExcept outcome.load
  bindTransport settings (some stream) outcome.bind
  return (stream, loaded)

/-- The rest of the body: the engine, its line controls and its start. -/
def runEngine (outcome : StartOutcome) (prepared : StreamSettings × Loaded) : ControllerM Unit := do
  modify fun self => { self with engine := some { records := prepared.2.records } }
  setLineControls outcome.lineControls
  call outcome.engineStart
  modify fun self => { self with statsTask := true }
  reportStarted prepared.1 prepared.2 outcome.progress

theorem startTransmissionBody_eq (settings : RuntimeSettings) (stream : StreamSettings)
    (outcome : StartOutcome) :
    startTransmissionBody settings stream outcome =
      prepareTransmission settings stream outcome >>= runEngine outcome := by
  simp only [startTransmissionBody, prepareTransmission, runEngine, bind_assoc, pure_bind]

/-! ## Requests leave the stored controls alone -/

section Stored

variable (controls : LineControls)

def Stores (self : Controller) : Prop := self.lineControls = controls

theorem emit_stores (message : String) : Preserves (Stores controls) (emit message) :=
  .of_modify fun _ stored => stored

theorem stopEngine_stores (outcome : Option Raised) :
    Preserves (Stores controls) (stopEngine outcome) := by
  refine .get_bind fun _ => .ite ?_ (.pure _ ())
  exact .bind (call_preserves outcome) fun _ => .bind (.of_modify fun _ stored => stored) fun _ =>
    emit_stores controls _

theorem stopActiveTransport_stores (outcome : Option Raised) :
    Preserves (Stores controls) (stopActiveTransport outcome) := by
  refine .get_bind fun _ => .ite ?_ (.pure _ ())
  refine .bind (call_preserves outcome) fun _ => .bind (emit_stores controls _) fun _ =>
    .bind (.of_modify fun _ stored => stored) fun _ => ?_
  exact .bind (emit_stores controls _) fun _ => .bind (emit_stores controls _) fun _ =>
    .bind (emit_stores controls _) fun _ => emit_stores controls _

theorem stopTransportAsync_stores (outcome : StopOutcome) :
    Preserves (Stores controls) (stopTransportAsync outcome) :=
  .bind (.of_modify fun _ stored => stored) fun _ =>
    .bind (stopEngine_stores controls outcome.engineStop) fun _ =>
      stopActiveTransport_stores controls outcome.transportStop

theorem buildTransport_stores (settings : RuntimeSettings) (construct : Option Raised) :
    Preserves (Stores controls) (buildTransport settings construct) := by
  unfold buildTransport build
  cases transportKind settings with
  | none => exact .throw _ _
  | some kind => exact .bind (call_preserves construct) fun _ => .pure _ kind

theorem bindTransport_stores (settings : RuntimeSettings) (stream : Option StreamSettings)
    (outcome : BindOutcome) : Preserves (Stores controls) (bindTransport settings stream outcome) := by
  have rebinds : Preserves (Stores controls) (rebindIfActive outcome.rebind) := by
    refine .get_bind fun _ => .ite ?_ (.pure _ ())
    exact .bind (emit_stores controls _) fun _ => stopTransportAsync_stores controls _
  have connections : Preserves (Stores controls) (emitConnections outcome.connected) :=
    .get_bind fun _ => .ite (emit_stores controls _) (.pure _ ())
  refine .bind rebinds fun _ => .bind (buildTransport_stores controls settings _) fun _ => ?_
  exact .bind (.of_modify fun _ stored => stored) fun _ => .bind (call_preserves _) fun _ =>
    .bind (emit_stores controls _) fun _ => connections

theorem prepareTransmission_stores (settings : RuntimeSettings) (stream : StreamSettings)
    (outcome : StartOutcome) :
    Preserves (Stores controls) (prepareTransmission settings stream outcome) := by
  have preset : Preserves (Stores controls) (applyVelocityCompatibilityPreset stream) := by
    unfold applyVelocityCompatibilityPreset
    split
    · exact .pure _ _
    · exact .bind (emit_stores controls _) fun _ => .pure _ _
  have load : Preserves (Stores controls)
      (MonadExcept.ofExcept outcome.load : ControllerM Loaded) := by
    cases outcome.load with
    | error raised => exact .throw _ raised
    | ok loaded => exact .pure _ loaded
  exact .bind preset fun adjusted => .bind load fun loaded =>
    .bind (bindTransport_stores controls settings (some adjusted) outcome.bind) fun _ => .pure _ _

theorem runEngine_stores (outcome : StartOutcome) (prepared : StreamSettings × Loaded) :
    Preserves (Stores controls) (runEngine outcome prepared) := by
  have sets : Preserves (Stores controls) (setLineControls outcome.lineControls) :=
    .get_bind fun _ => .ite (call_preserves _) (.pure _ ())
  have reports : Preserves (Stores controls)
      (reportStarted prepared.1 prepared.2 outcome.progress) := by
    refine .bind (emit_stores controls _) fun _ => .bind (emit_stores controls _) fun _ =>
      .bind (emit_stores controls _) fun _ => .bind (emit_stores controls _) fun _ => ?_
    exact .ite (emit_stores controls _) (.pure _ ())
  exact .bind (.of_modify fun _ stored => stored) fun _ => .bind sets fun _ =>
    .bind (call_preserves _) fun _ => .bind (.of_modify fun _ stored => stored) fun _ => reports

theorem startTransmissionAsync_stores (settings : RuntimeSettings) (stream : StreamSettings)
    (outcome : StartOutcome) :
    Preserves (Stores controls) (startTransmissionAsync settings stream outcome) := by
  unfold startTransmissionAsync
  rw [startTransmissionBody_eq]
  refine .tryCatch ?_ fun raised => .ite ?_ (.throw _ raised)
  · exact .bind (prepareTransmission_stores controls settings stream outcome) fun prepared =>
      runEngine_stores controls outcome prepared
  · exact .bind (emit_stores controls _) fun _ => stopTransportAsync_stores controls outcome.cleanup

end Stored

/-! ## The controller with its engine's scheduler -/

/-- Each bound is absent or at least 1, and the end is not before the start. -/
structure LineControls.Valid (controls : LineControls) : Prop where
  start_pos : ∀ line ∈ controls.startLine, 1 ≤ line
  end_pos : ∀ line ∈ controls.endLine, 1 ≤ line
  first_pos : ∀ count ∈ controls.firstN, 1 ≤ count
  ordered : ∀ line ∈ controls.startLine, ∀ last ∈ controls.endLine, line ≤ last

theorem LineControls.valid_iff_check {controls : LineControls} :
    controls.Valid ↔
      ∃ lines, LineSelection.check controls.startLine controls.endLine controls.firstN = .ok lines := by
  constructor
  · intro valid
    unfold LineSelection.check
    rw [dif_neg fun below => ?_, dif_neg fun below => ?_, dif_neg fun below => ?_,
      dif_neg fun below => ?_]
    · exact ⟨_, rfl⟩
    · obtain ⟨line, isStart, last, isEnd, before⟩ := below
      have ordered := valid.ordered line isStart last isEnd
      omega
    · obtain ⟨count, isFirst, low⟩ := below
      have positive := valid.first_pos count isFirst
      omega
    · obtain ⟨line, isEnd, low⟩ := below
      have positive := valid.end_pos line isEnd
      omega
    · obtain ⟨line, isStart, low⟩ := below
      have positive := valid.start_pos line isStart
      omega
  · intro accepted
    obtain ⟨lines, accepted⟩ := accepted
    obtain ⟨start, last, first⟩ := LineSelection.check_eq_ok accepted
    exact ⟨start ▸ lines.start_pos, last ▸ lines.end_pos, first ▸ lines.first_pos,
      start ▸ last ▸ lines.ordered⟩

theorem LineControls.not_valid_iff_check {controls : LineControls} :
    ¬ controls.Valid ↔
      ∃ text, LineSelection.check controls.startLine controls.endLine controls.firstN = .error text := by
  rw [valid_iff_check]
  cases LineSelection.check controls.startLine controls.endLine controls.firstN with
  | error text => simp
  | ok lines => simp

structure LineControlled where
  controller : Controller := {}
  /-- Of the engine, while there is one. -/
  scheduler : SendScheduler Bytes := .init [] false

inductive LineRequest where
  | setLineControls (controls : LineControls)
  | startTransmission (world : StartWorld) (settings : RuntimeSettings) (stream : StreamSettings)
  | stopTransport (outcome : StopOutcome)

namespace LineControlled

variable (self : LineControlled)

def tell (message : String) : LineControlled :=
  { self with controller := final (emit message self.controller) }

def store (controls : LineControls) : LineControlled :=
  { self with controller := { self.controller with lineControls := controls } }

/-- `_set_line_controls`: stored first. -/
def setLineControls (controls : LineControls) : LineControlled :=
  let updated := "Line controls updated (start=" ++ showLine controls.startLine ++
    ", end=" ++ showLine controls.endLine ++ ", first_n=" ++ showLine controls.firstN ++ ")."
  if self.controller.engine.isSome then
    match self.scheduler.setLineControls controls.startLine controls.endLine controls.firstN with
    | .error text => (self.store controls).tell ("Line controls rejected: " ++ text)
    | .ok scheduler => { self.store controls with scheduler }.tell updated
  else (self.store controls).tell updated

/-- The scheduler of a new engine, with the stored controls if any is set. -/
def newScheduler (records : List Bytes) (loop : Bool) : SendScheduler Bytes :=
  let controls := self.controller.lineControls
  let scheduler := SendScheduler.init records loop
  if controls.isSet then
    match scheduler.setLineControls controls.startLine controls.endLine controls.firstN with
    | .error _ => scheduler
    | .ok selected => selected
  else scheduler

def startTransmission (world : StartWorld) (settings : RuntimeSettings) (stream : StreamSettings) :
    LineControlled where
  controller := final (world.start settings stream self.controller)
  scheduler :=
    let outcome := world.outcome settings stream self.controller.lineControls
    match prepareTransmission settings stream outcome self.controller,
        loadRecords world.files stream.preset.1 with
    | .ok _ _, .ok (records, _) => self.newScheduler records stream.loop
    | _, _ => self.scheduler

def stopTransport (outcome : StopOutcome) : LineControlled :=
  { self with controller := final (stopTransportAsync outcome self.controller) }

def perform : LineRequest → LineControlled
  | .setLineControls controls => self.setLineControls controls
  | .startTransmission world settings stream => self.startTransmission world settings stream
  | .stopTransport outcome => self.stopTransport outcome

def step (request : LineRequest) : Option LineControlled := some (self.perform request)

/-! ## What a rejected request must not do -/

/-- The engine raises, and the controller tells that the controls are rejected. -/
def Rejects : LineRequest → Prop
  | .setLineControls controls =>
      self.controller.engine.isSome = true ∧
        ∃ text, self.scheduler.setLineControls controls.startLine controls.endLine controls.firstN =
          .error text
  | _ => False

/-- The start gets to its engine, which raises because of the stored controls. -/
def FailsByControls : LineRequest → Prop
  | .startTransmission world settings stream =>
      let outcome := world.outcome settings stream self.controller.lineControls
      ∃ prepared middle raised after,
        prepareTransmission settings stream outcome self.controller = .ok prepared middle ∧
          Gui.setLineControls outcome.lineControls middle = .error raised after
  | _ => False

structure NoTrace (before : LineControlled) (request : LineRequest) : Prop where
  stored : (before.perform request).controller.lineControls.Valid
  rejected : before.Rejects request →
    (before.perform request).controller.lineControls = before.controller.lineControls ∧
      (before.perform request).scheduler.lines = before.scheduler.lines
  starts : ¬ before.FailsByControls request

/-! ## What the requests do to the controls -/

@[simp] theorem tell_lineControls (message : String) :
    (self.tell message).controller.lineControls = self.controller.lineControls := rfl

@[simp] theorem tell_scheduler (message : String) : (self.tell message).scheduler = self.scheduler := rfl

@[simp] theorem store_lineControls (controls : LineControls) :
    (self.store controls).controller.lineControls = controls := rfl

@[simp] theorem store_scheduler (controls : LineControls) :
    (self.store controls).scheduler = self.scheduler := rfl

theorem setLineControls_stores (controls : LineControls) :
    (self.setLineControls controls).controller.lineControls = controls := by
  unfold setLineControls
  dsimp only
  split
  · split
    · rfl
    · rfl
  · rfl

theorem startTransmission_stores (world : StartWorld) (settings : RuntimeSettings)
    (stream : StreamSettings) :
    (self.startTransmission world settings stream).controller.lineControls =
      self.controller.lineControls :=
  startTransmissionAsync_stores self.controller.lineControls settings stream
    (world.outcome settings stream self.controller.lineControls) self.controller rfl

theorem stopTransport_stores (outcome : StopOutcome) :
    (self.stopTransport outcome).controller.lineControls = self.controller.lineControls :=
  stopTransportAsync_stores self.controller.lineControls outcome self.controller rfl

variable {self}

theorem rejects_iff {controls : LineControls} :
    self.Rejects (.setLineControls controls) ↔
      self.controller.engine.isSome = true ∧ ¬ controls.Valid := by
  rw [LineControls.not_valid_iff_check, Rejects, SendScheduler.setLineControls]
  cases LineSelection.check controls.startLine controls.endLine controls.firstN with
  | error text => simp [Bind.bind, Except.bind]
  | ok lines => simp [Bind.bind, Except.bind, Pure.pure, Except.pure]

end LineControlled

theorem LineControls.isSet_of_not_valid {controls : LineControls} (invalid : ¬ controls.Valid) :
    controls.isSet = true := by
  by_contra unset
  simp only [isSet, Bool.or_eq_true, Option.isSome_iff_ne_none, not_or, not_not] at unset
  obtain ⟨⟨start, last⟩, first⟩ := unset
  exact invalid ⟨by simp [start], by simp [last], by simp [first], by simp [start]⟩

theorem controlsRaise_of_valid {controls : LineControls} (valid : controls.Valid) :
    StartWorld.controlsRaise controls = none := by
  obtain ⟨lines, accepted⟩ := LineControls.valid_iff_check.mp valid
  rw [StartWorld.controlsRaise, accepted]

theorem setLineControls_of_valid {state : Controller} (valid : state.lineControls.Valid) :
    setLineControls (StartWorld.controlsRaise state.lineControls) state = .ok () state := by
  rw [controlsRaise_of_valid valid]
  unfold setLineControls
  rw [run_get_bind]
  split
  · rfl
  · rfl

/-- A new engine raises the validator's text for others. -/
theorem setLineControls_of_invalid {state : Controller} {text : String}
    (rejected : LineSelection.check state.lineControls.startLine state.lineControls.endLine
      state.lineControls.firstN = .error text) :
    setLineControls (StartWorld.controlsRaise state.lineControls) state =
      .error { kind := .valueError, text } state := by
  have invalid := LineControls.not_valid_iff_check.mpr ⟨text, rejected⟩
  unfold setLineControls
  rw [run_get_bind, if_pos (LineControls.isSet_of_not_valid invalid), StartWorld.controlsRaise, rejected]
  rfl

namespace LineControlled

variable {self : LineControlled} {world : StartWorld} {settings : RuntimeSettings}
  {stream : StreamSettings}

theorem prepared_stores {prepared : StreamSettings × Loaded} {middle : Controller}
    (ran : prepareTransmission settings stream
        (world.outcome settings stream self.controller.lineControls) self.controller =
      .ok prepared middle) : middle.lineControls = self.controller.lineControls := by
  have kept := prepareTransmission_stores self.controller.lineControls settings stream
    (world.outcome settings stream self.controller.lineControls) self.controller rfl
  rwa [ran] at kept

/-- A start that gets to its engine fails there exactly when the stored controls are not valid. -/
theorem failsByControls_iff :
    self.FailsByControls (.startTransmission world settings stream) ↔
      (∃ prepared middle, prepareTransmission settings stream
          (world.outcome settings stream self.controller.lineControls) self.controller =
        .ok prepared middle) ∧ ¬ self.controller.lineControls.Valid := by
  constructor
  · intro fails
    obtain ⟨prepared, middle, raised, after, ran, raises⟩ := fails
    refine ⟨⟨prepared, middle, ran⟩, fun valid => ?_⟩
    change Gui.setLineControls (StartWorld.controlsRaise self.controller.lineControls) middle = _ at raises
    rw [← prepared_stores ran] at valid raises
    cases (setLineControls_of_valid valid).symm.trans raises
  · intro both
    obtain ⟨⟨prepared, middle, ran⟩, invalid⟩ := both
    obtain ⟨text, rejected⟩ := LineControls.not_valid_iff_check.mp invalid
    refine ⟨prepared, middle, { kind := .valueError, text }, middle, ran, ?_⟩
    change Gui.setLineControls (StartWorld.controlsRaise self.controller.lineControls) middle = _
    rw [← prepared_stores ran] at rejected ⊢
    exact setLineControls_of_invalid rejected

end LineControlled

/-! ## Runs -/

/-- The request does not bring controls that the validator would reject. -/
def LineRequest.Valid : LineRequest → Prop
  | .setLineControls controls => controls.Valid
  | _ => True

namespace LineControlled

theorem noTrace_iff {self : LineControlled} (stored : self.controller.lineControls.Valid)
    (request : LineRequest) : self.NoTrace request ↔ request.Valid := by
  cases request with
  | setLineControls controls =>
      constructor
      · intro noTrace
        have after := noTrace.stored
        rwa [perform, setLineControls_stores] at after
      · intro valid
        refine ⟨?_, fun rejects => absurd valid (rejects_iff.mp rejects).2, fun fails => fails⟩
        rwa [perform, setLineControls_stores]
  | startTransmission world settings stream =>
      refine iff_of_true ⟨?_, fun rejects => rejects.elim, fun fails => ?_⟩ trivial
      · rwa [perform, startTransmission_stores]
      · exact (failsByControls_iff.mp fails).2 stored
  | stopTransport outcome =>
      refine iff_of_true ⟨?_, fun rejects => rejects.elim, fun fails => fails⟩ trivial
      rwa [perform, stopTransport_stores]

theorem perform_run (self : LineControlled) (requests : List LineRequest) :
    ∃ final, Runs.run step self requests = some final := by
  induction requests generalizing self with
  | nil => exact ⟨self, rfl⟩
  | cons request rest ih => exact ih (self.perform request)

/-- Whatever is requested in whatever order, rejected line controls leave no trace exactly when
none are ever requested. -/
theorem rejected_leave_no_trace_iff (requests : List LineRequest) :
    Runs.Each step NoTrace {} requests ↔ ∀ request ∈ requests, request.Valid := by
  obtain ⟨_, ran⟩ := perform_run {} requests
  rw [← Runs.each_iff_of_run ran]
  refine Runs.each_iff_each (fun _ => True) (fun self => self.controller.lineControls.Valid)
    ?_ (fun _ request _ stored => noTrace_iff stored request) ?_ fun _ _ => trivial
  · intro self request next _ stored valid taken
    obtain rfl := Option.some.inj taken
    exact ((noTrace_iff stored request).mpr valid).stored
  · exact ⟨by simp, by simp, by simp, by simp⟩

/-- Lines 3 to 2, without an engine, before a start. -/
theorem stored_unchecked :
    ¬ ∀ requests : List LineRequest, Runs.Each step NoTrace {} requests := by
  intro holds
  obtain ⟨noTrace, _⟩ := holds [.setLineControls { startLine := some 3, endLine := some 2 }]
  have ordered := noTrace.stored.ordered 3 rfl 2 rfl
  exact absurd ordered (by decide)

end LineControlled

end TcpSim.Gui
