import TcpSim.Engine.Scheduler
import TcpSim.Gui.ControllerRoles
import TcpSim.Gui.LoadRecords

/-! Starts that fail: whether the exception is reported and cleaned up after. -/

set_option autoImplicit false

namespace TcpSim.Gui

open Effects Engine

/-! ## What a failed start must do -/

/-- The start does not raise, tells of the failure and leaves no sender. -/
def FailsCleanly (self : Controller) (raised : Raised) (result : EStateM.Result Raised Controller Unit) :
    Prop :=
  ∃ after told, result = .ok () after ∧ after.status = self.status ++ told ∧
    "Failed to start transmission: " ++ raised.text ∈ told ∧
    after.activeTransport = none ∧ after.engine = none ∧ after.statsTask = false

theorem stopEngine_keeps_stats (outcome : Option Raised) :
    Preserves (fun self => self.statsTask = false) (stopEngine outcome) := by
  refine .get_bind fun _ => .ite ?_ (.pure _ ())
  exact .bind (call_preserves outcome) fun _ => .bind (.of_modify fun _ held => held) fun _ =>
    .of_modify fun _ held => held

theorem stopActiveTransport_keeps_stats (outcome : Option Raised) :
    Preserves (fun self => self.statsTask = false) (stopActiveTransport outcome) := by
  refine .get_bind fun _ => .ite ?_ (.pure _ ())
  exact .bind (call_preserves outcome) fun _ => .bind (.of_modify fun _ held => held) fun _ =>
    .bind (.of_modify fun _ held => held) fun _ => .bind (.of_modify fun _ held => held) fun _ =>
      .bind (.of_modify fun _ held => held) fun _ => .bind (.of_modify fun _ held => held) fun _ =>
        .of_modify fun _ held => held

theorem stopTransportAsync_stats (outcome : StopOutcome) (self : Controller) :
    (final (stopTransportAsync outcome self)).statsTask = false :=
  Preserves.bind (stopEngine_keeps_stats outcome.engineStop)
    (fun _ => stopActiveTransport_keeps_stats outcome.transportStop) { self with statsTask := false } rfl

/-- The handler, started where the exception left the controller. -/
theorem handled_failsCleanly_iff {self mid : Controller} {failure : StartFailure} {raised : Raised}
    (failed : Fails self.status failure raised mid) (cleanup : StopOutcome) :
    FailsCleanly self raised
        ((if raised.kind.failsTransmission then do
            emit ("Failed to start transmission: " ++ raised.text)
            stopTransportAsync cleanup
          else throw raised : ControllerM Unit) mid) ↔
      raised.kind.failsTransmission = true ∧
        cleanup.failure failure.engine failure.transport = none := by
  by_cases handled : raised.kind.failsTransmission = true
  · rw [if_pos handled, run_emit_bind]
    let told := { mid with status := mid.status ++ ["Failed to start transmission: " ++ raised.text] }
    have up : Up told.status failure.engine failure.transport mid.lineControls told :=
      ⟨failed.engine, failed.transport, rfl, List.prefix_rfl⟩
    have stops := @stopTransportAsync_meets told.status failure.engine failure.transport
      mid.lineControls cleanup
    cases stop : cleanup.failure failure.engine failure.transport with
    | none =>
        rw [stop] at stops
        obtain ⟨_, after, ran, down⟩ := stops.returns up
        refine iff_of_true ?_ ⟨handled, rfl⟩
        obtain ⟨earlier, before⟩ := failed.status
        obtain ⟨later, whole⟩ := down.status
        have stats := stopTransportAsync_stats cleanup told
        rw [ran] at stats
        refine ⟨after, earlier ++ ["Failed to start transmission: " ++ raised.text] ++ later, ran, ?_,
          by simp, ?_, ?_, stats⟩
        · rw [← whole]
          simp [told, ← before]
        · simpa using down.transport
        · simpa using down.engine
    | some failure =>
        rw [stop] at stops
        obtain ⟨error, after, ran, _⟩ := stops.raises up
        apply iff_of_false
        · intro clean
          obtain ⟨_, _, returned, _⟩ := clean
          cases ran.symm.trans returned
        · intro none_
          cases none_.2
  · rw [if_neg handled]
    apply iff_of_false
    · intro clean
      obtain ⟨_, _, returned, _⟩ := clean
      cases returned
    · exact fun holds => handled holds.1

/-- Every failing start ends cleanly exactly when what raises first is handled and the clean-up
does not raise. -/
theorem failsCleanly_iff (settings : RuntimeSettings) (stream : StreamSettings) (outcome : StartOutcome)
    (self : Controller) :
    (∀ raised mid, startTransmissionBody settings stream outcome self = .error raised mid →
        FailsCleanly self raised (startTransmissionAsync settings stream outcome self)) ↔
      ∀ failure, outcome.failure settings self.engine.isSome self.activeTransport.isSome
          self.lineControls = some failure →
        failure.raised.kind.failsTransmission = true ∧
          outcome.cleanup.failure failure.engine failure.transport = none := by
  have body := @startTransmissionBody_meets self.status self.engine.isSome
    self.activeTransport.isSome self.lineControls settings stream outcome
  have up : Up self.status self.engine.isSome self.activeTransport.isSome self.lineControls self :=
    ⟨rfl, rfl, rfl, List.prefix_rfl⟩
  cases first : outcome.failure settings self.engine.isSome self.activeTransport.isSome
      self.lineControls with
  | none =>
      rw [first] at body
      obtain ⟨_, after, ran, _⟩ := body.returns up
      simp [ran]
  | some failure =>
      rw [first] at body
      obtain ⟨raised, mid, ran, failed⟩ := body.raises up
      have whole : startTransmissionAsync settings stream outcome self = _ := tryCatch_of_error ran
      rw [whole]
      have handled := handled_failsCleanly_iff failed outcome.cleanup
      obtain rfl := failed.raised
      constructor
      · intro clean other isFirst
        obtain rfl := Option.some.inj isFirst
        exact handled.mp (clean _ mid ran)
      · intro holds raised after same
        obtain ⟨rfl, rfl⟩ := EStateM.Result.error.inj (ran.symm.trans same)
        exact handled.mpr (holds failure rfl)

/-! ## Where a start can fail -/

/-- `bind` of a port; `listen` is its outcome for a port that exists. -/
def bindPort (port : Int) (listen : Option Raised) : Option Raised :=
  if port < 0 ∨ 65535 < port then
    some { kind := .other, text := "bind(): port must be 0-65535." }
  else listen

/-- The files and what the calls into transports and engines do. -/
structure StartWorld where
  files : Files
  rebind : StopOutcome := {}
  construct : Option Raised := none
  /-- `create_server_ssl_context`. -/
  sslContext : Option Raised := none
  listen : Option Raised := none
  engineStart : Option Raised := none
  connected : Nat := 0
  progress : Nat × Nat := (0, 0)
  cleanup : StopOutcome := {}

namespace StartWorld

variable (world : StartWorld)

/-- `start` of the transport. The TCP client only makes a task; the UDP client binds port 0. -/
def startRaises (settings : RuntimeSettings) : Option Raised :=
  match transportKind settings with
  | some .tcpServer => world.sslContext.or (bindPort settings.port world.listen)
  | some .udpServer => bindPort settings.port world.listen
  | some .udpClient => bindPort 0 world.listen
  | some .tcpClient => none
  | none => none

/-- What `set_line_controls` of the new engine raises. -/
def controlsRaise (controls : LineControls) : Option Raised :=
  match LineSelection.check controls.startLine controls.endLine controls.firstN with
  | .error text => some { kind := .valueError, text }
  | .ok _ => none

def load (stream : StreamSettings) : Except Raised Loaded :=
  (loadRecords world.files stream.preset.1).map fun (records, headerPayload) =>
    { records := records.length, headerPayload }

def outcome (settings : RuntimeSettings) (stream : StreamSettings) (controls : LineControls) :
    StartOutcome where
  load := world.load stream
  bind := {
    rebind := world.rebind
    construct := world.construct
    start := world.startRaises settings
    connected := world.connected }
  lineControls := controlsRaise controls
  engineStart := world.engineStart
  progress := world.progress
  cleanup := world.cleanup

/-- What the start of a transmission raises first, and what is up then. -/
def failure (settings : RuntimeSettings) (stream : StreamSettings) (self : Controller) :
    Option StartFailure :=
  (world.outcome settings stream self.lineControls).failure settings self.engine.isSome
    self.activeTransport.isSome self.lineControls

def start (settings : RuntimeSettings) (stream : StreamSettings) : ControllerM Unit := do
  startTransmissionAsync settings stream (world.outcome settings stream (← get).lineControls)

end StartWorld

theorem start_escapes {world : StartWorld} {settings : RuntimeSettings} {stream : StreamSettings}
    {self : Controller} {failure : StartFailure}
    (first : world.failure settings stream self = some failure)
    (unhandled : failure.raised.kind.failsTransmission = false) :
    ∃ after, world.start settings stream self = .error failure.raised after ∧
      Fails self.status failure failure.raised after := by
  have body := @startTransmissionBody_meets self.status self.engine.isSome
    self.activeTransport.isSome self.lineControls settings stream
    (world.outcome settings stream self.lineControls)
  rw [StartWorld.failure] at first
  rw [first] at body
  obtain ⟨raised, after, ran, failed⟩ := body.raises ⟨rfl, rfl, rfl, List.prefix_rfl⟩
  obtain rfl := failed.raised
  refine ⟨after, ?_, failed⟩
  unfold StartWorld.start
  rw [run_get_bind, startTransmissionAsync, tryCatch_of_error ran, if_neg (by simp [unhandled])]
  rfl

/-- The calls that `world` stands for raise handled classes only. -/
structure StartWorld.Documented (world : StartWorld) : Prop where
  engineStop : ∀ raised ∈ world.rebind.engineStop, raised.kind ≠ .other
  transportStop : ∀ raised ∈ world.rebind.transportStop, raised.kind ≠ .other
  construct : ∀ raised ∈ world.construct, raised.kind ≠ .other
  sslContext : ∀ raised ∈ world.sslContext, raised.kind ≠ .other
  listen : ∀ raised ∈ world.listen, raised.kind ≠ .other
  engineStart : ∀ raised ∈ world.engineStart, raised.kind ≠ .other

theorem failing_eq_some {engine transport : Bool} {outcome : Option Raised} {failure : StartFailure}
    (fails : failing engine transport outcome = some failure) : outcome = some failure.raised := by
  obtain ⟨raised, isRaised, rfl⟩ := Option.map_eq_some_iff.mp fails
  exact isRaised

theorem bindPort_unhandled {port : Int} {listen : Option Raised} {raised : Raised}
    (documented : ∀ raised ∈ listen, raised.kind ≠ .other)
    (fails : bindPort port listen = some raised) (unhandled : raised.kind = .other) :
    port < 0 ∨ 65535 < port := by
  unfold bindPort at fails
  split at fails
  next outside => exact outside
  next => exact absurd unhandled (documented raised fails)

theorem StartWorld.startRaises_unhandled {world : StartWorld} (documented : world.Documented)
    {settings : RuntimeSettings} {raised : Raised} (fails : world.startRaises settings = some raised)
    (unhandled : raised.kind = .other) : settings.port < 0 ∨ 65535 < settings.port := by
  unfold startRaises at fails
  split at fails
  · rcases Option.or_eq_some_iff.mp fails with ssl | ⟨_, binds⟩
    · exact absurd unhandled (documented.sslContext raised ssl)
    · exact bindPort_unhandled documented.listen binds unhandled
  · exact bindPort_unhandled documented.listen fails unhandled
  · have outside := bindPort_unhandled documented.listen fails unhandled
    omega
  · cases fails
  · cases fails

theorem StartWorld.rebind_handled {world : StartWorld} (documented : world.Documented)
    {engine : Bool} {failure : StartFailure} (fails : world.rebind.failure engine true = some failure) :
    failure.raised.kind ≠ .other := by
  rcases Option.or_eq_some_iff.mp fails with stop | ⟨_, stop⟩
  · have raises := failing_eq_some stop
    split at raises
    · exact documented.engineStop _ raises
    · cases raises
  · exact documented.transportStop _ (failing_eq_some stop)

theorem StartWorld.build_handled {world : StartWorld} (documented : world.Documented)
    {settings : RuntimeSettings} {raised : Raised}
    (fails : buildRaises settings world.construct = some raised) : raised.kind ≠ .other := by
  unfold buildRaises at fails
  split at fails
  · cases fails
    exact fun unhandled => by cases unhandled
  · exact documented.construct raised fails

theorem StartWorld.engine_handled {world : StartWorld} (documented : world.Documented)
    {settings : RuntimeSettings} {stream : StreamSettings} {controls : LineControls} {raised : Raised}
    (fails : (world.outcome settings stream controls).engineFailure controls = some raised) :
    raised.kind ≠ .other := by
  rcases Option.or_eq_some_iff.mp fails with rejected | ⟨_, start⟩
  · split at rejected
    · change controlsRaise controls = some raised at rejected
      unfold controlsRaise at rejected
      split at rejected
      · cases rejected
        exact fun unhandled => by cases unhandled
      · cases rejected
    · cases rejected
  · exact documented.engineStart raised start

/-- Where all else is as documented, two inputs escape: the delimiter and the port. -/
theorem StartWorld.unhandled_cases {world : StartWorld} (documented : world.Documented)
    {settings : RuntimeSettings} {stream : StreamSettings} {self : Controller} {failure : StartFailure}
    (first : world.failure settings stream self = some failure)
    (unhandled : failure.raised.kind = .other) :
    stream.fileDelimiter.toList.length ≠ 1 ∨ settings.port < 0 ∨ 65535 < settings.port := by
  rcases Option.or_eq_some_iff.mp first with load | ⟨_, later⟩
  · left
    have raises := failing_eq_some load
    unfold StartOutcome.loadRaises outcome StartWorld.load at raises
    cases loaded : loadRecords world.files stream.preset.1 with
    | error raised =>
        rw [loaded] at raises
        cases raises
        rw [← stream.preset_fileDelimiter]
        exact (loadRecords_unhandled loaded unhandled).2
    | ok records =>
        rw [loaded] at raises
        cases raises
  rcases Option.or_eq_some_iff.mp later with bind | ⟨_, engine⟩
  · rcases Option.or_eq_some_iff.mp bind with stop | ⟨_, starts⟩
    · split at stop
      · exact absurd unhandled (rebind_handled documented stop)
      · cases stop
    · rcases Option.or_eq_some_iff.mp starts with build | ⟨_, start⟩
      · exact absurd unhandled (build_handled documented (failing_eq_some build))
      · exact .inr (startRaises_unhandled documented (failing_eq_some start) unhandled)
  · exact absurd unhandled (engine_handled documented (failing_eq_some engine))

/-- Whatever is started, a failure is reported and leaves nothing up exactly when the first
exception is of a handled class and stopping what is up raises no other one. -/
theorem start_failures_handled_iff (world : StartWorld) (settings : RuntimeSettings)
    (stream : StreamSettings) (self : Controller) :
    (∀ raised mid,
        startTransmissionBody settings stream (world.outcome settings stream self.lineControls) self =
          .error raised mid →
        FailsCleanly self raised (world.start settings stream self)) ↔
      ∀ failure, world.failure settings stream self = some failure →
        failure.raised.kind.failsTransmission = true ∧
          world.cleanup.failure failure.engine failure.transport = none :=
  failsCleanly_iff settings stream (world.outcome settings stream self.lineControls) self

/-- A delimiter of two characters while a transmission runs, and a port that does not exist. -/
theorem start_failures_escape :
    let world : StartWorld :=
      { files := fun path => if path = "f.csv" then some (.text ['a', '\n']) else none }
    let settings : RuntimeSettings :=
      { mode := "server", protocol := "tcp", host := "0.0.0.0", port := 70000 }
    let running : Controller :=
      { activeTransport := some .tcpClient, engine := some ⟨1⟩, statsTask := true }
    (∃ raised, world.start settings { filePath := "f.csv", delimiter := ";;" } running =
        .error raised running) ∧
      ∃ raised after, world.start settings { filePath := "f.csv" } {} = .error raised after ∧
        after.activeTransport.isSome = true := by
  intro world settings running
  constructor
  · refine ⟨{ kind := .other, text := "\"delimiter\" must be a 1-character string" }, ?_⟩
    simp only [world, settings, running]
    rfl
  · have kind : transportKind settings = some .tcpServer := by
      simp only [settings]
      decide +kernel
    have starts : world.startRaises settings =
        some { kind := .other, text := "bind(): port must be 0-65535." } := by
      rw [StartWorld.startRaises, kind]
      rfl
    have loads : (world.outcome settings { filePath := "f.csv" } {}).loadRaises = none := by
      simp only [world]
      rfl
    have first : world.failure settings { filePath := "f.csv" } {} =
        some ⟨{ kind := .other, text := "bind(): port must be 0-65535." }, false, true⟩ := by
      rw [StartWorld.failure, StartOutcome.failure, loads, BindOutcome.failure]
      simp [StartWorld.outcome, starts, failing, buildRaises, kind, world]
    obtain ⟨after, escapes, failed⟩ := start_escapes first rfl
    exact ⟨_, after, escapes, failed.transport⟩

end TcpSim.Gui
