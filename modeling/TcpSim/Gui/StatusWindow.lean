import TcpSim.Gui.ControllerRoles
import TcpSim.Gui.RequestAwaits

/-! The window's status panel: it reads the controller's messages, and some of them set its labels.
Between two requests, and at the awaits of one, the transports report events, and the status loop
reports what was sent. -/

set_option autoImplicit false

namespace TcpSim.Gui

open Effects Coroutine

/-! ## The panel -/

/-- How the window reads numbers: `int`, and the label that it makes of two `float`s. -/
structure PanelCodec where
  parseInt : String → Option Int
  rateLabel : String → String → Option String
  parseInt_zero : parseInt "0" = some 0

structure StatusPanel where
  connection : String := "Connections: 0"
  progress : String := "Line: 0 / 0"
  rate : String := "Rate: 0.0 feat/s | 0.0 KB/s"
  sent : String := "Sent: 0 lines | 0 bytes"
  events : List String := []
  deriving DecidableEq

/-- `message.startswith(lead)`. -/
def startsWith (message lead : String) : Bool := lead.toList.isPrefixOf message.toList

/-- `partition(":")`: what is before the first colon, and what is behind it. -/
def partition (message : String) : String × String :=
  (String.ofList (message.toList.takeWhile (· ≠ ':')),
    String.ofList ((message.toList.dropWhile (· ≠ ':')).drop 1))

namespace StatusPanel

variable (codec : PanelCodec) (self : StatusPanel)

def appendEvent (message : String) : StatusPanel := { self with events := self.events ++ [message] }

def clearEvents : StatusPanel := { self with events := [] }

def updateConnections (count : Int) : StatusPanel :=
  { self with connection := "Connections: " ++ toString count }

def updateProgress (currentLine totalLines : Int) : StatusPanel :=
  { self with progress := "Line: " ++ toString currentLine ++ " / " ++ toString totalLines }

def updateSentTotals (linesSent bytesSent : Int) : StatusPanel :=
  { self with sent :=
      "Sent: " ++ toString linesSent ++ " lines | " ++ toString bytesSent ++ " bytes" }

def handleConnectionStatus (message : String) : StatusPanel :=
  match codec.parseInt (partition message).2 with
  | some count => self.updateConnections count
  | none => self.appendEvent message

def handleProgressStatus (message : String) : StatusPanel :=
  let (current, total) := partition (partition message).2
  match codec.parseInt current, codec.parseInt total with
  | some currentLine, some totalLines => self.updateProgress currentLine totalLines
  | _, _ => self.appendEvent message

def handleRateStatus (message : String) : StatusPanel :=
  let (features, kilobytes) := partition (partition message).2
  match codec.rateLabel features kilobytes with
  | some rate => { self with rate }
  | none => self.appendEvent message

def handleSentStatus (message : String) : StatusPanel :=
  let (lines, bytes) := partition (partition message).2
  match codec.parseInt lines, codec.parseInt bytes with
  | some linesSent, some bytesSent => self.updateSentTotals linesSent bytesSent
  | _, _ => self.appendEvent message

/-- A message that is no status is an event. -/
def handleStatusMessage (self : StatusPanel) (message : String) : StatusPanel :=
  if startsWith message "__connections__:" then self.handleConnectionStatus codec message
  else if startsWith message "__progress__:" then self.handleProgressStatus codec message
  else if startsWith message "__rate__:" then self.handleRateStatus codec message
  else if startsWith message "__sent__:" then self.handleSentStatus codec message
  else self.appendEvent message

def read (messages : List String) : StatusPanel := messages.foldl (handleStatusMessage codec) self

end StatusPanel

/-! ## Messages of others -/

/-- The events that the sending transports report. -/
def transportEvents : List String :=
  ["server_started", "server_stopped", "client_connect", "client_disconnect",
    "client_reconnect_pending", "client_send", "udp_server_started", "udp_server_stopped",
    "udp_send_multicast", "udp_send_reply", "udp_recipient_evicted", "udp_recipient_expired"]

/-- `_on_transport_event`; `connected` is the connection count of a TCP server. -/
def onTransportEvent (name details : String) (connected : Nat) : ControllerM Unit := do
  emit (if details = "" then name else name ++ ": " ++ details)
  if name = "client_connect" ∨ name = "client_disconnect" then emitConnections connected

/-- The events of a receiver: of its transport, of its sink and its own. -/
def receiverEvents : List String :=
  ["receiver_engine_started", "receiver_engine_stopped", "peer_connected", "peer_disconnected",
    "receiver_bound", "receiver_connected", "receiver_disconnected", "receiver_listening",
    "receiver_paused", "receiver_resumed", "receiver_stop_timeout", "receiver_stopped",
    "reconnect_pending", "record_truncated", "udp_error", "udp_hello_sent", "sink_error",
    "sink_high_watermark", "sink_low_watermark", "sink_reconfigured", "sink_record_dropped",
    "sink_rotated", "sink_started", "sink_stopped"]

/-- `_on_receiver_event`. -/
def onReceiverEvent (name details : String) : ControllerM Unit :=
  emit (if details = "" then name else name ++ ": " ++ details)

/-- An iteration of `_status_loop`, which ends without an engine. -/
def statusIteration (progress : Nat × Nat) (rate : String × String) (sent : Nat × Nat) :
    ControllerM Unit := do
  if (← get).engine.isSome then
    emit ("__progress__:" ++ toString progress.1 ++ ":" ++ toString progress.2)
    emit ("__rate__:" ++ rate.1 ++ ":" ++ rate.2)
    emit ("__sent__:" ++ toString sent.1 ++ ":" ++ toString sent.2)

structure ReceiverReport where
  received : Nat × Nat
  rate : String × String
  sinkEnabled : Bool
  written : Nat × Nat

/-- An iteration of `_receiver_stats_loop`. -/
def receiverIteration (report : ReceiverReport) : ControllerM Unit := do
  if (← get).receiverEngine.isSome then
    emit ("__receiver_records__:" ++ toString report.received.1 ++ ":" ++
      toString report.received.2)
    emit ("__receiver_rate__:" ++ report.rate.1 ++ ":" ++ report.rate.2)
    emit ("__receiver_sink__:" ++ (if report.sinkEnabled then "enabled" else "disabled") ++ ":" ++
      toString report.written.1 ++ ":" ++ toString report.written.2)

/-- A message that begins with something else than an underscore. -/
def Notice (message : String) : Prop := message.toList.head?.any (· ≠ '_') = true

instance (message : String) : Decidable (Notice message) :=
  inferInstanceAs (Decidable (_ = true))

/-- The messages in the controller's status are those that the window has not read. -/
structure Window where
  controller : Controller := {}
  panel : StatusPanel := {}
  /-- What is left of the request that is at one of its awaits. -/
  pending : Option (RequestM Unit) := none

inductive WindowAction where
  /-- A request begins; the one before has ended. -/
  | request (request : Request)
  /-- The request goes on after an await. -/
  | resume
  | transportEvent (name details : String) (connected : Nat)
  | receiverEvent (name details : String)
  | statusIteration (progress : Nat × Nat) (rate : String × String) (sent : Nat × Nat)
  | receiverIteration (report : ReceiverReport)
  /-- The outcome of a pause, a step, a jump or another request. -/
  | notice (message : String)
  | lineControls (controls : LineControls) (message : String)
  /-- `_poll_controller_status`. -/
  | poll
  /-- `update_rate` at a start or a change of the rate. -/
  | showRate (rate : String)
  /-- `append_event` by the window itself. -/
  | showEvent (message : String)
  | clearEvents

namespace Window

variable (codec : PanelCodec) (self : Window)

def run (program : ControllerM Unit) : Window :=
  { self with controller := final (program self.controller) }

/-- Up to the next await. -/
def proceed (task : RequestM Unit) : Window :=
  let (pending, controller) := task.advance self.controller
  { self with pending, controller }

def poll : Window :=
  { self with
    controller := { self.controller with status := [] }
    panel := self.panel.read codec self.controller.status }

/-- One step; `none` when the action is not possible. -/
def step (self : Window) : WindowAction → Option Window
  | .request request => if self.pending.isSome then none else some (self.proceed request.coroutine)
  | .resume => self.pending.map self.proceed
  | .transportEvent name details connected =>
      if name ∈ transportEvents then some (self.run (onTransportEvent name details connected))
      else none
  | .receiverEvent name details =>
      if name ∈ receiverEvents then some (self.run (onReceiverEvent name details)) else none
  | .statusIteration progress rate sent =>
      if self.controller.statsTask then some (self.run (Gui.statusIteration progress rate sent))
      else none
  | .receiverIteration report =>
      if self.controller.receiverStatsTask then some (self.run (Gui.receiverIteration report))
      else none
  | .notice message => if Notice message then some (self.run (emit message)) else none
  | .lineControls lineControls message =>
      if Notice message then
        some ({ self with controller := { self.controller with lineControls } }.run (emit message))
      else none
  | .poll => some (self.poll codec)
  | .showRate rate => some { self with panel := { self.panel with rate } }
  | .showEvent message => some { self with panel := self.panel.appendEvent message }
  | .clearEvents => some { self with panel := self.panel.clearEvents }

variable {codec}

theorem run_replicate_resume (task : RequestM Unit) (self : Window) :
    ∃ turns, Runs.run (step codec) (self.proceed task) (List.replicate turns .resume) =
      some { self.run task.alone with pending := none } := by
  induction task generalizing self with
  | returns value => exact ⟨0, rfl⟩
  | raises error => exact ⟨0, rfl⟩
  | acts change next ih =>
      exact ih self.controller { self with controller := change self.controller }
  | awaits rest ih =>
      obtain ⟨turns, ran⟩ := ih { self with pending := some rest }
      exact ⟨turns + 1, Runs.run_cons_eq_some.mpr ⟨_, rfl, ran⟩⟩

/-- A request during which nothing else happens is as if it were run to completion at once. -/
theorem request_undisturbed (request : Request) {self : Window} (free : self.pending = none) :
    ∃ turns, Runs.run (step codec) self (.request request :: List.replicate turns .resume) =
      some (self.run request.program) := by
  obtain ⟨turns, ran⟩ := @run_replicate_resume codec request.coroutine self
  rw [request.coroutine_alone] at ran
  refine ⟨turns, Runs.run_cons_eq_some.mpr ⟨self.proceed request.coroutine, ?_, ?_⟩⟩
  · simp [step, free]
  · rw [ran, ← free]
    rfl

end Window

/-! ## What a message sets -/

/-- Not one of the messages that set a label, other than that of the rate. -/
def Uncounted (message : String) : Prop :=
  startsWith message "__connections__:" = false ∧ startsWith message "__progress__:" = false ∧
    startsWith message "__sent__:" = false

instance (message : String) : Decidable (Uncounted message) :=
  inferInstanceAs (Decidable (_ ∧ _ ∧ _))

theorem Notice.append {lead : String} (notice : Notice lead) (rest : String) :
    Notice (lead ++ rest) := by
  obtain ⟨character, first, other⟩ := (Option.any_eq_true _ _).mp notice
  refine (Option.any_eq_true _ _).mpr ⟨character, ?_, other⟩
  rw [String.toList_append, List.head?_append, first]
  rfl

theorem startsWith_append {message lead : String} (starts : startsWith message lead = true)
    (rest : String) : startsWith (message ++ rest) lead = true := by
  unfold startsWith at starts ⊢
  rw [String.toList_append]
  exact List.isPrefixOf_iff_prefix.mpr
    ((List.isPrefixOf_iff_prefix.mp starts).trans (List.prefix_append _ _))

/-- The panel does not know the statuses of a receiver. -/
theorem uncounted_of_receiver {message : String}
    (receiver : startsWith message "__receiver_" = true) : Uncounted message := by
  obtain ⟨rest, characters⟩ := List.isPrefixOf_iff_prefix.mp receiver
  have apart {lead : String}
      (other : ∀ rest, lead.toList.isPrefixOf ("__receiver_".toList ++ rest) = false) :
      startsWith message lead = false := by
    unfold startsWith
    rw [← characters]
    exact other rest
  exact ⟨apart fun _ => rfl, apart fun _ => rfl, apart fun _ => rfl⟩

theorem Notice.uncounted {message : String} (notice : Notice message) : Uncounted message := by
  obtain ⟨character, first, other⟩ := (Option.any_eq_true _ _).mp notice
  obtain ⟨rest, characters⟩ := List.head?_eq_some_iff.mp first
  have apart (lead : List Char) : ('_' :: lead).isPrefixOf message.toList = false := by
    rw [characters, List.isPrefixOf_cons_cons]
    simp [Ne.symm (of_decide_eq_true other)]
  exact ⟨apart _, apart _, apart _⟩

theorem event_notice {name : String} (notice : Notice name) (details : String) :
    Notice (if details = "" then name else name ++ ": " ++ details) := by
  split
  · exact notice
  · exact (notice.append _).append _

theorem transportEvents_notice : ∀ name ∈ transportEvents, Notice name := by decide

theorem receiverEvents_notice : ∀ name ∈ receiverEvents, Notice name := by decide

theorem presetMessage_notice (updates : List String) : Notice (presetMessage updates) := by
  have lead : Notice "Velocity compatibility preset applied: " := by decide
  unfold presetMessage
  split
  · decide
  · exact (lead.append _).append _

theorem started_notice {what : String} (notice : Notice what) (settings : RuntimeSettings) :
    Notice (started what settings) := by
  unfold started
  exact (((((((notice.append _).append _).append _).append _).append _).append _).append _).append _

namespace StatusPanel

def counters (self : StatusPanel) : String × String × String :=
  (self.connection, self.progress, self.sent)

/-- The labels of a window without a transmission. -/
def idleCounters : String × String × String :=
  ("Connections: 0", "Line: 0 / 0", "Sent: 0 lines | 0 bytes")

variable {codec : PanelCodec}

theorem handle_uncounted {message : String} (uncounted : Uncounted message) (panel : StatusPanel) :
    (panel.handleStatusMessage codec message).counters = panel.counters := by
  obtain ⟨connections, progress, sent⟩ := uncounted
  unfold handleStatusMessage
  rw [connections, progress, sent]
  simp only [Bool.false_eq_true, if_false]
  split
  · unfold handleRateStatus
    dsimp only
    split <;> rfl
  · rfl

/-- Events and rates make no difference. -/
theorem handle_congr {left right : StatusPanel} (same : left.counters = right.counters)
    (message : String) : (left.handleStatusMessage codec message).counters =
      (right.handleStatusMessage codec message).counters := by
  simp only [counters, Prod.mk.injEq] at same
  obtain ⟨connection, progress, sent⟩ := same
  unfold handleStatusMessage handleConnectionStatus handleProgressStatus handleRateStatus
    handleSentStatus
  dsimp only
  split
  · split <;> simp [counters, updateConnections, appendEvent, connection, progress, sent]
  · split
    · split <;> simp [counters, updateProgress, appendEvent, connection, progress, sent]
    · split
      · split <;> simp [counters, appendEvent, connection, progress, sent]
      · split
        · split <;> simp [counters, updateSentTotals, appendEvent, connection, progress, sent]
        · simp [counters, appendEvent, connection, progress, sent]

theorem read_congr {left right : StatusPanel} (same : left.counters = right.counters)
    (messages : List String) :
    (left.read codec messages).counters = (right.read codec messages).counters := by
  induction messages generalizing left right with
  | nil => exact same
  | cons message rest ih => exact ih (handle_congr same message)

theorem read_append (panel : StatusPanel) (first second : List String) :
    panel.read codec (first ++ second) = (panel.read codec first).read codec second :=
  List.foldl_append

section Zeroes

variable (panel : StatusPanel)

theorem handle_noConnections : (panel.handleStatusMessage codec "__connections__:0").counters =
    (idleCounters.1, panel.counters.2) := by
  have label : "Connections: " ++ toString (0 : Int) = "Connections: 0" := by decide
  rw [handleStatusMessage, if_pos (by decide), handleConnectionStatus,
    show (partition "__connections__:0").2 = "0" by decide, codec.parseInt_zero]
  simp only [updateConnections, label]
  rfl

theorem handle_noProgress : (panel.handleStatusMessage codec "__progress__:0:0").counters =
    (panel.counters.1, idleCounters.2.1, panel.counters.2.2) := by
  have label : "Line: " ++ toString (0 : Int) ++ " / " ++ toString (0 : Int) = "Line: 0 / 0" := by
    decide
  rw [handleStatusMessage, if_neg (by decide), if_pos (by decide),
    handleProgressStatus, show partition (partition "__progress__:0:0").2 = ("0", "0") by
      decide]
  simp only [codec.parseInt_zero, updateProgress, label]
  rfl

theorem handle_nothingSent : (panel.handleStatusMessage codec "__sent__:0:0").counters =
    (panel.counters.1, panel.counters.2.1, idleCounters.2.2) := by
  have label : "Sent: " ++ toString (0 : Int) ++ " lines | " ++ toString (0 : Int) ++ " bytes" =
      "Sent: 0 lines | 0 bytes" := by
    decide
  rw [handleStatusMessage, if_neg (by decide), if_neg (by decide),
    if_neg (by decide), if_pos (by decide), handleSentStatus,
    show partition (partition "__sent__:0:0").2 = ("0", "0") by decide]
  simp only [codec.parseInt_zero, updateSentTotals, label]
  rfl

/-- What the controller tells when it has stopped a transport. -/
theorem read_stopped :
    (panel.read codec ["Transport stopped.", "__connections__:0", "__progress__:0:0",
      "__rate__:0.0:0.0", "__sent__:0:0"]).counters = idleCounters := by
  unfold read
  simp only [List.foldl_cons, List.foldl_nil]
  rw [handle_nothingSent, handle_uncounted (by decide), handle_noProgress,
    handle_noConnections]

end Zeroes

end StatusPanel

/-! ## What the requests keep -/

/-- Without a transport there is no engine, and whoever has read all messages sees no counts. -/
def Consistent (codec : PanelCodec) (panel : StatusPanel) (controller : Controller) : Prop :=
  controller.activeTransport = none →
    controller.engine = none ∧ (panel.read codec controller.status).counters =
      StatusPanel.idleCounters

def Active (controller : Controller) : Prop := controller.activeTransport ≠ none

/-- What others leave alone while a request is at an await. -/
def Untouched (before after : Controller) : Prop :=
  after.activeTransport = before.activeTransport ∧ after.engine = before.engine

section Active

theorem emit_active (message : String) : Preserves Active (emit message) := fun _ held => held

theorem emitConnections_active (connected : Nat) : Preserves Active (emitConnections connected) :=
  .get_bind fun _ => .ite (emit_active _) (.pure _ ())

theorem reportStarted_active (stream : StreamSettings) (loaded : Loaded) (progress : Nat × Nat) :
    Preserves Active (reportStarted stream loaded progress) :=
  .bind (emit_active _) fun _ => .bind (emit_active _) fun _ => .bind (emit_active _) fun _ =>
    .bind (emit_active _) fun _ => .ite (emit_active _) (.pure _ ())

end Active

section Consistent

variable {codec : PanelCodec} {panel : StatusPanel}

theorem Active.consistent {controller : Controller} (active : Active controller) :
    Consistent codec panel controller :=
  fun idle => absurd idle active

theorem modify_consistent {change : Controller → Controller}
    (transport : ∀ self, (change self).activeTransport = self.activeTransport)
    (engine : ∀ self, (change self).engine = self.engine)
    (status : ∀ self, (change self).status = self.status) :
    Preserves (Consistent codec panel) (modify change : ControllerM Unit) := by
  refine .of_modify fun self held => ?_
  unfold Consistent
  rw [transport, engine, status]
  exact held

theorem emit_consistent {message : String} (uncounted : Uncounted message) :
    Preserves (Consistent codec panel) (emit message) := by
  intro self held idle
  obtain ⟨engine, counters⟩ := held idle
  refine ⟨engine, ?_⟩
  change (panel.read codec (self.status ++ [message])).counters = _
  rw [StatusPanel.read_append]
  exact (StatusPanel.handle_uncounted uncounted _).trans counters

/-- What is held at the await of a call, and cannot be undone there, is held after it. -/
theorem awaitCall_meets {held : StatusPanel → Controller → Prop} (outcome : Option Raised)
    (enough : ∀ panel self, held panel self → Consistent codec panel self)
    (stable : ∀ panel self later after, held panel self → Untouched self after →
      Consistent codec later after → held later after) :
    Meets Untouched (Consistent codec) held (awaitCall outcome) (fun _ => held)
      (Consistent codec) := by
  have waits : Meets Untouched (Consistent codec) held (await : RequestM Unit) (fun _ => held)
      (Consistent codec) := .await enough stable
  exact waits.bind fun _ => (Meets.preserves fun _ => call_preserves outcome).mono
    (fun _ _ held => held) (fun _ _ _ held => held) enough

variable (codec) in
/-- The window is consistent before the program, at its awaits and after it. -/
def Stays {α : Type} (program : RequestM α) : Prop :=
  Meets Untouched (Consistent codec) (Consistent codec) program (fun _ => Consistent codec)
    (Consistent codec)

section Stays

variable {α β : Type}

theorem Stays.bind {program : RequestM α} {next : α → RequestM β} (first : Stays codec program)
    (second : ∀ value, Stays codec (next value)) : Stays codec (program >>= next) :=
  Meets.bind first second

theorem Stays.pure (value : α) : Stays codec (Pure.pure value) := Meets.pure value fun _ _ held => held

theorem Stays.block {program : ControllerM α}
    (kept : ∀ panel, Preserves (Consistent codec panel) program) :
    Stays codec (Coroutine.block program) :=
  Meets.preserves kept

theorem Stays.read : Stays codec (Coroutine.block get) := Stays.block fun _ _ held => held

theorem Stays.ite {condition : Prop} [Decidable condition] {first second : RequestM α}
    (whenTrue : Stays codec first) (whenFalse : Stays codec second) :
    Stays codec (if condition then first else second) :=
  Meets.ite (fun _ => whenTrue) fun _ => whenFalse

theorem Stays.await : Stays codec Coroutine.await :=
  Meets.await (fun _ _ held => held) fun _ _ _ _ _ _ held => held

theorem Stays.awaitCall (outcome : Option Raised) : Stays codec (Gui.awaitCall outcome) :=
  awaitCall_meets outcome (fun _ _ held => held) fun _ _ _ _ _ _ held => held

theorem Stays.handle {program : RequestM α} {handler : Raised → RequestM α}
    (body : Stays codec program) (handled : ∀ raised, Stays codec (handler raised)) :
    Stays codec (program.handle handler) :=
  Meets.handle body handled

theorem Stays.raises (raised : Raised) : Stays codec (Coroutine.raises raised : RequestM α) :=
  fun _ _ held => held

/-- A part that sets neither the transport nor the engine and tells nothing. -/
theorem Stays.modify {change : Controller → Controller}
    (transport : ∀ self, (change self).activeTransport = self.activeTransport)
    (engine : ∀ self, (change self).engine = self.engine)
    (status : ∀ self, (change self).status = self.status) :
    Stays codec (Coroutine.block (modify change)) :=
  .block fun _ => modify_consistent transport engine status

theorem Stays.emit {message : String} (uncounted : Uncounted message) :
    Stays codec (Coroutine.block (Gui.emit message)) :=
  .block fun _ => emit_consistent uncounted

end Stays

namespace RequestM

/-! ### The sender -/

theorem stopStats_stays : Stays codec stopStats :=
  Stays.read.bind fun _ => .ite
    (.bind (.modify (fun _ => rfl) (fun _ => rfl) fun _ => rfl) fun _ => .await) (.pure _)

/-- When it returns there is no engine. -/
theorem stopEngine_meets (outcome : Option Raised) :
    Meets Untouched (Consistent codec) (Consistent codec) (stopEngine outcome)
      (fun _ panel self => Consistent codec panel self ∧ self.engine = none)
      (Consistent codec) := by
  refine .get_bind fun seen => .ite (fun _ => ?_) fun absent => ?_
  · have called : Meets Untouched (Consistent codec)
        (fun panel self => seen = self ∧ Consistent codec panel self) (awaitCall outcome)
        (fun _ => Consistent codec) (Consistent codec) :=
      (Stays.awaitCall outcome).mono (fun _ _ held => held.2) (fun _ _ _ held => held)
        fun _ _ held => held
    refine called.bind fun _ => .block fun panel self held => ⟨?_, rfl⟩
    have stopped : Consistent codec panel { self with engine := none } :=
      fun idle => ⟨rfl, (held idle).2⟩
    exact emit_consistent (by decide) _ stopped
  · refine .pure () fun panel self held => ⟨held.2, ?_⟩
    obtain ⟨rfl, _⟩ := held
    simpa using absent

theorem stopActiveTransport_meets (outcome : Option Raised) :
    Meets Untouched (Consistent codec)
      (fun panel self => Consistent codec panel self ∧ self.engine = none)
      (stopActiveTransport outcome) (fun _ => Consistent codec) (Consistent codec) := by
  refine .get_bind fun seen => .ite (fun _ => ?_) fun _ => .pure () fun _ _ held => held.2.1
  have calls : Meets Untouched (Consistent codec)
      (fun panel self => Consistent codec panel self ∧ self.engine = none) (awaitCall outcome)
      (fun _ panel self => Consistent codec panel self ∧ self.engine = none) (Consistent codec) :=
    awaitCall_meets outcome (fun _ _ held => held.1) fun _ _ _ _ held relied kept =>
      ⟨kept, relied.2.trans held.2⟩
  refine Meets.mono (calls.bind fun _ => .block fun panel self held => ?_) (fun _ _ held => held.2)
    (fun _ _ _ held => held) fun _ _ held => held
  intro _
  refine ⟨held.2, ?_⟩
  have told : StatusPanel.read codec panel (self.status ++ ["Transport stopped.",
      "__connections__:0", "__progress__:0:0", "__rate__:0.0:0.0", "__sent__:0:0"]) = _ :=
    StatusPanel.read_append panel self.status _
  have idle := @StatusPanel.read_stopped codec (panel.read codec self.status)
  rw [← told] at idle
  simpa using idle

theorem stopTransportAsync_stays (outcome : StopOutcome) : Stays codec (stopTransportAsync outcome) :=
  stopStats_stays.bind fun _ => Meets.bind (stopEngine_meets outcome.engineStop) fun _ =>
    stopActiveTransport_meets outcome.transportStop

theorem rebindIfActive_stays (outcome : StopOutcome) : Stays codec (rebindIfActive outcome) :=
  Stays.read.bind fun _ => .ite (.bind (.emit (by decide)) fun _ => stopTransportAsync_stays outcome)
    (.pure _)

/-- A part after which the transport is still there. -/
theorem block_active {α : Type} {program : ControllerM α} (kept : Preserves Active program) :
    Meets Untouched (Consistent codec) (fun _ => Active) (Coroutine.block program)
      (fun _ _ => Active) (Consistent codec) :=
  (Meets.preserves fun _ => kept).mono (fun _ _ held => held) (fun _ _ _ held => held)
    fun _ _ active => active.consistent

theorem awaitCall_active (outcome : Option Raised) :
    Meets Untouched (Consistent codec) (fun _ => Active) (awaitCall outcome) (fun _ _ => Active)
      (Consistent codec) :=
  awaitCall_meets outcome (fun _ _ active => active.consistent) fun _ _ _ _ active relied _ =>
    relied.1.trans_ne active

/-- When it returns there is a transport. -/
theorem bindTransport_meets (settings : RuntimeSettings) (stream : Option StreamSettings)
    (outcome : BindOutcome) :
    Meets Untouched (Consistent codec) (Consistent codec) (bindTransport settings stream outcome)
      (fun _ _ => Active) (Consistent codec) := by
  refine Meets.bind (rebindIfActive_stays outcome.rebind) fun _ => ?_
  refine Meets.bind (Stays.block fun _ => build_preserves _ _ _ _) fun transport => ?_
  have publishes : Meets Untouched (Consistent codec) (Consistent codec)
      (Coroutine.block (modify fun self => { self with
        activeTransport := some transport
        activeSettings := some settings
        streamSettings := stream } : ControllerM Unit)) (fun _ _ => Active) (Consistent codec) :=
    .block fun _ _ _ => by simp [Active]
  refine publishes.bind fun _ => (awaitCall_active outcome.start).bind fun _ => block_active ?_
  exact .bind (emit_active _) fun _ => emitConnections_active _

theorem applySettings_stays (settings : RuntimeSettings) (outcome : BindOutcome) :
    Stays codec (bindTransport settings none outcome) :=
  (bindTransport_meets settings none outcome).mono (fun _ _ held => held)
    (fun _ _ _ active => active.consistent) fun _ _ held => held

theorem preset_consistent (stream : StreamSettings) :
    Preserves (Consistent codec panel) (applyVelocityCompatibilityPreset stream) :=
  .ite (.pure _ _) (.bind (emit_consistent (presetMessage_notice _).uncounted) fun _ => .pure _ _)

theorem startTransmissionBody_stays (settings : RuntimeSettings) (stream : StreamSettings)
    (outcome : StartOutcome) : Stays codec (startTransmissionBody settings stream outcome) := by
  refine .bind (.block fun _ => preset_consistent stream) fun adjusted => .bind (.block fun _ => ?_)
    fun loaded => Meets.bind (bindTransport_meets _ _ _) fun _ => ?_
  · cases outcome.load with
    | ok loaded => exact .pure _ loaded
    | error raised => exact .throw _ raised
  · have prepares : Preserves Active (do
        modify fun self => { self with engine := some { records := loaded.records } }
        setLineControls outcome.lineControls) :=
      .bind (.of_modify fun _ active => active) fun _ =>
        .get_bind fun _ => .ite (call_preserves _) (.pure _ ())
    have reports : Preserves Active (do
        modify fun self => { self with statsTask := true }
        reportStarted adjusted loaded outcome.progress) :=
      .bind (.of_modify fun _ active => active) fun _ => reportStarted_active _ _ _
    refine (block_active prepares).bind fun _ => (awaitCall_active outcome.engineStart).bind fun _ =>
      (block_active reports).mono (fun _ _ held => held) (fun _ _ _ active => active.consistent)
        fun _ _ held => held

theorem startTransmissionAsync_stays (settings : RuntimeSettings) (stream : StreamSettings)
    (outcome : StartOutcome) : Stays codec (startTransmissionAsync settings stream outcome) :=
  .handle (startTransmissionBody_stays settings stream outcome) fun raised =>
    .ite (.bind (.emit (Notice.append (by decide) _).uncounted) fun _ =>
      stopTransportAsync_stays outcome.cleanup) (.raises raised)

/-! ### The receiver -/

theorem stopReceptionAsync_stays (outcome : ReceiverStop) :
    Stays codec (stopReceptionAsync outcome) := by
  have told : Uncounted outcome.message := by
    cases outcome with
    | raised repr => exact (Notice.append (by decide) repr).uncounted
    | _ => decide
  have detaches : Stays codec (detachReceiver outcome) :=
    Stays.read.bind fun _ => .ite (.bind (.modify (fun _ => rfl) (fun _ => rfl) fun _ => rfl)
      fun _ => .bind .await fun _ => .block fun _ => .bind (emit_consistent told) fun _ =>
        .bind (emit_consistent (by decide)) fun _ => emit_consistent (by decide)) (.pure _)
  have stops : Stays codec stopReceiverStats :=
    Stays.read.bind fun _ => .ite (.bind (.modify (fun _ => rfl) (fun _ => rfl) fun _ => rfl)
      fun _ => .await) (.pure _)
  refine stops.bind fun _ => detaches.bind fun _ => .modify ?_ ?_ ?_
  all_goals
    intro self
    unfold leaveReceiverRole
    split <;> rfl

theorem startReceptionBody_stays (settings : RuntimeSettings) (outcome : ReceptionOutcome) :
    Stays codec (startReceptionBody settings outcome) := by
  refine .bind ?_ fun _ => .bind ?_ fun _ => .bind (.block fun _ => call_preserves _) fun _ =>
    .bind (.block fun _ => build_preserves _ _ _ _) fun transport =>
      .bind (.block fun _ => call_preserves _) fun _ =>
        .bind (.modify (fun _ => rfl) (fun _ => rfl) fun _ => rfl) fun _ =>
          .bind (.awaitCall _) fun _ => .block fun _ => .bind (emit_consistent ?_) fun _ =>
            modify_consistent (fun _ => rfl) (fun _ => rfl) fun _ => rfl
  · exact Stays.read.bind fun _ => .ite (.bind (.emit (by decide)) fun _ =>
      stopTransportAsync_stays _) (.pure _)
  · exact Stays.read.bind fun _ => .ite (stopReceptionAsync_stays _) (.pure _)
  · exact (started_notice (by decide) settings).uncounted

theorem startReceptionAsync_stays (settings : RuntimeSettings) (outcome : ReceptionOutcome) :
    Stays codec (startReceptionAsync settings outcome) :=
  .handle (startReceptionBody_stays settings outcome) fun raised =>
    .ite (.bind (.emit (Notice.append (by decide) _).uncounted) fun _ =>
      stopReceptionAsync_stays outcome.cleanup) (.raises raised)

theorem configureSinkAsync_stays (sink : SinkSettings) (config configure : Option Raised) :
    Stays codec (configureSinkAsync sink config configure) := by
  have lead : Notice "Sink reconfigured: enabled=" := by decide
  refine Stays.read.bind fun _ => .ite (.emit (by decide)) ?_
  exact .bind (.block fun _ => call_preserves config) fun _ => .bind (.awaitCall configure) fun _ =>
    .emit (((((lead.append _).append _).append _).append _).append _).uncounted

theorem coroutine_stays (request : Request) : Stays codec request.coroutine := by
  cases request with
  | startTransmission settings stream outcome =>
      exact startTransmissionAsync_stays settings stream outcome
  | applySettings settings outcome => exact applySettings_stays settings outcome
  | startReception settings outcome => exact startReceptionAsync_stays settings outcome
  | configureSink sink config configure => exact configureSinkAsync_stays sink config configure
  | stopTransport outcome => exact stopTransportAsync_stays outcome
  | stopReception outcome => exact stopReceptionAsync_stays outcome

end RequestM

/-! ## What the others keep -/

theorem emitConnections_consistent (connected : Nat) :
    Preserves (Consistent codec panel) (emitConnections connected) := by
  intro self consistent
  by_cases server : self.activeTransport = some .tcpServer
  · refine (emitConnections_active connected self ?_).consistent
    simp [Active, server]
  · unfold emitConnections
    rw [run_get_bind, if_neg server]
    exact consistent

theorem onTransportEvent_consistent {name : String} (event : name ∈ transportEvents)
    (details : String) (connected : Nat) :
    Preserves (Consistent codec panel) (onTransportEvent name details connected) :=
  .bind (emit_consistent (event_notice (transportEvents_notice name event) details).uncounted)
    fun _ => .ite (emitConnections_consistent connected) (.pure _ ())

/-- The status loop reports of an engine, and there is none without a transport. -/
theorem statusIteration_consistent (progress : Nat × Nat) (rate : String × String)
    (sent : Nat × Nat) :
    Preserves (Consistent codec panel) (statusIteration progress rate sent) := by
  intro self consistent
  unfold statusIteration
  rw [run_get_bind]
  split
  case isTrue engine =>
    have active : Active self := fun idle => by simp [(consistent idle).1] at engine
    have reported : Preserves Active (statusIteration progress rate sent) :=
      .get_bind fun _ => .ite (.bind (emit_active _) fun _ => .bind (emit_active _) fun _ =>
        emit_active _) (.pure _ ())
    have after := reported self active
    unfold statusIteration at after
    rw [run_get_bind, if_pos engine] at after
    exact after.consistent
  case isFalse => exact consistent

theorem receiverIteration_consistent (report : ReceiverReport) :
    Preserves (Consistent codec panel) (receiverIteration report) := by
  have told {message : String} (receiver : startsWith message "__receiver_" = true) :
      Preserves (Consistent codec panel) (emit message) :=
    emit_consistent (uncounted_of_receiver receiver)
  have records : startsWith "__receiver_records__:" "__receiver_" = true := by decide
  have rate : startsWith "__receiver_rate__:" "__receiver_" = true := by decide
  have sink : startsWith "__receiver_sink__:" "__receiver_" = true := by decide
  refine .get_bind fun _ => .ite (.bind (told ?_) fun _ => .bind (told ?_) fun _ => told ?_)
    (.pure _ ())
  · exact startsWith_append (startsWith_append (startsWith_append records _) _) _
  · exact startsWith_append (startsWith_append (startsWith_append rate _) _) _
  · exact startsWith_append (startsWith_append (startsWith_append (startsWith_append
      (startsWith_append sink _) _) _) _) _

end Consistent

/-! ### What they leave to a request -/

theorem Untouched.trans {first second third : Controller} (before : Untouched first second)
    (after : Untouched second third) : Untouched first third :=
  ⟨after.1.trans before.1, after.2.trans before.2⟩

section Untouched

variable {seen : Controller}

theorem emit_untouched (message : String) : Preserves (Untouched seen) (emit message) :=
  fun _ untouched => untouched

theorem onTransportEvent_untouched (name details : String) (connected : Nat) :
    Preserves (Untouched seen) (onTransportEvent name details connected) := by
  have connections : Preserves (Untouched seen) (emitConnections connected) :=
    .get_bind fun _ => .ite (emit_untouched _) (.pure _ ())
  exact .bind (emit_untouched _) fun _ => .ite connections (.pure _ ())

theorem statusIteration_untouched (progress : Nat × Nat) (rate : String × String)
    (sent : Nat × Nat) : Preserves (Untouched seen) (statusIteration progress rate sent) :=
  .get_bind fun _ => .ite (.bind (emit_untouched _) fun _ => .bind (emit_untouched _) fun _ =>
    emit_untouched _) (.pure _ ())

theorem receiverIteration_untouched (report : ReceiverReport) :
    Preserves (Untouched seen) (receiverIteration report) :=
  .get_bind fun _ => .ite (.bind (emit_untouched _) fun _ => .bind (emit_untouched _) fun _ =>
    emit_untouched _) (.pure _ ())

end Untouched

/-! ## Runs of the window -/

namespace Window

variable {codec : PanelCodec}

/-- The panel is consistent with the controller, and a request at an await will keep it so. -/
structure Consistent (codec : PanelCodec) (window : Window) : Prop where
  shown : Gui.Consistent codec window.panel window.controller
  pending : ∀ task ∈ window.pending, ∀ panel controller, Untouched window.controller controller →
    Gui.Consistent codec panel controller →
    task.Keeps Untouched (Gui.Consistent codec) (fun _ => Gui.Consistent codec)
      (Gui.Consistent codec) panel controller

theorem Consistent.congr {controller : Controller} {panel shown : StatusPanel}
    (consistent : Gui.Consistent codec panel controller)
    (same : shown.counters = panel.counters) : Gui.Consistent codec shown controller := by
  intro idle
  obtain ⟨engine, counters⟩ := consistent idle
  exact ⟨engine, (StatusPanel.read_congr same _).trans counters⟩

theorem proceed_consistent {self : Window} {task : RequestM Unit}
    (keeps : task.Keeps Untouched (Gui.Consistent codec) (fun _ => Gui.Consistent codec)
      (Gui.Consistent codec) self.panel self.controller) :
    (self.proceed task).Consistent codec := by
  have advanced := keeps.advance
  unfold proceed
  rcases result : task.advance self.controller with ⟨_ | rest, controller⟩
  all_goals rw [result] at advanced
  · refine ⟨?_, fun _ none => by cases none⟩
    rcases advanced with ⟨_, returned⟩ | raised
    · exact returned
    · exact raised
  · refine ⟨advanced.1, fun task same panel after => ?_⟩
    cases same
    exact advanced.2 panel after

/-- A step of the others. -/
theorem Consistent.undisturbed {before after : Window} (consistent : before.Consistent codec)
    (untouched : Untouched before.controller after.controller)
    (shown : Gui.Consistent codec after.panel after.controller)
    (pending : after.pending = before.pending) : after.Consistent codec := by
  refine ⟨shown, fun task same panel controller later => ?_⟩
  rw [pending] at same
  exact consistent.pending task same panel controller (untouched.trans later)

theorem run_consistent {self : Window} {program : ControllerM Unit}
    (consistent : self.Consistent codec)
    (untouched : Preserves (Untouched self.controller) program)
    (kept : Preserves (Gui.Consistent codec self.panel) program) :
    (self.run program).Consistent codec :=
  consistent.undisturbed (untouched _ ⟨rfl, rfl⟩) (kept _ consistent.shown) rfl

theorem step_consistent {before after : Window} {action : WindowAction}
    (consistent : before.Consistent codec) (taken : before.step codec action = some after) :
    after.Consistent codec := by
  cases action with
  | request request =>
      obtain ⟨_, taken⟩ := Option.ite_none_left_eq_some.mp taken
      cases taken
      exact proceed_consistent (RequestM.coroutine_stays request _ _ consistent.shown)
  | resume =>
      obtain ⟨task, pending, taken⟩ := Option.map_eq_some_iff.mp taken
      cases taken
      exact proceed_consistent
        (consistent.pending task pending _ _ ⟨rfl, rfl⟩ consistent.shown)
  | transportEvent name details connected =>
      obtain ⟨event, taken⟩ := Option.ite_none_right_eq_some.mp taken
      cases taken
      exact run_consistent consistent (onTransportEvent_untouched name details connected)
        (onTransportEvent_consistent event details connected)
  | receiverEvent name details =>
      obtain ⟨event, taken⟩ := Option.ite_none_right_eq_some.mp taken
      cases taken
      exact run_consistent consistent (emit_untouched _)
        (emit_consistent (event_notice (receiverEvents_notice name event) details).uncounted)
  | statusIteration progress rate sent =>
      obtain ⟨_, taken⟩ := Option.ite_none_right_eq_some.mp taken
      cases taken
      exact run_consistent consistent (statusIteration_untouched progress rate sent)
        (statusIteration_consistent progress rate sent)
  | receiverIteration report =>
      obtain ⟨_, taken⟩ := Option.ite_none_right_eq_some.mp taken
      cases taken
      exact run_consistent consistent (receiverIteration_untouched report)
        (receiverIteration_consistent report)
  | notice message =>
      obtain ⟨notice, taken⟩ := Option.ite_none_right_eq_some.mp taken
      cases taken
      exact run_consistent consistent (emit_untouched message) (emit_consistent notice.uncounted)
  | lineControls controls message =>
      obtain ⟨notice, taken⟩ := Option.ite_none_right_eq_some.mp taken
      cases taken
      have held : Gui.Consistent codec before.panel
          { before.controller with lineControls := controls } := consistent.shown
      exact consistent.undisturbed ⟨rfl, rfl⟩ (emit_consistent notice.uncounted _ held) rfl
  | poll =>
      cases taken
      -- reading the messages shows what they tell
      exact consistent.undisturbed ⟨rfl, rfl⟩ consistent.shown rfl
  | showRate rate =>
      cases taken
      exact consistent.undisturbed ⟨rfl, rfl⟩ (Consistent.congr consistent.shown rfl) rfl
  | showEvent message =>
      cases taken
      exact consistent.undisturbed ⟨rfl, rfl⟩ (Consistent.congr consistent.shown rfl) rfl
  | clearEvents =>
      cases taken
      exact consistent.undisturbed ⟨rfl, rfl⟩ (Consistent.congr consistent.shown rfl) rfl

/-- Whatever was started, failed, stopped, reported and read in between, also while a request was at
an await: while no transport is active, a window that reads its messages shows no connections, no
progress and nothing sent. -/
theorem idle_window_shows_nothing {actions : List WindowAction} {final : Window}
    (ran : Runs.run (Window.step codec) {} actions = some final)
    (idle : final.controller.activeTransport = none) :
    (final.poll codec).panel.counters = StatusPanel.idleCounters := by
  have consistent := Runs.run_invariant (Window.Consistent codec)
    (fun _ _ _ held taken => step_consistent held taken)
    ⟨fun _ => ⟨rfl, rfl⟩, fun _ none => by cases none⟩ ran
  exact (consistent.shown idle).2

/-- Digits only; `int` also reads signs, blanks and underscores. -/
def decimals : PanelCodec where
  parseInt text :=
    if text.toList ≠ [] ∧ text.toList.all Char.isDigit then
      some (text.toList.foldl (fun value digit => 10 * value + (digit.toNat - 48)) 0)
    else none
  rateLabel features kilobytes :=
    some ("Rate: " ++ features ++ " feat/s | " ++ kilobytes ++ " KB/s")
  parseInt_zero := by decide

/-- Clients come and go while the requests wait. The first stop stops the engine and fails at the
transport, which a second one stops. -/
def stopsTwice : List WindowAction :=
  [.request (.startTransmission ⟨"server", "tcp", "127.0.0.1", 5565⟩ { filePath := "points.csv" }
      { load := .ok ⟨3, none⟩, progress := (0, 3) }), .showEvent "Start requested.", .resume,
    .transportEvent "client_connect" "client_id=a" 1, .poll, .resume,
    .statusIteration (2, 3) ("8.000", "0.500") (2, 64), .poll,
    .request (.stopTransport { transportStop := some ⟨.osError, "busy"⟩ }), .resume,
    .transportEvent "client_disconnect" "client_id=a" 0, .resume, .poll, .resume,
    .request (.stopTransport {}), .transportEvent "client_connect" "client_id=b" 1, .poll, .resume,
    .transportEvent "client_connect" "client_id=c" 2]

theorem idle_window_shows_nothing_stops_twice :
    ∃ final, Runs.run (Window.step decimals) {} stopsTwice = some final ∧
      final.panel.connection = "Connections: 1" ∧
      (final.poll decimals).panel.counters = StatusPanel.idleCounters := by
  have seen : (Runs.run (Window.step decimals) {} stopsTwice).map (fun final =>
      (final.controller.activeTransport, final.panel.connection)) =
        some (none, "Connections: 1") := by
    decide +kernel
  obtain ⟨final, ran, same⟩ := Option.map_eq_some_iff.mp seen
  simp only [Prod.mk.injEq] at same
  exact ⟨final, ran, same.2, idle_window_shows_nothing ran same.1⟩

end Window

end TcpSim.Gui
