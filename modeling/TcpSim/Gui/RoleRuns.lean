import TcpSim.Gui.ControllerRoles

/-! Runs of completed controller requests. Sender and receiver stay apart exactly when no
request that starts a sender meets a receiver. -/

set_option autoImplicit false

namespace TcpSim.Gui

open Effects

/-- Nothing that the request starts stands beside the other role when it has completed. -/
def Request.KeepsRoles (self : Controller) : Request → Prop
  | .startTransmission settings _ outcome =>
      self.receiverEngine = none ∨ outcome.Undone settings self.lineControls
  | .applySettings settings outcome => self.receiverEngine = none ∨ ¬outcome.Builds settings
  | _ => True

/-- A request that starts a sender is made while there is no receiver. -/
def Request.FindsNoReceiver (self : Controller) : Request → Prop
  | .startTransmission .. | .applySettings .. => self.receiverEngine = none
  | _ => True

/-- Starting a sender leaves no receiver, and the start of a receiver goes on only when the
sender is gone. -/
def Request.TearsDownOther (self : Controller) : Request → Prop
  | .startTransmission settings stream outcome =>
      (final (startTransmissionAsync settings stream outcome self)).receiverEngine = none
  | .applySettings settings outcome =>
      (final (applySettingsAsync settings outcome self)).receiverEngine = none
  | .startReception _ outcome =>
      ∀ after, leaveSenderRole outcome.stopSender self = .ok () after → after.NoSender
  | _ => True

theorem Request.FindsNoReceiver.keepsRoles {self : Controller} {request : Request}
    (finds : request.FindsNoReceiver self) : request.KeepsRoles self := by
  cases request with
  | startTransmission settings stream outcome => exact .inl finds
  | applySettings settings outcome => exact .inl finds
  | startReception settings outcome => trivial
  | configureSink sink config configure => trivial
  | stopTransport outcome => trivial
  | stopReception outcome => trivial

theorem startTransmissionAsync_receiver_eq (settings : RuntimeSettings) (stream : StreamSettings)
    (outcome : StartOutcome) (self : Controller) :
    (final (startTransmissionAsync settings stream outcome self)).receiverEngine =
      self.receiverEngine :=
  startTransmissionAsync_receiver settings stream outcome self.receiverEngine self rfl

theorem applySettingsAsync_receiver_eq (settings : RuntimeSettings) (outcome : BindOutcome)
    (self : Controller) :
    (final (applySettingsAsync settings outcome self)).receiverEngine = self.receiverEngine :=
  bindTransport_receiver settings none outcome self.receiverEngine self rfl

theorem tearsDownOther_iff (self : Controller) (request : Request) :
    request.TearsDownOther self ↔ request.FindsNoReceiver self := by
  cases request with
  | startTransmission settings stream outcome =>
      simp only [Request.TearsDownOther, Request.FindsNoReceiver,
        startTransmissionAsync_receiver_eq]
  | applySettings settings outcome =>
      simp only [Request.TearsDownOther, Request.FindsNoReceiver, applySettingsAsync_receiver_eq]
  | startReception settings outcome =>
      exact iff_of_true (fun _ ran => leaveSenderRole_returns ran) trivial
  | configureSink sink config configure => exact Iff.rfl
  | stopTransport outcome => exact Iff.rfl
  | stopReception outcome => exact Iff.rfl

/-- A program that leaves the receiver alone: exclusive afterwards without a receiver, and
beside one exactly when it leaves no sender. -/
theorem exclusive_iff_of_receiver {self after : Controller} (exclusive : self.Exclusive)
    (same : after.receiverEngine = self.receiverEngine) {undone : Prop}
    (noSender : self.NoSender → (after.NoSender ↔ undone)) :
    after.Exclusive ↔ self.receiverEngine = none ∨ undone := by
  unfold Controller.Exclusive
  rw [same]
  by_cases absent : self.receiverEngine = none
  · exact iff_of_true (.inr absent) (.inl absent)
  · have before : self.NoSender := exclusive.resolve_right absent
    rw [noSender before]
    exact or_comm

theorem complete_exclusive_iff {self next : Controller} {request : Request}
    (exclusive : self.Exclusive) (taken : self.complete request = some next) :
    next.Exclusive ↔ request.KeepsRoles self := by
  obtain rfl := Option.some.inj taken
  have closed := exclusive_shrinkClosed
  cases request with
  | startTransmission settings stream outcome =>
      exact exclusive_iff_of_receiver exclusive
        (startTransmissionAsync_receiver_eq settings stream outcome self)
        startTransmissionAsync_noSender_iff
  | applySettings settings outcome =>
      exact exclusive_iff_of_receiver exclusive
        (applySettingsAsync_receiver_eq settings outcome self)
        (applySettingsAsync_noSender_iff · settings)
  | startReception settings outcome =>
      exact iff_of_true (startReceptionAsync_preserves settings outcome self exclusive) trivial
  | configureSink sink config configure =>
      exact iff_of_true (configureSinkAsync_preserves closed.toSenderShrinks sink config configure
        self exclusive) trivial
  | stopTransport outcome =>
      exact iff_of_true (stopTransportAsync_preserves closed.toSenderShrinks outcome self
        exclusive) trivial
  | stopReception outcome =>
      exact iff_of_true (stopReceptionAsync_preserves closed outcome self exclusive) trivial

theorem complete_run (self : Controller) (requests : List Request) :
    ∃ after, Runs.run Controller.complete self requests = some after := by
  induction requests generalizing self with
  | nil => exact ⟨self, rfl⟩
  | cons request rest ih => exact ih (final (request.program self))

theorem exclusive_iff_keepsRoles (requests : List Request) :
    (∀ visited, Runs.Visits Controller.complete {} requests visited → visited.Exclusive) ↔
      Runs.Each Controller.complete (fun self request => request.KeepsRoles self) {} requests := by
  obtain ⟨_, ran⟩ := complete_run {} requests
  exact Runs.stays_iff_each (fun _ => True) (fun _ => True) Controller.Exclusive _
    (fun _ _ _ _ _ _ => trivial)
    (fun _ _ _ _ _ exclusive taken => complete_exclusive_iff exclusive taken)
    trivial (.inl ⟨rfl, rfl⟩) (fun _ _ => trivial) ran

/-- The roles exclude each other exactly along the requests that keep them apart; each start
also tears the other role down exactly when no sender is started beside a receiver. -/
theorem roles_exclusive_iff (requests : List Request) :
    ((∀ visited, Runs.Visits Controller.complete {} requests visited → visited.Exclusive) ↔
      Runs.Each Controller.complete (fun self request => request.KeepsRoles self) {} requests) ∧
    ((∀ visited, Runs.Visits Controller.complete {} requests visited → visited.Exclusive) ∧
        Runs.Each Controller.complete (fun self request => request.TearsDownOther self) {}
          requests ↔
      Runs.Each Controller.complete (fun self request => request.FindsNoReceiver self) {}
        requests) := by
  refine ⟨exclusive_iff_keepsRoles requests, ?_⟩
  constructor
  · intro both
    exact both.2.mono fun self request => (tearsDownOther_iff self request).mp
  · intro finds
    exact ⟨(exclusive_iff_keepsRoles requests).mpr (finds.mono fun _ _ met => met.keepsRoles),
      finds.mono fun self request => (tearsDownOther_iff self request).mpr⟩

/-- A reception is started and then a transmission; nothing fails. -/
def receiverThenSender : List Request :=
  [.startReception { mode := "server", protocol := "tcp", host := "127.0.0.1", port := 5565 } {},
    .startTransmission { mode := "server", protocol := "tcp", host := "127.0.0.1", port := 5566 }
      { filePath := "data.csv" } { load := .ok { records := 3, headerPayload := none } }]

theorem receiverThenSender_not_exclusive :
    ¬∀ visited, Runs.Visits Controller.complete {} receiverThenSender visited →
      visited.Exclusive := by
  intro exclusive
  obtain ⟨after, ran⟩ := complete_run {} receiverThenSender
  have transport : (Runs.run Controller.complete {} receiverThenSender).map
      (·.activeTransport) = some (some .tcpServer) := by decide +kernel
  have receiver : (Runs.run Controller.complete {} receiverThenSender).map
      (·.receiverEngine) = some (some .tcpServer) := by decide +kernel
  rw [ran] at transport receiver
  rcases exclusive after ⟨receiverThenSender, List.prefix_refl _, ran⟩ with noSender | noReceiver
  · simp [noSender.1] at transport
  · simp [noReceiver] at receiver

end TcpSim.Gui
