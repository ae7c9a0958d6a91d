import TcpSim.Transport.TcpServerSender
import Mathlib.Logic.Relation

/-! What the steps of the broadcasting server come down to, and the cases of its loops. -/

set_option autoImplicit false

namespace TcpSim.Transport

variable {ι τ : Type}

namespace TcpServerSender

/-- Cancelling tasks and closing a writer, and notes about tasks. -/
structure Housekeeping (before after : TcpServerSender ι τ) : Prop where
  manager : after.connectionManager = before.connectionManager ∨
    ∃ connection, after.connectionManager = before.connectionManager.close connection
  ready : after.broadcastReadyClients = before.broadcastReadyClients
  event : after.broadcastReadyEvent = before.broadcastReadyEvent
  sendHeader : after.sendHeaderOnConnect = before.sendHeaderOnConnect
  header : after.headerPayload = before.headerPayload
  clock : after.clock = before.clock
  events : after.events = before.events
  sent : after.sent = before.sent
  calls : after.calls = before.calls

theorem Housekeeping.queueOf {before after : TcpServerSender ι τ} (keeps : Housekeeping before after)
    (id : ι) : after.connectionManager.queueOf id = before.connectionManager.queueOf id := by
  rcases keeps.manager with same | ⟨connection, closed⟩
  · rw [same]
  · rw [closed, ConnectionManager.close_queueOf]

theorem Housekeeping.clients {before after : TcpServerSender ι τ} (keeps : Housekeeping before after) :
    after.connectionManager.clients = before.connectionManager.clients := by
  rcases keeps.manager with same | ⟨connection, closed⟩
  · rw [same]
  · rw [closed]
    rfl

variable [DecidableEq ι] (self : TcpServerSender ι τ) (points : List (Point ι τ)) (task : Nat)

theorem endReader_housekeeping (id : ι) (connection : Nat) :
    Housekeeping self (self.endReader points task id connection).1 := by
  unfold endReader
  split
  · exact ⟨Or.inr ⟨connection, rfl⟩, rfl, rfl, rfl, rfl, rfl, rfl, rfl, rfl⟩
  · split
    · exact ⟨Or.inr ⟨connection, rfl⟩, rfl, rfl, rfl, rfl, rfl, rfl, rfl, rfl⟩
    · exact ⟨Or.inl rfl, rfl, rfl, rfl, rfl, rfl, rfl, rfl, rfl⟩

theorem endWriter_housekeeping (id : ι) (connection : Nat) :
    Housekeeping self (self.endWriter points task id connection).1 := by
  have later := endReader_housekeeping
    { self with writerTasks := Function.update self.writerTasks id none } points task id connection
  have reader : Housekeeping self (({ self with
      writerTasks := Function.update self.writerTasks id none } : TcpServerSender ι τ).endReader
        points task id connection).1 :=
    ⟨later.manager, later.ready, later.event, later.sendHeader, later.header, later.clock,
      later.events, later.sent, later.calls⟩
  unfold endWriter
  split
  · exact reader
  · split
    · exact reader
    · exact ⟨Or.inl rfl, rfl, rfl, rfl, rfl, rfl, rfl, rfl, rfl⟩

theorem disconnectClient_eq_none {id : ι} {reason : DisconnectReason} :
    self.disconnectClient points task id reason = none ↔
      self.connectionManager.getClientState id = none := by
  rw [← Option.not_isSome_iff_eq_none, ← Option.not_isSome_iff_eq_none,
    ConnectionManager.getClientState_isSome]
  unfold disconnectClient
  cases self.connectionManager.clients.get? id <;> simp

/-- A `_disconnect_client` call that finds its client. -/
def beginDisconnect (id : ι) (connection : Nat) (reason : DisconnectReason) :
    TcpServerSender ι τ :=
  { self with calls := self.calls ++ [DisconnectCall.mk connection reason] }.discardReady id

theorem disconnectClient_eq_some {id : ι} {reason : DisconnectReason}
    {begun : TcpServerSender ι τ} {teardown : Teardown ι}
    (begins : self.disconnectClient points task id reason = some (begun, teardown)) :
    ∃ connection, self.connectionManager.clients.get? id = some connection ∧
      begun = ((self.beginDisconnect id connection reason).endWriter points task id
        connection).1 ∧
      teardown.clientId = id ∧ teardown.reason = reason ∧ teardown.connection = connection := by
  unfold disconnectClient at begins
  split at begins
  · cases begins
  next connection found =>
    cases begins
    exact ⟨connection, found, rfl, rfl, rfl, rfl⟩

/-! ## What blocks do besides queueing payloads and registering or unregistering clients -/

/-- The head of a connection's queue goes to its stream writer. -/
def sendHead (connection : Nat) (payload : Payload τ) : TcpServerSender ι τ :=
  { self with
    connectionManager := (self.connectionManager.updateState connection
      (·.shift self.connectionManager.thresholds self.clock payload)
      (by simp [ClientState.shift])).write connection payload }

inductive Change : TcpServerSender ι τ → TcpServerSender ι τ → Prop where
  | keeps {before after} (same : Housekeeping before after) : Change before after
  | calls {before : TcpServerSender ι τ} (id connection reason)
      (found : before.connectionManager.clients.get? id = some connection) :
      Change before (before.beginDisconnect id connection reason)
  | sends {before : TcpServerSender ι τ} (id connection state payload rest)
      (found : before.connectionManager.getClientState id = some (connection, state))
      (queued : state.queuedPayloads = payload :: rest) :
      Change before (before.sendHead connection payload)

abbrev Quiet : TcpServerSender ι τ → TcpServerSender ι τ → Prop :=
  Relation.ReflTransGen Change

theorem Housekeeping.quiet {before after : TcpServerSender ι τ}
    (same : Housekeeping before after) : Quiet before after :=
  Relation.ReflTransGen.single (.keeps same)

theorem disconnectClient_quiet {id : ι} {reason : DisconnectReason}
    {begun : TcpServerSender ι τ} {teardown : Teardown ι}
    (begins : self.disconnectClient points task id reason = some (begun, teardown)) :
    Quiet self begun := by
  obtain ⟨connection, found, rfl, _⟩ := disconnectClient_eq_some self points task begins
  exact Relation.ReflTransGen.head (.calls id connection reason found)
    (endWriter_housekeeping _ points task id connection).quiet

theorem disconnectLast_quiet (id : ι) (reason : DisconnectReason) :
    Quiet self (self.disconnectLast points task id reason).1 := by
  unfold disconnectLast
  split
  · exact Relation.ReflTransGen.refl
  next begins => exact disconnectClient_quiet self points task begins

theorem disconnectEach_quiet (reason : DisconnectReason) (caller : List ι → Caller ι τ)
    {finish : Block ι τ} (finishes : ∀ self, Quiet self (finish self).1) (remaining : List ι) :
    Quiet self (disconnectEach points task reason caller finish remaining self).1 := by
  induction remaining with
  | nil => exact finishes self
  | cons id remaining ih =>
      unfold disconnectEach
      split
      · exact ih
      next begins => exact disconnectClient_quiet self points task begins

theorem readerTurn_quiet (id : ι) : Quiet self (self.readerTurn points task id).1 := by
  unfold readerTurn
  split
  · exact Relation.ReflTransGen.refl
  · exact disconnectLast_quiet self points task id _

theorem writerTurn_quiet (id : ι) : Quiet self (self.writerTurn id).1 := by
  unfold writerTurn
  split
  · split
    · split <;> exact Relation.ReflTransGen.refl
    next payload manager popped =>
      obtain ⟨connection, state, rest, found, queued, rfl⟩ :=
        ConnectionManager.popNextPayload_eq_some popped
      -- the client is still there when its state is looked up again
      rw [ConnectionManager.updateState_getClientState_self found]
      exact Relation.ReflTransGen.single (.sends id connection state payload rest found queued)
  · exact Relation.ReflTransGen.refl

theorem monitorRest_quiet (remaining : List ι) :
    Quiet self (self.monitorRest points task remaining).1 :=
  disconnectEach_quiet self points task _ _ (fun _ => Relation.ReflTransGen.refl) remaining

theorem monitorTurn_quiet : Quiet self (self.monitorTurn points task).1 := by
  unfold monitorTurn
  split
  · exact monitorRest_quiet self points task _
  · exact Relation.ReflTransGen.refl

theorem stopRest_quiet (remaining : List ι) :
    Quiet self (self.stopRest points task remaining).1 :=
  disconnectEach_quiet self points task _ _ (fun _ => Relation.ReflTransGen.refl) remaining

theorem stopClients_quiet : Quiet self (self.stopClients points task).1 := by
  have cleared : Housekeeping self { self with monitorTask := none } :=
    ⟨Or.inl rfl, rfl, rfl, rfl, rfl, rfl, rfl, rfl, rfl⟩
  exact cleared.quiet.trans (stopRest_quiet _ points task _)

theorem stop_quiet : Quiet self (self.stop points task).1 := by
  have halted : Housekeeping self { self with running := false } :=
    ⟨Or.inl rfl, rfl, rfl, rfl, rfl, rfl, rfl, rfl, rfl⟩
  unfold stop
  split
  · split
    · exact halted.quiet.trans (stopClients_quiet _ points task)
    · exact Housekeeping.quiet ⟨Or.inl rfl, rfl, rfl, rfl, rfl, rfl, rfl, rfl, rfl⟩
  · exact Relation.ReflTransGen.refl

theorem resumeCancelled_quiet (point : Point ι τ) :
    Quiet self (self.resumeCancelled points task point).1 := by
  have raised : Housekeeping self (self.raiseCancelled task) :=
    ⟨Or.inl rfl, rfl, rfl, rfl, rfl, rfl, rfl, rfl, rfl⟩
  cases point with
  | reading id => exact raised.quiet.trans (disconnectLast_quiet _ points task id _)
  | _ => exact raised.quiet

/-- All that a task does whose await is over, but for the ends of teardowns and of `stop`. -/
theorem resume_quiet (ok : Bool) {point : Point ι τ} (stays : point ≠ .serverClosing)
    (tears : ∀ teardown caller, point = .disconnecting teardown caller →
      teardown.await ≠ .closing) :
    Quiet self (self.resume points task ok point).1 := by
  cases point with
  | done => exact Relation.ReflTransGen.refl
  | cancelled caller => exact Relation.ReflTransGen.refl
  | writerSleeping id => exact writerTurn_quiet self id
  | draining id =>
      simp only [resume]
      split
      · exact writerTurn_quiet self id
      · exact disconnectLast_quiet self points task id _
  | readerCreated id => exact readerTurn_quiet self points task id
  | reading id =>
      simp only [resume]
      split
      · exact readerTurn_quiet self points task id
      · exact disconnectLast_quiet self points task id _
  | monitorSleeping => exact monitorTurn_quiet self points task
  | monitorEnding monitor => exact stopClients_quiet self points task
  | serverClosing => exact absurd rfl stays
  | disconnecting teardown caller =>
      have open_ := tears teardown caller rfl
      simp only [resume, continueTeardown]
      cases await : teardown.await with
      | writer writer => exact (endReader_housekeeping self points task _ _).quiet
      | reader reader =>
          exact Housekeeping.quiet
            ⟨Or.inr ⟨teardown.connection, rfl⟩, rfl, rfl, rfl, rfl, rfl, rfl, rfl, rfl⟩
      | closing => exact absurd await open_

/-! ## The loop of `broadcast` -/

/-- The loop of `broadcast` goes on at a client that takes the payload or is gone, and stops
to tear down one that is over the hard cap. -/
theorem broadcastTo_cons (payload : Payload τ) (id : ι) (remaining : List ι) :
    (∃ manager, self.connectionManager.enqueuePayload self.clock id payload = .ok manager ∧
      broadcastTo points task payload (id :: remaining) self =
        broadcastTo points task payload remaining { self with connectionManager := manager }) ∨
    (self.connectionManager.getClientState id = none ∧
      broadcastTo points task payload (id :: remaining) self =
        broadcastTo points task payload remaining self) ∨
    (self.connectionManager.rejects id payload ∧ ∃ begun teardown,
      self.disconnectClient points task id (.rejected .hardCapExceeded) =
        some (begun, teardown) ∧
      broadcastTo points task payload (id :: remaining) self =
        (begun, .disconnecting teardown (.broadcast payload remaining))) := by
  rw [broadcastTo]
  split
  next manager accepted => exact Or.inl ⟨manager, accepted, rfl⟩
  next rejection rejected =>
    cases entry : self.connectionManager.getClientState id with
    | none =>
        have gone : self.disconnectClient points task id (.rejected rejection) = none :=
          (disconnectClient_eq_none self points task).mpr entry
        exact Or.inr (Or.inl ⟨rfl, by rw [gone]⟩)
    | some found =>
        obtain ⟨rejects, rfl⟩ := ConnectionManager.rejects_of_error entry rejected
        cases begins : self.disconnectClient points task id (.rejected .hardCapExceeded) with
        | none =>
            rw [disconnectClient_eq_none, entry] at begins
            cases begins
        | some pair => exact Or.inr (Or.inr ⟨rejects, pair.1, pair.2, rfl, rfl⟩)

end TcpServerSender

namespace System

variable [DecidableEq ι]

theorem step_resume_eq_some {self next : System ι τ} {task : Nat} {ok : Bool}
    (taken : self.step (.resume task ok) = some next) :
    ∃ point, self.points[task]? = some point ∧ point.isReady self.points = true ∧
      ((self.shared.cancellations.tasks task = true ∧
        next = {
          shared := (self.shared.resumeCancelled self.points task point).1
          points := self.points.set task (self.shared.resumeCancelled self.points task point).2 }) ∨
      (self.shared.cancellations.tasks task = false ∧
        next = {
          shared := (self.shared.resume self.points task ok point).1
          points := self.points.set task (self.shared.resume self.points task ok point).2 })) := by
  obtain ⟨point, block, found, chosen, rfl⟩ := Interleaving.advance_eq_some.mp taken
  split at chosen
  next isReady =>
    cases chosen
    refine ⟨point, found, isReady, ?_⟩
    cases cancelled : self.shared.cancellations.tasks task with
    | true => exact Or.inl ⟨rfl, by simp only [cancelled, if_true]⟩
    | false =>
        refine Or.inr ⟨rfl, ?_⟩
        simp only [cancelled, Bool.false_eq_true, if_false]
  · cases chosen

theorem step_closeCancelled_eq_some {self next : System ι τ} {task : Nat}
    (taken : self.step (.closeCancelled task) = some next) :
    ∃ teardown caller, self.points[task]? = some (.disconnecting teardown caller) ∧
      teardown.await = .closing ∧ next = { self with points := self.points.set task (.cancelled caller) } := by
  obtain ⟨point, block, found, chosen, rfl⟩ := Interleaving.advance_eq_some.mp taken
  split at chosen
  next teardown caller =>
    split at chosen
    next closing =>
      cases chosen
      exact ⟨teardown, caller, found, closing.1, rfl⟩
    · cases chosen
  · cases chosen

theorem step_connect_eq_some {self next : System ι τ} {id : ι}
    (taken : self.step (.connect id) = some next) : next = self.connect id := by
  simp only [step] at taken
  split at taken
  · exact (Option.some.inj taken).symm
  · cases taken

theorem step_broadcast_eq_some {self next : System ι τ} {payload : Payload τ} {order : List ι}
    (taken : self.step (.broadcast payload order) = some next) :
    order.Nodup ∧ order.toFinset = self.shared.broadcastReadyClients ∧
      next = self.launch (·.broadcast self.points self.points.length payload order) := by
  simp only [step] at taken
  split at taken
  next snapshot => exact ⟨snapshot.1, snapshot.2, (Option.some.inj taken).symm⟩
  · cases taken

theorem step_cancelBroadcast_eq_some {self next : System ι τ} {task : Nat}
    (taken : self.step (.cancelBroadcast task) = some next) :
    next = { self with shared := self.shared.cancel self.points task } := by
  simp only [step] at taken
  split at taken
  · exact (Option.some.inj taken).symm
  · cases taken

theorem step_tick_eq_some {self next : System ι τ} {now : ℚ}
    (taken : self.step (.tick now) = some next) :
    self.shared.clock ≤ now ∧ next = { self with shared := { self.shared with clock := now } } := by
  simp only [step] at taken
  split at taken
  next later => exact ⟨later, (Option.some.inj taken).symm⟩
  · cases taken

end System

end TcpSim.Transport
