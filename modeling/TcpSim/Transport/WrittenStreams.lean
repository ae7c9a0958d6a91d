import TcpSim.Transport.TcpServerProperties

/-! What is written to a connection stays written: its stream only grows, even when the client is
gone and its name taken by another. -/

set_option autoImplicit false

namespace TcpSim.Transport

open Engine

variable {ι τ : Type}

/-! ## The manager -/

namespace ConnectionManager

/-- Each connection is still there, and what was written to it is. -/
def Grows (before after : ConnectionManager ι τ) : Prop :=
  ∀ (connection : Nat) (state : ClientState ι τ), before.states[connection]? = some state →
    ∃ later, after.states[connection]? = some later ∧
      state.writer.written <+: later.writer.written

namespace Grows

variable {first second third : ConnectionManager ι τ}

theorem refl (manager : ConnectionManager ι τ) : Grows manager manager :=
  fun _ state present => ⟨state, present, List.prefix_rfl⟩

theorem of_states (same : second.states = first.states) : Grows first second := by
  intro connection state present
  rw [← same] at present
  exact ⟨state, present, List.prefix_rfl⟩

theorem trans (one : Grows first second) (two : Grows second third) : Grows first third := by
  intro connection state present
  obtain ⟨middle, between, written⟩ := one connection state present
  obtain ⟨last, later, more⟩ := two connection middle between
  exact ⟨last, later, written.trans more⟩

end Grows

variable (self : ConnectionManager ι τ)

theorem updateState_grows (connection : Nat) (update : ClientState ι τ → ClientState ι τ)
    (named : ∀ state, (update state).clientId = state.clientId)
    (writes : ∀ state, state.writer.written <+: (update state).writer.written) :
    Grows self (self.updateState connection update named) := by
  intro other state present
  refine ⟨if connection = other then update state else state, ?_, ?_⟩
  · change (self.states.modify connection update)[other]? = _
    rw [List.getElem?_modify, present]
    split
    · rfl
    · rfl
  · split
    · exact writes state
    · exact List.prefix_rfl

theorem close_grows (connection : Nat) : Grows self (self.close connection) :=
  self.updateState_grows connection (·.close) (fun _ => rfl) (fun _ => List.prefix_rfl)

theorem enqueuePayload_grows {now : ℚ} {id : ι} {payload : Payload τ}
    {manager : ConnectionManager ι τ}
    (accepted : self.enqueuePayload now id payload = .ok manager) : Grows self manager := by
  unfold enqueuePayload at accepted
  split at accepted
  · cases accepted
  · split at accepted
    · cases accepted
      refine self.updateState_grows _ _ _ ?_
      intro state
      simp [ClientState.push]
    · cases accepted

theorem registerClient_grows [DecidableEq ι] (id : ι) : Grows self (self.registerClient id) := by
  intro connection state present
  refine ⟨state, ?_, List.prefix_rfl⟩
  have inside : connection < self.states.length := (List.getElem?_eq_some_iff.mp present).1
  change (self.states ++ [_])[connection]? = _
  rw [List.getElem?_append_left inside]
  exact present

end ConnectionManager

/-! ## The server -/

namespace TcpServerSender

/-- What blocks are made of. -/
inductive Move [DecidableEq ι] : TcpServerSender ι τ → TcpServerSender ι τ → Prop where
  | change {before after} (change : Change before after) : Move before after
  | accept {before : TcpServerSender ι τ} (id writer) : Move before (before.accept id writer).1
  | ready {before : TcpServerSender ι τ} (id reader) : Move before (before.makeReady id reader).1
  | enqueue {before : TcpServerSender ι τ} (id payload manager)
      (accepted : before.connectionManager.enqueuePayload before.clock id payload = .ok manager) :
      Move before { before with connectionManager := manager }
  | unregister {before : TcpServerSender ι τ} (id reason) :
      Move before (before.unregister id reason)
  | stopped {before : TcpServerSender ι τ} : Move before before.stopped.1

variable [DecidableEq ι] (self : TcpServerSender ι τ) (points : List (Point ι τ)) (task : Nat)

abbrev Moves : TcpServerSender ι τ → TcpServerSender ι τ → Prop := Relation.ReflTransGen Move

theorem Quiet.moves {before after : TcpServerSender ι τ} (quiet : Quiet before after) :
    Moves before after :=
  Relation.ReflTransGen.mono (fun _ _ change => Move.change change) _ _ quiet

theorem broadcastTo_moves (payload : Payload τ) (remaining : List ι) :
    Moves self (broadcastTo points task payload remaining self).1 := by
  induction remaining generalizing self with
  | nil => exact .refl
  | cons id remaining ih =>
      rcases broadcastTo_cons self points task payload id remaining with
        ⟨manager, accepted, goesOn⟩ | ⟨_, goesOn⟩ | ⟨_, begun, teardown, begins, stops⟩
      · rw [goesOn]
        exact .head (.enqueue id payload manager accepted) (ih { self with connectionManager := manager })
      · rw [goesOn]
        exact ih self
      · rw [stops]
        exact Quiet.moves (disconnectClient_quiet self points task begins)

theorem greet_moves (id : ι) : Moves self (self.greet points task id).1 := by
  unfold greet
  split
  · exact .single (.ready id task)
  next header _ =>
    split
    next manager accepted => exact .head (.enqueue id header manager accepted) (.single (.ready id task))
    next => exact Quiet.moves (disconnectLast_quiet self points task id _)

theorem continueCaller_moves (caller : Caller ι τ) :
    Moves self (self.continueCaller points task caller).1 := by
  cases caller with
  | nothing => exact .refl
  | broadcast payload remaining => exact broadcastTo_moves self points task payload remaining
  | monitor remaining => exact Quiet.moves (monitorRest_quiet self points task remaining)
  | stop remaining => exact Quiet.moves (stopRest_quiet self points task remaining)

theorem resume_moves (ok : Bool) (point : Point ι τ) :
    Moves self (self.resume points task ok point).1 := by
  cases point with
  | serverClosing => exact .single .stopped
  | disconnecting teardown caller =>
      cases await : teardown.await with
      | closing =>
          simp only [resume, continueTeardown, await]
          exact .head (.unregister teardown.clientId teardown.reason)
            (continueCaller_moves (self.unregister teardown.clientId teardown.reason) points task caller)
      | _ =>
          refine Quiet.moves (resume_quiet self points task ok (by simp) ?_)
          intro other rest same
          cases same
          simp [await]
  | _ => exact Quiet.moves (resume_quiet self points task ok (by simp) (by simp))

end TcpServerSender

/-- The server's own steps are made of moves, but for the clock. -/
theorem System.step_moves [DecidableEq ι] {self next : System ι τ} {action : ServerAction ι τ}
    (own : action.isOwn = true) (taken : self.step action = some next) :
    TcpServerSender.Moves self.shared next.shared ∨
      next.shared = { self.shared with clock := next.shared.clock } := by
  cases action with
  | connect id =>
      obtain rfl := step_connect_eq_some taken
      let accepted := self.launch (·.accept id self.points.length)
      exact .inl (.head (.accept id self.points.length)
        (TcpServerSender.greet_moves accepted.shared accepted.points accepted.points.length id))
  | resume task ok =>
      obtain ⟨point, _, _, ⟨_, rfl⟩ | ⟨_, rfl⟩⟩ := step_resume_eq_some taken
      · exact .inl (TcpServerSender.Quiet.moves
          (TcpServerSender.resumeCancelled_quiet self.shared self.points task point))
      · exact .inl (TcpServerSender.resume_moves self.shared self.points task ok point)
  | closeCancelled task =>
      obtain ⟨_, _, _, _, rfl⟩ := step_closeCancelled_eq_some taken
      exact .inl .refl
  | tick now =>
      obtain ⟨_, rfl⟩ := step_tick_eq_some taken
      exact .inr rfl
  | _ => cases own

/-! ## What only grows -/

namespace TcpServerSender

variable [DecidableEq ι]

def Grows (before after : TcpServerSender ι τ) : Prop :=
  before.connectionManager.Grows after.connectionManager

theorem Change.grows {before after : TcpServerSender ι τ} (change : Change before after) :
    Grows before after := by
  cases change with
  | keeps same =>
      rcases same.manager with manager | ⟨connection, manager⟩
      · exact .of_states (by rw [manager])
      · unfold Grows
        rw [manager]
        exact before.connectionManager.close_grows connection
  | calls => exact .refl _
  | sends id connection state payload rest found queued =>
      refine (ConnectionManager.updateState_grows _ connection _ _ ?_).trans
        (ConnectionManager.updateState_grows _ connection (·.write payload) (fun _ => rfl) ?_)
      · intro state
        simp [ClientState.shift]
      · intro state
        exact List.prefix_append _ _

theorem Moves.grows {before after : TcpServerSender ι τ} (moves : Moves before after) :
    Grows before after := by
  induction moves with
  | refl => exact .refl _
  | @tail middle _ _ move ih =>
      refine ConnectionManager.Grows.trans ih ?_
      cases move with
      | change change => exact change.grows
      | accept id writer => exact middle.connectionManager.registerClient_grows id
      | enqueue id payload manager accepted =>
          exact middle.connectionManager.enqueuePayload_grows accepted
      | _ => exact .of_states rfl

theorem Change.sent {before after : TcpServerSender ι τ} (change : Change before after) :
    after.sent = before.sent := by
  cases change with
  | keeps same => exact same.sent
  | _ => rfl

theorem Moves.sent {before after : TcpServerSender ι τ} (moves : Moves before after) :
    after.sent = before.sent := by
  induction moves with
  | refl => rfl
  | tail _ move ih =>
      rw [← ih]
      cases move with
      | change change => exact change.sent
      | _ => rfl

end TcpServerSender

/-! ## Steps -/

namespace System

variable [DecidableEq ι] {self next : System ι τ}

theorem step_grows {action : ServerAction ι τ} (taken : self.step action = some next) :
    self.shared.connectionManager.Grows next.shared.connectionManager := by
  have own (mine : action.isOwn = true) : TcpServerSender.Grows self.shared next.shared := by
    rcases step_moves mine taken with moves | clock
    · exact moves.grows
    · exact .of_states (by rw [clock])
  cases action with
  | broadcast payload order =>
      obtain ⟨_, _, rfl⟩ := step_broadcast_eq_some taken
      simp only [Interleaving.Pool.launch, TcpServerSender.broadcast]
      split
      · exact .refl _
      · exact (TcpServerSender.broadcastTo_moves
          { self.shared with sent := self.shared.sent ++ [payload] } _ _ payload order).grows
  | cancelBroadcast task =>
      obtain rfl := step_cancelBroadcast_eq_some taken
      exact .refl _
  | updateHeader =>
      cases taken
      exact .refl _
  | stop =>
      cases taken
      exact (TcpServerSender.Quiet.moves (TcpServerSender.stop_quiet self.shared self.points _)).grows
  | _ => exact own rfl

/-- Only calls of `broadcast` add to what is broadcast. -/
theorem own_sent {action : ServerAction ι τ} (own : action.isOwn = true)
    (taken : self.step action = some next) : next.shared.sent = self.shared.sent := by
  rcases step_moves own taken with moves | clock
  · exact moves.sent
  · rw [clock]

theorem broadcast_sent {payload : Payload τ} {order : List ι}
    (taken : self.step (.broadcast payload order) = some next) :
    next.shared.sent = self.shared.sent ++ [payload].filter (·.bytes ≠ []) := by
  obtain ⟨_, _, rfl⟩ := step_broadcast_eq_some taken
  simp only [Interleaving.Pool.launch, TcpServerSender.broadcast]
  split
  next empty => simp [empty]
  next full =>
    rw [(TcpServerSender.broadcastTo_moves
      { self.shared with sent := self.shared.sent ++ [payload] } _ _ payload order).sent]
    simp [full]

end System

end TcpSim.Transport
