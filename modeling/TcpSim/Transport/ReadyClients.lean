import TcpSim.Transport.TcpServerProperties

/-! Which clients are ready to be broadcast to: they are registered and the event says whether
there are any, as long as no teardown ends that another connection of the same name has
overtaken. -/

set_option autoImplicit false

namespace TcpSim.Transport

variable {ι τ : Type}

namespace TcpServerSender

def EventCoherent (self : TcpServerSender ι τ) : Prop :=
  self.broadcastReadyEvent = true ↔ self.broadcastReadyClients.Nonempty

structure ReadyRegistered (server : TcpServerSender ι τ) : Prop where
  registered : ∀ id ∈ server.broadcastReadyClients,
    (server.connectionManager.getClientState id).isSome = true
  event : server.EventCoherent
  /-- Once all connections are gone there is nobody to broadcast to. -/
  emptied : server.connectionManager.listClientIds = [] → server.hasBroadcastClients = false

theorem readyRegistered_of {self : TcpServerSender ι τ}
    (registered : ∀ id ∈ self.broadcastReadyClients,
      (self.connectionManager.clients.get? id).isSome = true)
    (event : self.EventCoherent) : self.ReadyRegistered where
  registered := by
    intro id ready
    rw [ConnectionManager.getClientState_isSome]
    exact registered id ready
  event := event
  emptied := by
    intro gone
    unfold hasBroadcastClients
    rw [decide_eq_false_iff_not, Finset.not_nonempty_iff_eq_empty, Finset.eq_empty_iff_forall_notMem]
    intro id ready
    have listed := (self.connectionManager.clients.mem_keys id).mpr (registered id ready)
    unfold ConnectionManager.listClientIds at gone
    rw [gone] at listed
    cases listed

/-- The dictionary of clients stays, and only registered clients stop being ready. -/
structure KeepsClients (before after : TcpServerSender ι τ) : Prop where
  clients : after.connectionManager.clients = before.connectionManager.clients
  ready : after.broadcastReadyClients ⊆ before.broadcastReadyClients
  lost : ∀ id ∈ before.broadcastReadyClients, id ∉ after.broadcastReadyClients →
    (before.connectionManager.clients.get? id).isSome = true
  event : before.EventCoherent → after.EventCoherent

namespace KeepsClients

theorem of_same {before after : TcpServerSender ι τ}
    (clients : after.connectionManager.clients = before.connectionManager.clients)
    (ready : after.broadcastReadyClients = before.broadcastReadyClients)
    (event : after.broadcastReadyEvent = before.broadcastReadyEvent) :
    KeepsClients before after where
  clients := clients
  ready := by rw [ready]
  lost := by
    intro id old new
    rw [ready] at new
    exact absurd old new
  event := by
    unfold EventCoherent
    rw [ready, event]
    exact id

theorem refl (self : TcpServerSender ι τ) : KeepsClients self self :=
  of_same rfl rfl rfl

theorem trans {first second third : TcpServerSender ι τ} (one : KeepsClients first second)
    (two : KeepsClients second third) : KeepsClients first third where
  clients := two.clients.trans one.clients
  ready := two.ready.trans one.ready
  lost := by
    intro id old new
    by_cases middle : id ∈ second.broadcastReadyClients
    · have present := two.lost id middle new
      rw [one.clients] at present
      exact present
    · exact one.lost id old middle
  event := fun coherent => two.event (one.event coherent)

theorem readyRegistered {before after : TcpServerSender ι τ} (keeps : KeepsClients before after)
    (good : before.ReadyRegistered) : after.ReadyRegistered := by
  refine readyRegistered_of ?_ (keeps.event good.event)
  intro id ready
  rw [keeps.clients, ← ConnectionManager.getClientState_isSome]
  exact good.registered id (keeps.ready ready)

end KeepsClients

/-! ## The blocks -/

section Blocks

variable [DecidableEq ι] (self : TcpServerSender ι τ) (points : List (Point ι τ)) (task : Nat)

theorem discardReady_keepsClients {id : ι}
    (present : (self.connectionManager.clients.get? id).isSome = true) :
    KeepsClients self (self.discardReady id) where
  clients := rfl
  ready := Finset.erase_subset id _
  lost := by
    intro other old new
    by_cases same : other = id
    · rw [same]
      exact present
    · exact absurd (Finset.mem_erase.mpr ⟨same, old⟩) new
  event := by
    unfold EventCoherent
    intro coherent
    simp only [discardReady, Bool.and_eq_true, decide_eq_true_eq, and_iff_right_iff_imp]
    intro left
    exact coherent.mpr (left.mono (Finset.erase_subset id _))

theorem Change.keepsClients {before after : TcpServerSender ι τ} (change : Change before after) :
    KeepsClients before after := by
  cases change with
  | keeps same => exact KeepsClients.of_same same.clients same.ready same.event
  | calls id connection reason found =>
      have noted : KeepsClients before
          { before with calls := before.calls ++ [DisconnectCall.mk connection reason] } :=
        KeepsClients.of_same rfl rfl rfl
      exact noted.trans (discardReady_keepsClients _ (Option.isSome_of_eq_some found))
  | sends id connection state payload rest found queued => exact KeepsClients.of_same rfl rfl rfl

theorem Quiet.keepsClients {before after : TcpServerSender ι τ} (quiet : Quiet before after) :
    KeepsClients before after := by
  induction quiet with
  | refl => exact KeepsClients.refl before
  | tail _ change ih => exact ih.trans change.keepsClients

theorem broadcastTo_keepsClients (payload : Payload τ) (remaining : List ι) :
    KeepsClients self (broadcastTo points task payload remaining self).1 := by
  induction remaining generalizing self with
  | nil => exact KeepsClients.refl self
  | cons id remaining ih =>
      rcases broadcastTo_cons self points task payload id remaining with
        ⟨manager, accepted, turn⟩ | ⟨_, turn⟩ | ⟨_, begun, teardown, begins, turn⟩
      · rw [turn]
        have queued : KeepsClients self { self with connectionManager := manager } :=
          KeepsClients.of_same (ConnectionManager.enqueuePayload_clients accepted) rfl rfl
        exact queued.trans (ih _)
      · rw [turn]
        exact ih self
      · rw [turn]
        exact (disconnectClient_quiet self points task begins).keepsClients

theorem broadcast_keepsClients (payload : Payload τ) (order : List ι) :
    KeepsClients self (self.broadcast points task payload order).1 := by
  unfold broadcast
  split
  · exact KeepsClients.refl self
  · have noted : KeepsClients self { self with sent := self.sent ++ [payload] } :=
      KeepsClients.of_same rfl rfl rfl
    exact noted.trans (broadcastTo_keepsClients _ points task payload order)

theorem continueCaller_keepsClients (caller : Caller ι τ) :
    KeepsClients self (self.continueCaller points task caller).1 := by
  cases caller with
  | nothing => exact KeepsClients.refl self
  | broadcast payload remaining =>
      exact broadcastTo_keepsClients self points task payload remaining
  | monitor remaining => exact (monitorRest_quiet self points task remaining).keepsClients
  | stop remaining => exact (stopRest_quiet self points task remaining).keepsClients

end Blocks

/-! ## Exactly when a step keeps the ready clients registered -/

section Exactly

variable {self : TcpServerSender ι τ}

theorem stopped_readyRegistered_iff (good : self.ReadyRegistered) :
    self.stopped.1.ReadyRegistered ↔ self.broadcastReadyClients = ∅ := by
  constructor
  · intro reached
    have cleared : ¬self.broadcastReadyClients.Nonempty := by
      intro someone
      cases reached.event.mpr someone
    exact Finset.not_nonempty_iff_eq_empty.mp cleared
  · intro nobody
    refine readyRegistered_of ?_ ?_
    · intro other ready
      rw [← ConnectionManager.getClientState_isSome]
      exact good.registered other ready
    · have none_ready : ¬self.broadcastReadyClients.Nonempty :=
        Finset.not_nonempty_iff_eq_empty.mpr nobody
      exact iff_of_false Bool.false_ne_true none_ready

variable [DecidableEq ι] {points : List (Point ι τ)} {task : Nat}

theorem accept_readyRegistered (good : self.ReadyRegistered) (id : ι) (writer : Nat) :
    (self.accept id writer).1.ReadyRegistered := by
  refine readyRegistered_of ?_ good.event
  intro other ready
  by_cases same : other = id
  · rw [same]
    exact Option.isSome_of_eq_some (Dict.set_get?_self _ id _)
  · have present := good.registered other ready
    rw [ConnectionManager.getClientState_isSome] at present
    exact (congrArg Option.isSome (Dict.set_get?_of_ne _ same _)).trans present

theorem makeReady_readyRegistered (good : self.ReadyRegistered) {id : ι}
    (present : (self.connectionManager.clients.get? id).isSome = true) (reader : Nat) :
    (self.makeReady id reader).1.ReadyRegistered := by
  refine readyRegistered_of ?_ ?_
  · intro other ready
    rcases Finset.mem_insert.mp ready with new | old
    · rw [new]
      exact present
    · rw [← ConnectionManager.getClientState_isSome]
      exact good.registered other old
  · exact iff_of_true rfl (Finset.insert_nonempty id _)

theorem greet_readyRegistered (good : self.ReadyRegistered) {id : ι}
    (present : (self.connectionManager.clients.get? id).isSome = true) :
    (self.greet points task id).1.ReadyRegistered := by
  unfold greet
  split
  · exact makeReady_readyRegistered good present task
  · split
    next manager accepted =>
      have same := ConnectionManager.enqueuePayload_clients accepted
      have queued : KeepsClients self { self with connectionManager := manager } :=
        KeepsClients.of_same same rfl rfl
      refine makeReady_readyRegistered (queued.readyRegistered good) ?_ task
      rw [queued.clients]
      exact present
    · exact (disconnectLast_quiet self points task id _).keepsClients.readyRegistered good

theorem unregister_readyRegistered_iff (good : self.ReadyRegistered) {id : ι}
    {reason : DisconnectReason} {after : TcpServerSender ι τ}
    (keeps : KeepsClients (self.unregister id reason) after) :
    after.ReadyRegistered ↔ id ∉ self.broadcastReadyClients := by
  have removed : (self.unregister id reason).connectionManager.clients.get? id = none :=
    Dict.pop_get?_self _ id
  constructor
  · intro reached ready
    -- what comes after the teardown does not find the client any more
    have still : id ∈ after.broadcastReadyClients := by
      by_contra lost
      have present := keeps.lost id ready lost
      rw [removed] at present
      cases present
    have present := reached.registered id still
    rw [ConnectionManager.getClientState_isSome, keeps.clients, removed] at present
    cases present
  · intro unready
    refine keeps.readyRegistered (readyRegistered_of ?_ good.event)
    intro other ready
    have distinct : other ≠ id := by
      intro same
      exact unready (same ▸ ready)
    have present := good.registered other ready
    rw [ConnectionManager.getClientState_isSome] at present
    exact (congrArg Option.isSome (Dict.pop_get?_of_ne _ distinct)).trans present

/-- A task's await ends: not as the end of a teardown that overlooks a ready client of the
same name, nor as the end of `stop` with a client that became ready meanwhile. -/
def KeepsReady (self : TcpServerSender ι τ) (point : Point ι τ) : Prop :=
  match point with
  | .disconnecting teardown _ =>
      teardown.await = .closing → teardown.clientId ∉ self.broadcastReadyClients
  | .serverClosing => self.broadcastReadyClients = ∅
  | _ => True

instance (self : TcpServerSender ι τ) : DecidablePred self.KeepsReady
  | .disconnecting teardown _ =>
      inferInstanceAs (Decidable
        (teardown.await = .closing → teardown.clientId ∉ self.broadcastReadyClients))
  | .serverClosing => inferInstanceAs (Decidable (self.broadcastReadyClients = ∅))
  | .done | .cancelled _ | .writerSleeping _ | .draining _ | .readerCreated _ | .reading _
  | .monitorSleeping | .monitorEnding _ => .isTrue trivial

theorem resume_readyRegistered_iff (good : self.ReadyRegistered) (ok : Bool)
    (point : Point ι τ) :
    (self.resume points task ok point).1.ReadyRegistered ↔ self.KeepsReady point := by
  cases point with
  | serverClosing => exact stopped_readyRegistered_iff good
  | disconnecting teardown caller =>
      cases await : teardown.await with
      | closing =>
          simp only [resume, continueTeardown, KeepsReady, await, true_implies]
          exact unregister_readyRegistered_iff good
            (continueCaller_keepsClients _ points task caller)
      | _ =>
          refine iff_of_true ?_ (by simp [KeepsReady, await])
          refine (resume_quiet self points task ok (by simp) ?_).keepsClients.readyRegistered good
          intro other rest same
          cases same
          simp [await]
  | _ =>
      exact iff_of_true
        ((resume_quiet self points task ok (by simp) (by simp)).keepsClients.readyRegistered good)
        trivial

end Exactly

end TcpServerSender

/-! ## Runs -/

namespace System

theorem started_readyRegistered (config : TcpServerConfig τ) :
    (started config : System ι τ).shared.ReadyRegistered := by
  refine TcpServerSender.readyRegistered_of ?_ ?_
  · intro id ready
    cases ready
  · exact iff_of_false Bool.false_ne_true Finset.not_nonempty_empty

variable [DecidableEq ι]

/-- The condition on a step: it is about the await that ends in it. -/
def KeepsReady (self : System ι τ) : ServerAction ι τ → Prop
  | .resume task _ => ∀ point, self.points[task]? = some point →
      self.shared.cancellations.tasks task = false → self.shared.KeepsReady point
  | _ => True

instance (self : System ι τ) : DecidablePred self.KeepsReady
  | .resume task _ =>
      inferInstanceAs (Decidable (∀ point ∈ self.points[task]?,
        self.shared.cancellations.tasks task = false → self.shared.KeepsReady point))
  | .connect _ | .closeCancelled _ | .broadcast _ _ | .cancelBroadcast _ | .updateHeader _ _ | .stop
  | .tick _ => .isTrue trivial

theorem step_readyRegistered_iff {self next : System ι τ} {action : ServerAction ι τ}
    (good : self.shared.ReadyRegistered) (taken : self.step action = some next) :
    next.shared.ReadyRegistered ↔ self.KeepsReady action := by
  cases action with
  | connect id =>
      refine iff_of_true ?_ trivial
      obtain rfl := step_connect_eq_some taken
      have accepted := TcpServerSender.accept_readyRegistered good id self.points.length
      exact TcpServerSender.greet_readyRegistered accepted
        (Option.isSome_of_eq_some (Dict.set_get?_self _ id _))
  | resume task ok =>
      obtain ⟨point, found, _, ended⟩ := step_resume_eq_some taken
      have here : self.KeepsReady (.resume task ok) ↔
          (self.shared.cancellations.tasks task = false → self.shared.KeepsReady point) := by
        simp only [KeepsReady, found, Option.some.injEq, forall_eq']
      rw [here]
      rcases ended with ⟨cancelled, rfl⟩ | ⟨runs, rfl⟩
      · refine iff_of_true ?_ (by simp [cancelled])
        exact (TcpServerSender.resumeCancelled_quiet _ _ _ point).keepsClients.readyRegistered good
      · simp only [runs, true_implies]
        exact TcpServerSender.resume_readyRegistered_iff good ok point
  | closeCancelled task =>
      refine iff_of_true ?_ trivial
      obtain ⟨_, _, _, _, rfl⟩ := step_closeCancelled_eq_some taken
      exact good
  | broadcast payload order =>
      refine iff_of_true ?_ trivial
      obtain ⟨_, _, rfl⟩ := step_broadcast_eq_some taken
      exact (TcpServerSender.broadcast_keepsClients _ _ _ payload order).readyRegistered good
  | cancelBroadcast task =>
      refine iff_of_true ?_ trivial
      obtain rfl := step_cancelBroadcast_eq_some taken
      exact ⟨good.registered, good.event, good.emptied⟩
  | updateHeader sendHeaderOnConnect headerPayload =>
      refine iff_of_true ?_ trivial
      cases taken
      exact ⟨good.registered, good.event, good.emptied⟩
  | stop =>
      refine iff_of_true ?_ trivial
      cases taken
      exact (TcpServerSender.stop_quiet _ _ _).keepsClients.readyRegistered good
  | tick now =>
      refine iff_of_true ?_ trivial
      obtain ⟨_, rfl⟩ := step_tick_eq_some taken
      exact ⟨good.registered, good.event, good.emptied⟩

theorem ready_clients_registered_iff (config : TcpServerConfig τ) {final : System ι τ}
    (actions : List (ServerAction ι τ))
    (ran : Runs.run step (started config) actions = some final) :
    (∀ visited, Runs.Visits step (started config) actions visited →
      visited.shared.ReadyRegistered) ↔ Runs.Each step KeepsReady (started config) actions :=
  Runs.stays_iff_each (fun _ => True) (fun _ => True) (fun system => system.shared.ReadyRegistered)
    KeepsReady (fun _ _ _ _ _ _ => trivial)
    (fun _ _ _ _ _ good taken => step_readyRegistered_iff good taken) trivial
    (started_readyRegistered config) (fun _ _ => trivial) ran

/-- Two connections without a peer name: the second arrives in the middle of the teardown of
the first, which takes its entry away, and then leaves. -/
def sameNameTwice : List (ServerAction String Unit) :=
  [.connect "None", .resume 2 true, .resume 2 false, .resume 1 true, .resume 2 true,
    .connect "None", .resume 2 true, .resume 4 true, .resume 4 false, .resume 3 true]

/-- A client leaves while another comes, is torn down and comes again; then the other leaves. -/
def comesAgain (name other : String) : List (ServerAction String Unit) :=
  [.connect name, .resume 2 true, .connect other, .resume 4 true, .resume 2 false, .resume 1 true,
    .resume 2 true, .resume 2 true, .connect name, .resume 6 true, .resume 4 false, .resume 3 true,
    .resume 4 true, .resume 4 true]

theorem ready_clients_registered_comes_again :
    (∀ visited, Runs.Visits step (started {}) (comesAgain "('10.0.0.5', 4242)" "('10.0.0.6', 4242)")
        visited → visited.shared.ReadyRegistered) ∧
      ¬∀ visited, Runs.Visits step (started {}) sameNameTwice visited →
        visited.shared.ReadyRegistered :=
  ⟨(ready_clients_registered_iff {} _ (Option.some_get (by decide +kernel)).symm).mpr
      (by decide +kernel),
    fun kept => absurd ((ready_clients_registered_iff {} _
      (Option.some_get (by decide +kernel)).symm).mp kept) (by decide +kernel)⟩

/-- Nobody is left, and still there seems to be a client to broadcast to. -/
theorem sameNameTwice_not_registered : ∃ final,
    Runs.run step (started {}) sameNameTwice = some final ∧
      final.shared.connectionManager.listClientIds = [] ∧
      final.points = [.monitorSleeping, .cancelled .nothing, .done, .done, .done] ∧
      final.shared.hasBroadcastClients = true ∧ ¬final.shared.ReadyRegistered := by
  have outcome : (Runs.run step (started {}) sameNameTwice).map (fun final =>
      (final.shared.connectionManager.listClientIds, final.points,
        final.shared.hasBroadcastClients)) =
      some ([], [.monitorSleeping, .cancelled .nothing, .done, .done, .done], true) := by decide +kernel
  obtain ⟨final, ran, seen⟩ := Option.map_eq_some_iff.mp outcome
  simp only [Prod.mk.injEq] at seen
  obtain ⟨gone, points, someone⟩ := seen
  refine ⟨final, ran, gone, points, someone, ?_⟩
  intro good
  rw [good.emptied gone] at someone
  cases someone

end System

end TcpSim.Transport
