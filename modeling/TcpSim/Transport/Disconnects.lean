import TcpSim.Transport.TcpServerProperties

/-! How often a connection is reported as disconnected: once, as long as no call of
`_disconnect_client` finds a client that an earlier call has found. A call that cancels a reader
loop makes that loop call it again. -/

set_option autoImplicit false

namespace TcpSim.Transport

variable {ι τ : Type}

/-- The `_disconnect_client` call a task is in. -/
def Point.teardown : Point ι τ → Option (Teardown ι)
  | .disconnecting teardown _ => some teardown
  | _ => none

namespace TcpServerSender

def names (self : TcpServerSender ι τ) : List ι :=
  self.connectionManager.states.map (·.clientId)

/-- The block leaves no `_disconnect_client` call, or the one it began for the client, which is
registered. -/
def Begins (before : TcpServerSender ι τ) (client : Option ι)
    (result : TcpServerSender ι τ × Point ι τ) : Prop :=
  (result.1.calls = before.calls ∧ result.2.teardown = none) ∨
  ∃ teardown, client = some teardown.clientId ∧
    before.connectionManager.clients.get? teardown.clientId = some teardown.connection ∧
    result.1.calls = before.calls ++ [DisconnectCall.mk teardown.connection teardown.reason] ∧
    result.2.teardown = some teardown

structure KeepsRegistry (before after : TcpServerSender ι τ) : Prop where
  clients : after.connectionManager.clients = before.connectionManager.clients
  names : after.names = before.names
  events : after.events = before.events

theorem KeepsRegistry.refl (self : TcpServerSender ι τ) : KeepsRegistry self self :=
  ⟨rfl, rfl, rfl⟩

theorem KeepsRegistry.trans {first second third : TcpServerSender ι τ}
    (one : KeepsRegistry first second) (two : KeepsRegistry second third) :
    KeepsRegistry first third :=
  ⟨two.clients.trans one.clients, two.names.trans one.names, two.events.trans one.events⟩

theorem Begins.from {before middle : TcpServerSender ι τ} {client : Option ι}
    {result : TcpServerSender ι τ × Point ι τ} (begins : Begins middle client result)
    (clients : middle.connectionManager.clients = before.connectionManager.clients)
    (calls : middle.calls = before.calls) : Begins before client result := by
  unfold Begins at begins ⊢
  rw [clients, calls] at begins
  exact begins

theorem Housekeeping.names {before after : TcpServerSender ι τ}
    (same : Housekeeping before after) : after.names = before.names := by
  unfold TcpServerSender.names
  rcases same.manager with manager | ⟨connection, manager⟩
  · rw [manager]
  · rw [manager]
    exact ConnectionManager.updateState_names connection _ _

theorem enqueue_keepsRegistry {self : TcpServerSender ι τ} {manager : ConnectionManager ι τ}
    {id : ι} {payload : Payload τ}
    (accepted : self.connectionManager.enqueuePayload self.clock id payload = .ok manager) :
    KeepsRegistry self { self with connectionManager := manager } := by
  obtain ⟨connection, _, _, _, rfl⟩ := ConnectionManager.enqueuePayload_eq_ok accepted
  exact ⟨rfl, ConnectionManager.updateState_names connection _ (by simp [ClientState.push]), rfl⟩

theorem writerTurn_begins (self : TcpServerSender ι τ) (client : Option ι) (id : ι) :
    Begins self client (self.writerTurn id) := by
  unfold writerTurn
  split
  · split <;> split <;> exact Or.inl ⟨rfl, rfl⟩
  · exact Or.inl ⟨rfl, rfl⟩

def firstRegistered (self : TcpServerSender ι τ) (ids : List ι) : Option ι :=
  ids.find? fun id => (self.connectionManager.clients.get? id).isSome

/-- The first registered client that rejects the payload. -/
def firstRejecting (payload : Payload τ) : List ι → TcpServerSender ι τ → Option ι
  | [], _ => none
  | id :: remaining, self =>
      match self.connectionManager.enqueuePayload self.clock id payload with
      | .ok manager => firstRejecting payload remaining { self with connectionManager := manager }
      | .error _ =>
          if (self.connectionManager.clients.get? id).isSome then some id
          else firstRejecting payload remaining self

def broadcastClient (self : TcpServerSender ι τ) (payload : Payload τ) (order : List ι) :
    Option ι :=
  if payload.bytes = [] then none else firstRejecting payload order self

theorem firstRejecting_sent (self : TcpServerSender ι τ) (payload : Payload τ) (order : List ι)
    (sent : List (Payload τ)) :
    firstRejecting payload order { self with sent } = firstRejecting payload order self := by
  induction order generalizing self with
  | nil => rfl
  | cons id remaining ih =>
      simp only [firstRejecting]
      split
      next manager _ => exact ih { self with connectionManager := manager }
      · rw [ih self]

section Blocks

variable [DecidableEq ι]

/-- The client whose teardown the caller of `_disconnect_client` begins next. -/
def callerClient (self : TcpServerSender ι τ) : Caller ι τ → Option ι
  | .nothing => none
  | .broadcast payload remaining => firstRejecting payload remaining self
  | .monitor remaining => self.firstRegistered remaining
  | .stop remaining => self.firstRegistered remaining

/-- The client for which a task whose await is over calls `_disconnect_client`. -/
def resumedClient (self : TcpServerSender ι τ) (ok : Bool) : Point ι τ → Option ι
  | .draining id => if ok then none else some id
  | .readerCreated id => if self.running then none else some id
  | .reading id => if ok ∧ self.running then none else some id
  | .monitorSleeping =>
      if self.running then
        self.firstRegistered (self.connectionManager.getDisconnectCandidates self.clock)
      else none
  | .monitorEnding _ => self.firstRegistered self.connectionManager.listClientIds
  | .disconnecting teardown caller =>
      if teardown.await = .closing then
        (self.unregister teardown.clientId teardown.reason).callerClient caller
      else none
  | _ => none

def cancelledClient : Point ι τ → Option ι
  | .reading id => some id
  | _ => none

def stopClient (self : TcpServerSender ι τ) : Option ι :=
  if self.running ∧ self.monitorTask = none then
    self.firstRegistered self.connectionManager.listClientIds
  else none

theorem Change.keepsRegistry {before after : TcpServerSender ι τ} (change : Change before after) :
    KeepsRegistry before after := by
  cases change with
  | keeps same => exact ⟨same.clients, same.names, same.events⟩
  | calls id connection reason found => exact ⟨rfl, rfl, rfl⟩
  | sends id connection state payload rest found queued =>
      refine ⟨rfl, ?_, rfl⟩
      exact (ConnectionManager.updateState_names connection (·.write payload) fun _ => rfl).trans
        (ConnectionManager.updateState_names connection _ _)

theorem Quiet.keepsRegistry {before after : TcpServerSender ι τ} (quiet : Quiet before after) :
    KeepsRegistry before after := by
  induction quiet with
  | refl => exact KeepsRegistry.refl before
  | tail _ change ih => exact ih.trans change.keepsRegistry

variable (self : TcpServerSender ι τ) (points : List (Point ι τ)) (task : Nat)

theorem disconnectClient_begins {id : ι} {reason : DisconnectReason}
    {begun : TcpServerSender ι τ} {teardown : Teardown ι}
    (begins : self.disconnectClient points task id reason = some (begun, teardown))
    (caller : Caller ι τ) : Begins self (some id) (begun, .disconnecting teardown caller) := by
  obtain ⟨connection, found, rfl, rfl, rfl, rfl⟩ := disconnectClient_eq_some self points task begins
  refine Or.inr ⟨teardown, rfl, found, ?_, rfl⟩
  exact (endWriter_housekeeping _ points task _ _).calls

theorem disconnectLast_begins (id : ι) (reason : DisconnectReason) :
    Begins self (some id) (self.disconnectLast points task id reason) := by
  unfold disconnectLast
  split
  · exact Or.inl ⟨rfl, rfl⟩
  next begins => exact disconnectClient_begins self points task begins .nothing

theorem disconnectEach_begins (reason : DisconnectReason) (caller : List ι → Caller ι τ)
    {finish : Block ι τ} (finishes : ∀ self client, Begins self client (finish self))
    (remaining : List ι) :
    Begins self (self.firstRegistered remaining)
      (disconnectEach points task reason caller finish remaining self) := by
  induction remaining with
  | nil => exact finishes self _
  | cons id remaining ih =>
      unfold disconnectEach firstRegistered
      split
      next absent =>
        rw [disconnectClient_eq_none, ← Option.not_isSome_iff_eq_none,
          ConnectionManager.getClientState_isSome] at absent
        rw [List.find?_cons_of_neg (by simpa using absent)]
        exact ih
      next begins =>
        obtain ⟨connection, found, _⟩ := disconnectClient_eq_some self points task begins
        rw [List.find?_cons_of_pos (by rw [found]; rfl)]
        exact disconnectClient_begins self points task begins _

theorem broadcastTo_begins (payload : Payload τ) (order : List ι) :
    Begins self (firstRejecting payload order self)
        (broadcastTo points task payload order self) ∧
      KeepsRegistry self (broadcastTo points task payload order self).1 := by
  induction order generalizing self with
  | nil => exact ⟨Or.inl ⟨rfl, rfl⟩, KeepsRegistry.refl self⟩
  | cons id remaining ih =>
      rw [broadcastTo, firstRejecting]
      cases answer : self.connectionManager.enqueuePayload self.clock id payload with
      | ok manager =>
          have queued := enqueue_keepsRegistry answer
          obtain ⟨later, keeps⟩ := ih { self with connectionManager := manager }
          exact ⟨later.from queued.clients rfl, queued.trans keeps⟩
      | error rejection =>
          cases begins : self.disconnectClient points task id (.rejected rejection) with
          | none =>
              have absent := begins
              rw [disconnectClient_eq_none, ← Option.not_isSome_iff_eq_none,
                ConnectionManager.getClientState_isSome] at absent
              simp only [begins, if_neg absent]
              exact ih self
          | some begun =>
              obtain ⟨connection, found, _⟩ := disconnectClient_eq_some self points task begins
              simp only [begins, found, Option.isSome_some, if_true]
              exact ⟨disconnectClient_begins self points task begins _,
                (disconnectClient_quiet self points task begins).keepsRegistry⟩

theorem broadcast_begins (payload : Payload τ) (order : List ι) :
    Begins self (self.broadcastClient payload order) (self.broadcast points task payload order) ∧
      KeepsRegistry self (self.broadcast points task payload order).1 := by
  unfold broadcast broadcastClient
  split
  · exact ⟨Or.inl ⟨rfl, rfl⟩, KeepsRegistry.refl self⟩
  · obtain ⟨begins, keeps⟩ := broadcastTo_begins
      { self with sent := self.sent ++ [payload] } points task payload order
    rw [firstRejecting_sent] at begins
    exact ⟨begins.from rfl rfl, ⟨keeps.clients, keeps.names, keeps.events⟩⟩

theorem readerTurn_begins (id : ι) :
    Begins self (if self.running then none else some id) (self.readerTurn points task id) := by
  unfold readerTurn
  split
  · exact Or.inl ⟨rfl, rfl⟩
  · exact disconnectLast_begins self points task id _

theorem monitorRest_begins (remaining : List ι) :
    Begins self (self.firstRegistered remaining) (self.monitorRest points task remaining) :=
  disconnectEach_begins self points task _ _ (fun _ _ => Or.inl ⟨rfl, rfl⟩) remaining

theorem stopRest_begins (remaining : List ι) :
    Begins self (self.firstRegistered remaining) (self.stopRest points task remaining) :=
  disconnectEach_begins self points task _ _ (fun _ _ => Or.inl ⟨rfl, rfl⟩) remaining

theorem stop_begins : Begins self self.stopClient (self.stop points task) := by
  unfold stop
  split
  next running =>
    split
    next unmonitored =>
      rw [stopClient, if_pos ⟨running, unmonitored⟩]
      exact (stopRest_begins _ points task _).from rfl rfl
    · exact Or.inl ⟨rfl, rfl⟩
  · exact Or.inl ⟨rfl, rfl⟩

theorem greet_begins (id : ι) :
    Begins self (some id) (self.greet points task id) ∧
      KeepsRegistry self (self.greet points task id).1 := by
  unfold greet
  split
  · exact ⟨Or.inl ⟨rfl, rfl⟩, ⟨rfl, rfl, rfl⟩⟩
  · split
    next manager accepted =>
      have queued := enqueue_keepsRegistry accepted
      exact ⟨Or.inl ⟨rfl, rfl⟩, ⟨queued.clients, queued.names, rfl⟩⟩
    · exact ⟨disconnectLast_begins self points task id _,
        (disconnectLast_quiet self points task id _).keepsRegistry⟩

theorem continueCaller_begins (caller : Caller ι τ) :
    Begins self (self.callerClient caller) (self.continueCaller points task caller) ∧
      KeepsRegistry self (self.continueCaller points task caller).1 := by
  cases caller with
  | nothing => exact ⟨Or.inl ⟨rfl, rfl⟩, KeepsRegistry.refl self⟩
  | broadcast payload remaining => exact broadcastTo_begins self points task payload remaining
  | monitor remaining =>
      exact ⟨monitorRest_begins self points task remaining,
        (monitorRest_quiet self points task remaining).keepsRegistry⟩
  | stop remaining =>
      exact ⟨stopRest_begins self points task remaining,
        (stopRest_quiet self points task remaining).keepsRegistry⟩

theorem resumeCancelled_begins (point : Point ι τ) :
    Begins self (cancelledClient point) (self.resumeCancelled points task point) := by
  cases point with
  | reading id => exact (disconnectLast_begins _ points task id _).from rfl rfl
  | _ => exact Or.inl ⟨rfl, rfl⟩

/-- A task whose await ends outside `_disconnect_client`. -/
theorem resume_begins (ok : Bool) {point : Point ι τ} (outside : point.teardown = none) :
    Begins self (self.resumedClient ok point) (self.resume points task ok point) := by
  cases point with
  | done => exact Or.inl ⟨rfl, rfl⟩
  | cancelled caller => exact Or.inl ⟨rfl, rfl⟩
  | writerSleeping id => exact writerTurn_begins self _ id
  | draining id =>
      simp only [resume, resumedClient]
      split
      · exact writerTurn_begins self _ id
      · exact disconnectLast_begins self points task id _
  | readerCreated id => exact readerTurn_begins self points task id
  | reading id =>
      cases ok with
      | true =>
          simp only [resume, resumedClient, if_true, true_and]
          exact readerTurn_begins self points task id
      | false =>
          simp only [resume, resumedClient, Bool.false_eq_true, false_and, if_false]
          exact disconnectLast_begins self points task id _
  | monitorSleeping =>
      simp only [resume, resumedClient, monitorTurn]
      split
      · exact monitorRest_begins self points task _
      · exact Or.inl ⟨rfl, rfl⟩
  | monitorEnding monitor => exact (stopRest_begins _ points task _).from rfl rfl
  | serverClosing => exact Or.inl ⟨rfl, rfl⟩
  | disconnecting teardown caller => cases outside

end Blocks

end TcpServerSender

/-! ## The state between two steps -/

def ServerEvent.isDisconnectOf [DecidableEq ι] (id : ι) : ServerEvent ι → Bool
  | .clientDisconnect other _ => other = id
  | _ => false

namespace TcpServerSender

def registrations (self : TcpServerSender ι τ) (id : ι) : Nat :=
  if (self.connectionManager.clients.get? id).isSome then 1 else 0

theorem registrations_of_found {self : TcpServerSender ι τ} {id : ι} {connection : Nat}
    (found : self.connectionManager.clients.get? id = some connection) :
    self.registrations id = 1 := by
  unfold registrations
  rw [found]
  rfl

theorem registrations_of_absent {self : TcpServerSender ι τ} {id : ι}
    (absent : self.connectionManager.clients.get? id = none) : self.registrations id = 0 := by
  unfold registrations
  rw [absent]
  rfl

theorem names_of_found {self : TcpServerSender ι τ} {id : ι} {connection : Nat}
    (found : self.connectionManager.clients.get? id = some connection) :
    self.names[connection]? = some id := by
  have named := self.connectionManager.registered _ _ found
  rw [← List.getElem?_map] at named
  exact named

theorem get?_eq_none_of_fresh {self : TcpServerSender ι τ} {id : ι} (fresh : id ∉ self.names) :
    self.connectionManager.clients.get? id = none := by
  cases found : self.connectionManager.clients.get? id with
  | none => rfl
  | some connection =>
      obtain ⟨state, present, rfl⟩ := ConnectionManager.getClientState_of_found found
      have here := (ConnectionManager.getClientState_eq_some.mp present).2
      exact absurd (List.mem_map_of_mem (List.mem_of_getElem? here)) fresh

variable [DecidableEq ι]

/-- A client is connected once; it is registered or has been disconnected once, for the reason
of the first call that found it. -/
structure DisconnectedOnce (server : TcpServerSender ι τ) : Prop where
  once : ∀ id, server.events.countP (ServerEvent.isDisconnectOf id) + server.registrations id =
    server.events.count (.clientConnect id)
  reason : ∀ id reason, .clientDisconnect id reason ∈ server.events →
    ∃ connection, server.names[connection]? = some id ∧
      server.calls.find? (fun call => call.connection = connection) =
        some (DisconnectCall.mk connection reason)

structure Accounts (server : TcpServerSender ι τ) : Prop where
  distinct : server.names.Nodup
  connects : ∀ id, server.events.count (.clientConnect id) = server.names.count id
  once : ∀ id, server.events.countP (ServerEvent.isDisconnectOf id) + server.registrations id =
    server.events.count (.clientConnect id)
  calls : (server.calls.map (·.connection)).Nodup
  known : ∀ call ∈ server.calls, call.connection < server.names.length
  reasons : ∀ id reason, .clientDisconnect id reason ∈ server.events →
    ∃ connection, server.names[connection]? = some id ∧
      DisconnectCall.mk connection reason ∈ server.calls

theorem find?_of_nodup {α κ : Type} [DecidableEq κ] (key : α → κ) {items : List α} {item : α}
    (distinct : (items.map key).Nodup) (member : item ∈ items) :
    items.find? (fun other => key other = key item) = some item := by
  induction items with
  | nil => cases member
  | cons first rest ih =>
      rw [List.map_cons, List.nodup_cons] at distinct
      rcases List.mem_cons.mp member with same | inRest
      · rw [same, List.find?_cons_of_pos (by simp)]
      · have unlike : key first ≠ key item := by
          intro equal
          exact distinct.1 (equal ▸ List.mem_map_of_mem inRest)
        rw [List.find?_cons_of_neg (by simpa using unlike)]
        exact ih distinct.2 inRest

theorem Accounts.disconnectedOnce {self : TcpServerSender ι τ} (accounts : self.Accounts) :
    self.DisconnectedOnce where
  once := accounts.once
  reason := by
    intro id reason reported
    obtain ⟨connection, named, called⟩ := accounts.reasons id reason reported
    exact ⟨connection, named, find?_of_nodup DisconnectCall.connection accounts.calls called⟩

theorem Accounts.stopped {self : TcpServerSender ι τ} (accounts : self.Accounts) :
    self.stopped.1.Accounts where
  distinct := accounts.distinct
  connects := by
    intro id
    refine Eq.trans ?_ (accounts.connects id)
    simp [TcpServerSender.stopped, emit, List.count_append]
  once := by
    intro id
    refine Eq.trans ?_ ((accounts.once id).trans ?_)
    · simp [TcpServerSender.stopped, emit, ServerEvent.isDisconnectOf]
      rfl
    · simp [TcpServerSender.stopped, emit, List.count_append]
  calls := accounts.calls
  known := accounts.known
  reasons := by
    intro id reason reported
    rcases List.mem_append.mp reported with old | new
    · exact accounts.reasons id reason old
    · simp at new

theorem Accounts.keeps {before after : TcpServerSender ι τ} (accounts : before.Accounts)
    (keeps : KeepsRegistry before after) (calls : after.calls = before.calls) :
    after.Accounts where
  distinct := by
    rw [keeps.names]
    exact accounts.distinct
  connects := by
    rw [keeps.names, keeps.events]
    exact accounts.connects
  once := by
    unfold registrations
    rw [keeps.clients, keeps.events]
    exact accounts.once
  calls := by
    rw [calls]
    exact accounts.calls
  known := by
    rw [keeps.names, calls]
    exact accounts.known
  reasons := by
    rw [keeps.names, keeps.events, calls]
    exact accounts.reasons

/-- A call for a registered client that no call was for. -/
theorem Accounts.call {self : TcpServerSender ι τ} (accounts : self.Accounts) {id : ι}
    {connection : Nat} (found : self.connectionManager.clients.get? id = some connection)
    (first : connection ∉ self.calls.map (·.connection)) (reason : DisconnectReason) :
    Accounts { self with calls := self.calls ++ [DisconnectCall.mk connection reason] } where
  distinct := accounts.distinct
  connects := accounts.connects
  once := accounts.once
  calls := by
    rw [List.map_append, List.nodup_append]
    refine ⟨accounts.calls, by simp, ?_⟩
    intro old member new last equal
    rw [equal, List.mem_singleton.mp last] at member
    exact first member
  known := by
    intro call member
    rcases List.mem_append.mp member with old | new
    · exact accounts.known call old
    · rw [List.mem_singleton.mp new]
      exact (List.getElem?_eq_some_iff.mp (names_of_found found)).1
  reasons := by
    intro other otherReason reported
    obtain ⟨place, named, called⟩ := accounts.reasons other otherReason reported
    exact ⟨place, named, List.mem_append_left _ called⟩

/-- A block that begins no second call for a connection. -/
theorem Accounts.begins {before : TcpServerSender ι τ} (accounts : before.Accounts)
    {client : Option ι} {result : TcpServerSender ι τ × Point ι τ}
    (keeps : KeepsRegistry before result.1) (begins : Begins before client result)
    (first : ∀ id ∈ client, ∀ connection ∈ before.connectionManager.clients.get? id,
      connection ∉ before.calls.map (·.connection)) : result.1.Accounts := by
  rcases begins with ⟨calls, _⟩ | ⟨teardown, chosen, found, calls, _⟩
  · exact accounts.keeps keeps calls
  · have called := accounts.call found (first _ chosen _ found) teardown.reason
    exact called.keeps ⟨keeps.clients, keeps.names, keeps.events⟩ calls

theorem unregister_connects (self : TcpServerSender ι τ) (id other : ι)
    (reason : DisconnectReason) :
    (self.unregister id reason).events.count (.clientConnect other) =
      self.events.count (.clientConnect other) := by
  simp [TcpServerSender.unregister, emit, List.count_append]

theorem Accounts.unregister {self : TcpServerSender ι τ} (accounts : self.Accounts) {id : ι}
    {connection : Nat} {reason : DisconnectReason}
    (present : self.connectionManager.clients.get? id = some connection)
    (named : self.names[connection]? = some id)
    (noted : DisconnectCall.mk connection reason ∈ self.calls) :
    (self.unregister id reason).Accounts where
  distinct := accounts.distinct
  connects := by
    intro other
    rw [unregister_connects]
    exact accounts.connects other
  once := by
    intro other
    have disconnects : (self.unregister id reason).events.countP
        (ServerEvent.isDisconnectOf other) =
        self.events.countP (ServerEvent.isDisconnectOf other) + if id = other then 1 else 0 := by
      refine (List.countP_append ..).trans ?_
      simp [List.countP_singleton, ServerEvent.isDisconnectOf]
    have before := accounts.once other
    rw [unregister_connects, disconnects]
    by_cases same : id = other
    · subst same
      have gone : (self.unregister id reason).registrations id = 0 :=
        registrations_of_absent (Dict.pop_get?_self _ id)
      rw [registrations_of_found present] at before
      rw [gone, if_pos rfl]
      exact before
    · have kept : (self.unregister id reason).registrations other = self.registrations other := by
        unfold registrations
        rw [show (self.unregister id reason).connectionManager.clients.get? other =
          self.connectionManager.clients.get? other from
            Dict.pop_get?_of_ne _ (Ne.symm same)]
      rw [kept, if_neg same]
      exact before
  calls := accounts.calls
  known := accounts.known
  reasons := by
    intro other otherReason reported
    rcases List.mem_append.mp reported with old | new
    · exact accounts.reasons other otherReason old
    · obtain ⟨rfl, rfl⟩ := ServerEvent.clientDisconnect.inj (List.mem_singleton.mp new)
      exact ⟨connection, named, noted⟩

theorem Accounts.accept {self : TcpServerSender ι τ} (accounts : self.Accounts) {id : ι}
    (fresh : id ∉ self.names) (writer : Nat) : (self.accept id writer).1.Accounts where
  distinct := by
    refine (congrArg List.Nodup List.map_append).mpr ?_
    rw [List.nodup_append]
    refine ⟨accounts.distinct, by simp, ?_⟩
    intro old member new last same
    have equal : new = id := by simpa using last
    rw [same, equal] at member
    exact fresh member
  connects := by
    intro other
    refine (List.count_append ..).trans ?_
    rw [accounts.connects other]
    refine Eq.trans ?_ (congrArg (List.count other) List.map_append).symm
    rw [List.count_append]
    congr 1
    simp [List.count_singleton]
  once := by
    intro other
    have disconnects : (self.accept id writer).1.events.countP
        (ServerEvent.isDisconnectOf other) =
        self.events.countP (ServerEvent.isDisconnectOf other) := by
      refine (List.countP_append ..).trans ?_
      simp [ServerEvent.isDisconnectOf]
    have connects : (self.accept id writer).1.events.count (.clientConnect other) =
        self.events.count (.clientConnect other) + if id = other then 1 else 0 := by
      refine (List.count_append ..).trans ?_
      simp [List.count_singleton]
    have before := accounts.once other
    rw [disconnects, connects]
    by_cases same : id = other
    · subst same
      rw [registrations_of_absent (get?_eq_none_of_fresh fresh)] at before
      have there : (self.accept id writer).1.registrations id = 1 :=
        registrations_of_found (Dict.set_get?_self _ id _)
      rw [there, if_pos rfl, ← before]
    · have kept : (self.accept id writer).1.registrations other = self.registrations other := by
        unfold registrations
        rw [show (self.accept id writer).1.connectionManager.clients.get? other =
          self.connectionManager.clients.get? other from
            Dict.set_get?_of_ne _ (Ne.symm same) _]
      rw [kept, if_neg same]
      exact before
  calls := accounts.calls
  known := by
    intro call member
    have grown : (self.accept id writer).1.names = self.names ++ [id] := List.map_append
    have inside := accounts.known call member
    rw [grown, List.length_append]
    omega
  reasons := by
    intro other reason reported
    rcases List.mem_append.mp reported with old | new
    · obtain ⟨connection, named, called⟩ := accounts.reasons other reason old
      refine ⟨connection, ?_, called⟩
      have inside := (List.getElem?_eq_some_iff.mp named).1
      have grown : (self.accept id writer).1.names = self.names ++ [id] := List.map_append
      rw [grown, List.getElem?_append_left inside]
      exact named
    · simp at new

end TcpServerSender

namespace System

def teardownAt (self : System ι τ) (task : Nat) : Option (Teardown ι) :=
  self.points[task]?.bind Point.teardown

theorem teardownAt_set_self {self : System ι τ} {task : Nat} {point old : Point ι τ}
    (found : self.points[task]? = some old) (server : TcpServerSender ι τ) :
    teardownAt ({ shared := server, points := self.points.set task point } : System ι τ) task =
      point.teardown := by
  have inside := (List.getElem?_eq_some_iff.mp found).1
  simp only [teardownAt, List.getElem?_set_self inside, Option.bind_some]

theorem teardownAt_set_of_ne {self : System ι τ} {task other : Nat} (distinct : other ≠ task)
    (point : Point ι τ) (server : TcpServerSender ι τ) :
    teardownAt ({ shared := server, points := self.points.set task point } : System ι τ) other =
      self.teardownAt other := by
  simp only [teardownAt, List.getElem?_set_ne (Ne.symm distinct)]

variable [DecidableEq ι]

/-- The calls that are under way are for registered clients, each for another one. -/
structure Tidy (system : System ι τ) : Prop where
  accounts : system.shared.Accounts
  registered : ∀ task teardown, system.teardownAt task = some teardown →
    system.shared.connectionManager.clients.get? teardown.clientId = some teardown.connection ∧
      DisconnectCall.mk teardown.connection teardown.reason ∈ system.shared.calls
  apart : ∀ task other teardown otherTeardown, system.teardownAt task = some teardown →
    system.teardownAt other = some otherTeardown →
      teardown.connection = otherTeardown.connection → task = other

/-- One task has run a block, the others are where they were. -/
theorem Tidy.block {self next : System ι τ} (tidy : self.Tidy) (task : Nat) {client : Option ι}
    {result : TcpServerSender ι τ × Point ι τ} (accounts : result.1.Accounts)
    (clients : result.1.connectionManager.clients = self.shared.connectionManager.clients)
    (begins : TcpServerSender.Begins self.shared client result)
    (shared : next.shared = result.1)
    (own : ∀ teardown, next.teardownAt task = some teardown → result.2.teardown = some teardown)
    (others : ∀ other, other ≠ task → ∀ teardown, next.teardownAt other = some teardown →
      self.teardownAt other = some teardown) : next.Tidy := by
  rcases begins with ⟨calls, silent⟩ | ⟨begun, _, found, calls, left⟩
  · have nobody : ∀ teardown, next.teardownAt task ≠ some teardown := by
      intro teardown here
      have none_left := own teardown here
      rw [silent] at none_left
      cases none_left
    have elsewhere : ∀ other teardown, next.teardownAt other = some teardown →
        self.teardownAt other = some teardown := by
      intro other teardown here
      refine others other ?_ teardown here
      intro same
      exact nobody teardown (same ▸ here)
    refine ⟨?_, ?_, ?_⟩
    · rw [shared]
      exact accounts
    · intro other teardown here
      rw [shared, clients, calls]
      exact tidy.registered other teardown (elsewhere other teardown here)
    · intro one two first second here there same
      exact tidy.apart one two first second (elsewhere one first here)
        (elsewhere two second there) same
  · -- the new call is for a client that no call was for
    have fresh : begun.connection ∉ self.shared.calls.map (·.connection) := by
      have nodup := accounts.calls
      rw [calls, List.map_append, List.nodup_append] at nodup
      intro old
      exact nodup.2.2 _ old begun.connection (by simp) rfl
    have called : ∀ other teardown, self.teardownAt other = some teardown →
        teardown.connection ≠ begun.connection := by
      intro other teardown here same
      have old := (tidy.registered other teardown here).2
      exact fresh (same ▸ List.mem_map_of_mem old)
    have here_or : ∀ other teardown, next.teardownAt other = some teardown →
        (other = task ∧ teardown = begun) ∨
          other ≠ task ∧ self.teardownAt other = some teardown := by
      intro other teardown here
      by_cases same : other = task
      · subst same
        have new := own teardown here
        rw [left] at new
        exact Or.inl ⟨rfl, (Option.some.inj new).symm⟩
      · exact Or.inr ⟨same, others other same teardown here⟩
    refine ⟨?_, ?_, ?_⟩
    · rw [shared]
      exact accounts
    · intro other teardown here
      rw [shared, clients, calls]
      rcases here_or other teardown here with ⟨_, rfl⟩ | ⟨_, old⟩
      · exact ⟨found, by simp⟩
      · obtain ⟨present, noted⟩ := tidy.registered other teardown old
        exact ⟨present, List.mem_append_left _ noted⟩
    · intro one two first second here there same
      rcases here_or one first here with ⟨rfl, rfl⟩ | ⟨_, old⟩
      · rcases here_or two second there with ⟨rfl, _⟩ | ⟨_, oldTwo⟩
        · rfl
        · exact absurd same.symm (called two second oldTwo)
      · rcases here_or two second there with ⟨_, rfl⟩ | ⟨_, oldTwo⟩
        · exact absurd same (called one first old)
        · exact tidy.apart one two first second old oldTwo same

theorem Tidy.set {self : System ι τ} (tidy : self.Tidy) {task : Nat} {old : Point ι τ}
    (found : self.points[task]? = some old) {client : Option ι}
    {result : TcpServerSender ι τ × Point ι τ} (accounts : result.1.Accounts)
    (clients : result.1.connectionManager.clients = self.shared.connectionManager.clients)
    (begins : TcpServerSender.Begins self.shared client result) :
    Tidy ({ shared := result.1, points := self.points.set task result.2 } : System ι τ) := by
  refine tidy.block task accounts clients begins rfl ?_ ?_
  · intro teardown here
    rw [teardownAt_set_self found] at here
    exact here
  · intro other distinct teardown here
    rw [teardownAt_set_of_ne distinct] at here
    exact here

theorem Tidy.launch {self : System ι τ} (tidy : self.Tidy) (block : Block ι τ) {client : Option ι}
    (accounts : (block self.shared).1.Accounts)
    (clients : (block self.shared).1.connectionManager.clients =
      self.shared.connectionManager.clients)
    (begins : TcpServerSender.Begins self.shared client (block self.shared)) :
    System.Tidy (self.launch block) := by
  refine tidy.block self.points.length accounts clients begins rfl ?_ ?_
  · intro teardown here
    simp only [teardownAt, Interleaving.Pool.launch, List.getElem?_concat_length,
      Option.bind_some] at here
    exact here
  · intro other distinct teardown here
    have inside : other < self.points.length := by
      by_contra outside
      simp only [teardownAt, Interleaving.Pool.launch] at here
      rw [List.getElem?_eq_none (by simp; omega)] at here
      cases here
    simp only [teardownAt, Interleaving.Pool.launch, List.getElem?_append_left inside] at here
    exact here

theorem Tidy.goesOn {self : System ι τ} (tidy : self.Tidy) {task : Nat} {old point : Point ι τ}
    {teardown : Teardown ι} {await : TeardownAwait} (found : self.points[task]? = some old)
    (under : old.teardown = some teardown) (next : point.teardown = some { teardown with await })
    {server : TcpServerSender ι τ} (keeps : TcpServerSender.Housekeeping self.shared server) :
    Tidy ({ shared := server, points := self.points.set task point } : System ι τ) := by
  have here : self.teardownAt task = some teardown := by
    simp only [teardownAt, found, Option.bind_some, under]
  -- each call there is now was there before, up to what it awaits
  have before : ∀ other new,
      teardownAt ({ shared := server, points := self.points.set task point } : System ι τ) other =
        some new → ∃ was, self.teardownAt other = some was ∧ new.clientId = was.clientId ∧
          new.connection = was.connection ∧ new.reason = was.reason := by
    intro other new there
    by_cases equal : other = task
    · subst equal
      rw [teardownAt_set_self found, next] at there
      obtain rfl := Option.some.inj there
      exact ⟨teardown, here, rfl, rfl, rfl⟩
    · rw [teardownAt_set_of_ne equal] at there
      exact ⟨new, there, rfl, rfl, rfl⟩
  have registry : TcpServerSender.KeepsRegistry self.shared server :=
    ⟨keeps.clients, keeps.names, keeps.events⟩
  refine ⟨?_, ?_, ?_⟩
  · exact tidy.accounts.keeps registry keeps.calls
  · intro other new there
    obtain ⟨was, old, client, connection, reason⟩ := before other new there
    simp only [keeps.clients, keeps.calls, client, connection, reason]
    exact tidy.registered other was old
  · intro one two first second there where_ equal
    obtain ⟨wasFirst, oldFirst, _, connectionFirst, _⟩ := before one first there
    obtain ⟨wasSecond, oldSecond, _, connectionSecond, _⟩ := before two second where_
    exact tidy.apart one two wasFirst wasSecond oldFirst oldSecond
      (connectionFirst.symm.trans (equal.trans connectionSecond))

theorem Tidy.unregister {self : System ι τ} (tidy : self.Tidy) {task : Nat} {old : Point ι τ}
    {teardown : Teardown ι} (found : self.points[task]? = some old)
    (under : old.teardown = some teardown) :
    Tidy ({ shared := self.shared.unregister teardown.clientId teardown.reason
            points := self.points.set task .done } : System ι τ) := by
  have here : self.teardownAt task = some teardown := by
    simp only [teardownAt, found, Option.bind_some, under]
  obtain ⟨present, noted⟩ := tidy.registered task teardown here
  have before : ∀ other new,
      teardownAt ({ shared := self.shared.unregister teardown.clientId teardown.reason
                    points := self.points.set task .done } : System ι τ) other = some new →
        other ≠ task ∧ self.teardownAt other = some new := by
    intro other new there
    by_cases equal : other = task
    · subst equal
      rw [teardownAt_set_self found] at there
      cases there
    · rw [teardownAt_set_of_ne equal] at there
      exact ⟨equal, there⟩
  have named := TcpServerSender.names_of_found present
  refine ⟨tidy.accounts.unregister present named noted, ?_, ?_⟩
  · intro other new there
    obtain ⟨elsewhere, old⟩ := before other new there
    obtain ⟨still, called⟩ := tidy.registered other new old
    refine ⟨?_, called⟩
    have distinct : new.clientId ≠ teardown.clientId := by
      intro same
      rw [same, present] at still
      exact elsewhere (tidy.apart other task new teardown old here (Option.some.inj still).symm)
    exact (Dict.pop_get?_of_ne _ distinct).trans still
  · intro one two first second there where_ equal
    exact tidy.apart one two first second (before one first there).2 (before two second where_).2
      equal

/-! ## Steps -/

/-- No two connections have the same name. -/
def DistinctNames (self : System ι τ) : ServerAction ι τ → Prop
  | .connect id => id ∉ self.shared.names
  | _ => True

instance (self : System ι τ) (action : ServerAction ι τ) : Decidable (self.DistinctNames action) :=
  match action with
  | .connect id => inferInstanceAs (Decidable (id ∉ self.shared.names))
  | .resume _ _ | .closeCancelled _ | .broadcast _ _ | .cancelBroadcast _ | .updateHeader _ _
  | .stop | .tick _ => .isTrue trivial

/-- The client for which the step calls `_disconnect_client`. A client that connects has no
call before its own. -/
def calledFor (self : System ι τ) : ServerAction ι τ → Option ι
  | .resume task ok =>
      self.points[task]?.bind fun point =>
        if self.shared.cancellations.tasks task then TcpServerSender.cancelledClient point
        else self.shared.resumedClient ok point
  | .broadcast payload order => self.shared.broadcastClient payload order
  | .stop => self.shared.stopClient
  | _ => none

/-- The step calls `_disconnect_client` for no registered client that was called for before. -/
def FirstCall (self : System ι τ) (action : ServerAction ι τ) : Prop :=
  ∀ id ∈ self.calledFor action, ∀ connection ∈ self.shared.connectionManager.clients.get? id,
    connection ∉ self.shared.calls.map (·.connection)

instance (self : System ι τ) (action : ServerAction ι τ) : Decidable (self.FirstCall action) :=
  inferInstanceAs (Decidable (∀ id ∈ self.calledFor action,
    ∀ connection ∈ self.shared.connectionManager.clients.get? id,
      connection ∉ self.shared.calls.map (·.connection)))

theorem Tidy.closes {self : System ι τ} (tidy : self.Tidy) {task : Nat} {teardown : Teardown ι}
    {caller : Caller ι τ} (found : self.points[task]? = some (.disconnecting teardown caller))
    (first : ∀ id ∈ (self.shared.unregister teardown.clientId teardown.reason).callerClient caller,
      ∀ connection ∈ self.shared.connectionManager.clients.get? id,
        connection ∉ self.shared.calls.map (·.connection)) :
    let ended := (self.shared.unregister teardown.clientId teardown.reason).continueCaller
      self.points task caller
    Tidy ({ shared := ended.1, points := self.points.set task ended.2 } : System ι τ) := by
  obtain ⟨begins, keeps⟩ := TcpServerSender.continueCaller_begins
    (self.shared.unregister teardown.clientId teardown.reason) self.points task caller
  have unregistered := tidy.unregister found rfl
  have again : (self.points.set task .done)[task]? = some Point.done :=
    List.getElem?_set_self (List.getElem?_eq_some_iff.mp found).1
  have still : ∀ id ∈ (self.shared.unregister teardown.clientId teardown.reason).callerClient
      caller, ∀ connection ∈ (self.shared.unregister teardown.clientId
        teardown.reason).connectionManager.clients.get? id,
          connection ∉ self.shared.calls.map (·.connection) := by
    intro id chosen connection present
    refine first id chosen connection ?_
    by_cases same : id = teardown.clientId
    · rw [same] at present
      cases (Dict.pop_get?_self _ teardown.clientId).symm.trans present
    · exact (Dict.pop_get?_of_ne _ same).symm.trans present
  have accounts := unregistered.accounts.begins keeps begins still
  have later := unregistered.set again accounts keeps.clients begins
  rw [List.set_set] at later
  exact later

theorem resume_tidy {self next : System ι τ} {task : Nat} {ok : Bool} (tidy : self.Tidy)
    (first : self.FirstCall (.resume task ok)) (taken : self.step (.resume task ok) = some next) :
    next.Tidy := by
  obtain ⟨point, found, _, ended⟩ := step_resume_eq_some taken
  simp only [FirstCall, calledFor, found, Option.bind_some] at first
  rcases ended with ⟨cancelled, rfl⟩ | ⟨cancelled, rfl⟩
  · rw [if_pos cancelled] at first
    have keeps := (TcpServerSender.resumeCancelled_quiet self.shared self.points task
      point).keepsRegistry
    have begins := TcpServerSender.resumeCancelled_begins self.shared self.points task point
    exact tidy.set found (tidy.accounts.begins keeps begins first) keeps.clients begins
  · rw [if_neg (by rw [cancelled]; exact Bool.false_ne_true)] at first
    cases under : point.teardown with
    | none =>
        have begins := TcpServerSender.resume_begins self.shared self.points task ok under
        by_cases closes : point = .serverClosing
        · subst closes
          exact tidy.set found tidy.accounts.stopped rfl begins
        · have keeps : TcpServerSender.KeepsRegistry self.shared
              (self.shared.resume self.points task ok point).1 := by
            refine (TcpServerSender.resume_quiet self.shared self.points task ok closes
              ?_).keepsRegistry
            intro teardown caller shape
            subst shape
            cases under
          exact tidy.set found (tidy.accounts.begins keeps begins first) keeps.clients begins
    | some teardown =>
        cases point with
        | disconnecting other caller =>
            obtain rfl := Option.some.inj under
            cases await : other.await with
            | writer writer =>
                simp only [TcpServerSender.resume, TcpServerSender.continueTeardown, await]
                exact tidy.goesOn found under rfl
                  (TcpServerSender.endReader_housekeeping self.shared self.points task _ _)
            | reader reader =>
                simp only [TcpServerSender.resume, TcpServerSender.continueTeardown, await]
                exact tidy.goesOn found under rfl
                  ⟨Or.inr ⟨other.connection, rfl⟩, rfl, rfl, rfl, rfl, rfl, rfl, rfl, rfl⟩
            | closing =>
                simp only [TcpServerSender.resume, TcpServerSender.continueTeardown, await]
                rw [TcpServerSender.resumedClient, if_pos await] at first
                exact tidy.closes found first
        | _ => cases under

theorem accept_tidy {self : System ι τ} {id : ι} (tidy : self.Tidy)
    (fresh : id ∉ self.shared.names) :
    System.Tidy (self.launch (·.accept id self.points.length)) := by
  have before : ∀ task teardown,
      teardownAt (self.launch (·.accept id self.points.length)) task = some teardown →
        self.teardownAt task = some teardown := by
    intro task teardown here
    simp only [teardownAt, Interleaving.Pool.launch, List.getElem?_append] at here
    split at here
    · exact here
    · rw [List.getElem?_singleton] at here
      split at here <;> cases here
  refine ⟨tidy.accounts.accept fresh self.points.length, ?_, ?_⟩
  · intro task teardown here
    obtain ⟨present, noted⟩ := tidy.registered task teardown (before task teardown here)
    refine ⟨?_, noted⟩
    have distinct : teardown.clientId ≠ id := by
      intro same
      rw [same, TcpServerSender.get?_eq_none_of_fresh fresh] at present
      cases present
    exact (Dict.set_get?_of_ne _ distinct _).trans present
  · intro one two first second here there same
    exact tidy.apart one two first second (before one first here) (before two second there) same

theorem step_tidy {self next : System ι τ} {action : ServerAction ι τ} (tidy : self.Tidy)
    (names : self.DistinctNames action) (first : self.FirstCall action)
    (taken : self.step action = some next) : next.Tidy := by
  cases action with
  | connect id =>
      obtain rfl := step_connect_eq_some taken
      have accepted := accept_tidy tidy names
      obtain ⟨begins, keeps⟩ := TcpServerSender.greet_begins
        (self.launch (·.accept id self.points.length)).shared
        (self.launch (·.accept id self.points.length)).points
        (self.launch (·.accept id self.points.length)).points.length id
      refine accepted.launch
        (·.greet (self.launch (·.accept id self.points.length)).points
          (self.launch (·.accept id self.points.length)).points.length id) (accepted.accounts.begins keeps begins ?_) keeps.clients begins
      intro other chosen connection present member
      obtain rfl := Option.some.inj chosen
      -- the new connection has the next number
      have last : self.shared.connectionManager.states.length = connection :=
        Option.some.inj ((Dict.set_get?_self _ id _).symm.trans present)
      obtain ⟨call, called, rfl⟩ := List.mem_map.mp member
      have inside := tidy.accounts.known call called
      rw [TcpServerSender.names, List.length_map, last] at inside
      exact Nat.lt_irrefl _ inside
  | resume task ok => exact resume_tidy tidy first taken
  | closeCancelled task =>
      obtain ⟨teardown, caller, found, _, rfl⟩ := step_closeCancelled_eq_some taken
      have idle : self.shared.Begins none (self.shared, .cancelled caller) := Or.inl ⟨rfl, rfl⟩
      exact tidy.set found tidy.accounts rfl idle
  | broadcast payload order =>
      obtain ⟨_, _, rfl⟩ := step_broadcast_eq_some taken
      have block := TcpServerSender.broadcast_begins self.shared self.points self.points.length
        payload order
      exact tidy.launch _ (tidy.accounts.begins block.2 block.1 first) block.2.clients block.1
  | cancelBroadcast task =>
      obtain rfl := step_cancelBroadcast_eq_some taken
      exact ⟨tidy.accounts.keeps ⟨rfl, rfl, rfl⟩ rfl, tidy.registered, tidy.apart⟩
  | updateHeader sendHeaderOnConnect headerPayload =>
      cases taken
      exact ⟨tidy.accounts.keeps ⟨rfl, rfl, rfl⟩ rfl, tidy.registered, tidy.apart⟩
  | stop =>
      cases taken
      have begins := TcpServerSender.stop_begins self.shared self.points self.points.length
      have keeps := (TcpServerSender.stop_quiet self.shared self.points
        self.points.length).keepsRegistry
      exact tidy.launch _ (tidy.accounts.begins keeps begins first) keeps.clients begins
  | tick now =>
      obtain ⟨_, rfl⟩ := step_tick_eq_some taken
      exact ⟨tidy.accounts.keeps ⟨rfl, rfl, rfl⟩ rfl, tidy.registered, tidy.apart⟩

theorem started_tidy (config : TcpServerConfig τ) : Tidy (started config : System ι τ) where
  accounts :=
    { distinct := List.nodup_nil
      connects := fun _ => rfl
      once := fun _ => rfl
      calls := List.nodup_nil
      known := by simp [started]
      reasons := by simp [started] }
  registered := by
    intro task teardown here
    obtain ⟨point, found, under⟩ := Option.bind_eq_some_iff.mp here
    rw [List.mem_singleton.mp (List.mem_of_getElem? found)] at under
    cases under
  apart := by
    intro task other teardown _ here
    obtain ⟨point, found, under⟩ := Option.bind_eq_some_iff.mp here
    rw [List.mem_singleton.mp (List.mem_of_getElem? found)] at under
    cases under

theorem disconnected_once (config : TcpServerConfig τ) {actions : List (ServerAction ι τ)}
    {visited : System ι τ}
    (each : Runs.Each step (fun self action => self.DistinctNames action ∧ self.FirstCall action)
      (started config) actions)
    (visits : Runs.Visits step (started config) actions visited) :
    visited.shared.DisconnectedOnce := by
  have tidy : visited.Tidy := each.visits_invariant Tidy
    (fun _ _ _ allowed tidy taken => step_tidy tidy allowed.1 allowed.2 taken)
    (started_tidy config) visits
  exact tidy.accounts.disconnectedOnce

/-- A client leaves, its reader tears it down. -/
def clientLeaves (name : String) : List (ServerAction String Unit) :=
  [.connect name, .resume 2 true, .resume 2 false, .resume 1 true, .resume 2 true, .resume 2 true]

theorem disconnected_once_client_leaves : ∃ final,
    Runs.run step (started {}) (clientLeaves "('10.0.0.5', 4242)") = some final ∧
      final.shared.DisconnectedOnce := by
  have possible : (Runs.run step (started {}) (clientLeaves "('10.0.0.5', 4242)")).isSome =
      true := by decide +kernel
  obtain ⟨final, ran⟩ := Option.isSome_iff_exists.mp possible
  exact ⟨final, ran, disconnected_once {} (by decide +kernel) ⟨_, List.prefix_rfl, ran⟩⟩

/-- The writer's send fails. Its call cancels the reader, whose `finally` makes a second. -/
def sendFails (name : String) : List (ServerAction String Unit) :=
  [.connect name, .resume 2 true, .broadcast ⟨[1], ()⟩ [name], .resume 1 true, .resume 1 false,
    .resume 2 true, .resume 2 true, .resume 1 true, .resume 1 true]

/-- The one client is reported as disconnected twice, first for a reason that no first call
gave. -/
theorem sendFails_not_disconnected_once : ∃ final,
    Runs.run step (started {}) (sendFails "a") = some final ∧
      final.shared.events = [.clientConnect "a", .clientDisconnect "a" .clientDisconnect,
        .clientDisconnect "a" .sendFailure] ∧
      final.shared.calls = [⟨0, .sendFailure⟩, ⟨0, .clientDisconnect⟩] ∧
      ¬final.shared.DisconnectedOnce := by
  have outcome : (Runs.run step (started {}) (sendFails "a")).map (fun final =>
      (final.shared.events, final.shared.calls)) =
      some ([.clientConnect "a", .clientDisconnect "a" .clientDisconnect,
        .clientDisconnect "a" .sendFailure], [⟨0, .sendFailure⟩, ⟨0, .clientDisconnect⟩]) := by
    decide +kernel
  obtain ⟨final, ran, seen⟩ := Option.map_eq_some_iff.mp outcome
  obtain ⟨events, calls⟩ := Prod.mk.inj seen
  refine ⟨final, ran, events, calls, ?_⟩
  intro good
  have once := good.once "a"
  have two : final.shared.events.countP (ServerEvent.isDisconnectOf "a") = 2 := by
    rw [events]
    decide
  have one : final.shared.events.count (.clientConnect "a") = 1 := by
    rw [events]
    decide
  omega

end System

end TcpSim.Transport
