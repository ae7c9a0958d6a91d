import TcpSim.Transport.TcpServerProperties

/-! What the clients have been sent while broadcasts follow one another: a client the current
broadcast has still to reach is waiting for its payload, any other ready client is up to date. -/

set_option autoImplicit false

namespace TcpSim.Transport

variable {ι τ : Type}

/-- A broadcast that is not over: the payload and the clients left. -/
def Caller.pending : Caller ι τ → Option (Payload τ × List ι)
  | .broadcast payload (id :: remaining) => some (payload, id :: remaining)
  | _ => none

/-- The broadcast that a task has not finished. One that was cancelled is left out on demand. -/
def Point.pending (lenient : Bool) : Point ι τ → Option (Payload τ × List ι)
  | .disconnecting _ caller => caller.pending
  | .cancelled caller => if lenient then none else caller.pending
  | _ => none

/-- What a new client gets, and the broadcasts so far. -/
structure Settings (τ : Type) where
  sendHeaderOnConnect : Bool
  headerPayload : Option (Payload τ)
  thresholds : QueueThresholds
  sent : List (Payload τ)

namespace Settings

variable (self : Settings τ)

def greeting : Option (Payload τ) :=
  if self.sendHeaderOnConnect then self.headerPayload.filter (fun header => header.bytes ≠ [])
  else none

/-- The header does not fit into an empty queue. -/
def turnsAway : Bool :=
  match self.greeting with
  | none => false
  | some header => self.thresholds.hardCapBytes < header.bytes.length

/-- What a client accepts when it connects. -/
def firstAccepted : List (Payload τ) :=
  if self.turnsAway then [] else self.greeting.toList

end Settings

def TcpServerSender.settings (self : TcpServerSender ι τ) : Settings τ where
  sendHeaderOnConnect := self.sendHeaderOnConnect
  headerPayload := self.headerPayload
  thresholds := self.connectionManager.thresholds
  sent := self.sent

/-- What is said of the payloads a client has accepted. -/
structure Expectation (τ : Type) where
  settings : Settings τ
  everyone : List (Payload τ) → Prop
  upToDate : List (Payload τ) → Prop
  awaiting : List (Payload τ) → Prop
  /-- A cancelled broadcast leaves its clients up to date. -/
  lenient : Bool := false
  forgives : lenient = true → ∀ accepted, awaiting accepted → upToDate accepted := by simp

/-- The payload is what a waiting client waits for. -/
def Expectation.Accepts (expectation : Expectation τ) (payload : Payload τ) : Prop :=
  ∀ accepted, expectation.awaiting accepted →
    expectation.everyone (accepted ++ [payload]) ∧ expectation.upToDate (accepted ++ [payload])

namespace TcpServerSender

/-- `remaining` are the clients that the current broadcast has still to reach. -/
structure Streams (server : TcpServerSender ι τ) (expectation : Expectation τ)
    (remaining : List ι) : Prop where
  settings : server.settings = expectation.settings
  delivers : ∀ state ∈ server.connectionManager.states, state.Delivers
  everyone : ∀ state ∈ server.connectionManager.states, expectation.everyone state.accepted
  upToDate : ∀ id ∈ server.broadcastReadyClients, id ∉ remaining →
    ∀ entry, server.connectionManager.getClientState id = some entry →
      expectation.upToDate entry.2.accepted
  awaiting : ∀ id ∈ remaining, ∀ entry,
    server.connectionManager.getClientState id = some entry →
      expectation.awaiting entry.2.accepted
  readyNamed : ∀ id ∈ server.broadcastReadyClients,
    id ∈ server.connectionManager.states.map (·.clientId)
  remainingNamed : ∀ id ∈ remaining, id ∈ server.connectionManager.states.map (·.clientId)
  distinct : remaining.Nodup

/-- No client accepts anything, and none becomes ready or registered. -/
structure KeepsStreams (before after : TcpServerSender ι τ) : Prop where
  settings : after.settings = before.settings
  delivers : (∀ state ∈ before.connectionManager.states, state.Delivers) →
    ∀ state ∈ after.connectionManager.states, state.Delivers
  accepted : ∀ state ∈ after.connectionManager.states,
    ∃ old ∈ before.connectionManager.states, old.accepted = state.accepted
  names : after.connectionManager.states.map (·.clientId) =
    before.connectionManager.states.map (·.clientId)
  current : ∀ id entry, after.connectionManager.getClientState id = some entry →
    ∃ old, before.connectionManager.getClientState id = some old ∧
      old.2.accepted = entry.2.accepted
  ready : after.broadcastReadyClients ⊆ before.broadcastReadyClients

namespace KeepsStreams

theorem of_same {before after : TcpServerSender ι τ}
    (settings : after.settings = before.settings)
    (manager : after.connectionManager = before.connectionManager)
    (ready : after.broadcastReadyClients ⊆ before.broadcastReadyClients) :
    KeepsStreams before after where
  settings := settings
  delivers := by
    rw [manager]
    exact fun delivers => delivers
  accepted := by
    rw [manager]
    exact fun state member => ⟨state, member, rfl⟩
  names := by rw [manager]
  current := by
    rw [manager]
    exact fun id entry found => ⟨entry, found, rfl⟩
  ready := ready

theorem trans {first second third : TcpServerSender ι τ} (one : KeepsStreams first second)
    (two : KeepsStreams second third) : KeepsStreams first third where
  settings := two.settings.trans one.settings
  delivers := fun delivers => two.delivers (one.delivers delivers)
  accepted := by
    intro state member
    obtain ⟨middle, inside, same⟩ := two.accepted state member
    obtain ⟨old, present, equal⟩ := one.accepted middle inside
    exact ⟨old, present, equal.trans same⟩
  names := two.names.trans one.names
  current := by
    intro id entry found
    obtain ⟨middle, inside, same⟩ := two.current id entry found
    obtain ⟨old, present, equal⟩ := one.current id middle inside
    exact ⟨old, present, equal.trans same⟩
  ready := two.ready.trans one.ready

theorem streams {before after : TcpServerSender ι τ} (keeps : KeepsStreams before after)
    {expectation : Expectation τ} {remaining : List ι}
    (held : before.Streams expectation remaining) : after.Streams expectation remaining where
  settings := keeps.settings.trans held.settings
  delivers := keeps.delivers held.delivers
  everyone := by
    intro state member
    obtain ⟨old, present, same⟩ := keeps.accepted state member
    rw [← same]
    exact held.everyone old present
  upToDate := by
    intro id ready done entry found
    obtain ⟨old, present, same⟩ := keeps.current id entry found
    rw [← same]
    exact held.upToDate id (keeps.ready ready) done old present
  awaiting := by
    intro id member entry found
    obtain ⟨old, present, same⟩ := keeps.current id entry found
    rw [← same]
    exact held.awaiting id member old present
  readyNamed := by
    rw [keeps.names]
    exact fun id ready => held.readyNamed id (keeps.ready ready)
  remainingNamed := by
    rw [keeps.names]
    exact held.remainingNamed
  distinct := held.distinct

end KeepsStreams

/-- An update of one connection that leaves its name and what it accepted. -/
theorem updateState_keepsStreams {before after : TcpServerSender ι τ} {connection : Nat}
    (update : ClientState ι τ → ClientState ι τ)
    (named : ∀ state, (update state).clientId = state.clientId)
    (accepted : ∀ state, (update state).accepted = state.accepted)
    (delivers : ∀ state, before.connectionManager.states[connection]? = some state →
      state.Delivers → (update state).Delivers)
    (settings : after.settings = before.settings)
    (manager : after.connectionManager =
      before.connectionManager.updateState connection update named)
    (ready : after.broadcastReadyClients ⊆ before.broadcastReadyClients) :
    KeepsStreams before after where
  settings := settings
  delivers := by
    rw [manager]
    intro all state member
    rcases ConnectionManager.updateState_mem named member with ⟨old, present, rfl⟩ | old
    · exact delivers old present (all old (List.mem_of_getElem? present))
    · exact all state old
  accepted := by
    rw [manager]
    intro state member
    rcases ConnectionManager.updateState_mem named member with ⟨old, present, rfl⟩ | old
    · exact ⟨old, List.mem_of_getElem? present, (accepted old).symm⟩
    · exact ⟨state, old, rfl⟩
  names := by rw [manager, ConnectionManager.updateState_names]
  current := by
    rw [manager]
    intro id entry found
    rw [ConnectionManager.updateState_getClientState, Option.map_eq_some_iff] at found
    obtain ⟨old, present, rfl⟩ := found
    refine ⟨old, present, ?_⟩
    simp only
    split
    · exact (accepted old.2).symm
    · rfl
  ready := ready

theorem Housekeeping.settings {before after : TcpServerSender ι τ}
    (same : Housekeeping before after) : after.settings = before.settings := by
  have thresholds : after.connectionManager.thresholds = before.connectionManager.thresholds := by
    rcases same.manager with manager | ⟨connection, manager⟩
    · rw [manager]
    · rw [manager]
      rfl
  unfold TcpServerSender.settings
  rw [same.sendHeader, same.header, same.sent, thresholds]

theorem Housekeeping.keepsStreams {before after : TcpServerSender ι τ}
    (same : Housekeeping before after) : KeepsStreams before after := by
  rcases same.manager with manager | ⟨connection, manager⟩
  · exact KeepsStreams.of_same same.settings manager (by rw [same.ready])
  · exact updateState_keepsStreams (·.close) (fun _ => rfl) (fun _ => rfl)
      (fun _ _ delivers => delivers) same.settings manager (by rw [same.ready])

/-- What a new client has accepted, and nothing changes for the others. -/
structure Joins (before after : TcpServerSender ι τ) (id : ι) (accepted : List (Payload τ)) :
    Prop where
  settings : after.settings = before.settings
  delivers : (∀ state ∈ before.connectionManager.states, state.Delivers) →
    ∀ state ∈ after.connectionManager.states, state.Delivers
  states : ∀ state ∈ after.connectionManager.states, state.accepted = accepted ∨
    ∃ old ∈ before.connectionManager.states, old.accepted = state.accepted
  names : after.connectionManager.states.map (·.clientId) =
    before.connectionManager.states.map (·.clientId) ++ [id]
  own : ∀ entry, after.connectionManager.getClientState id = some entry →
    entry.2.accepted = accepted
  others : ∀ other, other ≠ id → ∀ entry,
    after.connectionManager.getClientState other = some entry →
      ∃ old, before.connectionManager.getClientState other = some old ∧
        old.2.accepted = entry.2.accepted
  ready : ∀ other ∈ after.broadcastReadyClients, other = id ∨ other ∈ before.broadcastReadyClients

namespace Joins

variable {before after : TcpServerSender ι τ} {id : ι} {accepted : List (Payload τ)}

theorem streams (joins : Joins before after id accepted) {expectation : Expectation τ}
    {remaining : List ι} (held : before.Streams expectation remaining)
    (everyone : expectation.everyone accepted)
    (fresh : id ∈ after.broadcastReadyClients → id ∉ remaining → expectation.upToDate accepted)
    (waits : id ∈ remaining → expectation.awaiting accepted) :
    after.Streams expectation remaining where
  settings := joins.settings.trans held.settings
  delivers := joins.delivers held.delivers
  everyone := by
    intro state member
    rcases joins.states state member with own | ⟨old, present, same⟩
    · rw [own]
      exact everyone
    · rw [← same]
      exact held.everyone old present
  upToDate := by
    intro other ready done entry found
    by_cases same : other = id
    · subst same
      rw [joins.own entry found]
      exact fresh ready done
    · obtain ⟨old, present, equal⟩ := joins.others other same entry found
      rw [← equal]
      exact held.upToDate other ((joins.ready other ready).resolve_left same) done old present
  awaiting := by
    intro other member entry found
    by_cases same : other = id
    · subst same
      rw [joins.own entry found]
      exact waits member
    · obtain ⟨old, present, equal⟩ := joins.others other same entry found
      rw [← equal]
      exact held.awaiting other member old present
  readyNamed := by
    intro other ready
    rw [joins.names, List.mem_append, List.mem_singleton]
    exact (joins.ready other ready).symm.imp_left (held.readyNamed other)
  remainingNamed := by
    intro other member
    rw [joins.names]
    exact List.mem_append_left _ (held.remainingNamed other member)
  distinct := held.distinct

theorem keeps {later : TcpServerSender ι τ} (joins : Joins before after id accepted)
    (keeps : KeepsStreams after later) : Joins before later id accepted where
  settings := keeps.settings.trans joins.settings
  delivers := fun delivers => keeps.delivers (joins.delivers delivers)
  states := by
    intro state member
    obtain ⟨middle, inside, same⟩ := keeps.accepted state member
    rw [← same]
    exact joins.states middle inside
  names := keeps.names.trans joins.names
  own := by
    intro entry found
    obtain ⟨middle, inside, same⟩ := keeps.current id entry found
    rw [← same]
    exact joins.own middle inside
  others := by
    intro other distinct entry found
    obtain ⟨middle, inside, same⟩ := keeps.current other entry found
    obtain ⟨old, present, equal⟩ := joins.others other distinct middle inside
    exact ⟨old, present, equal.trans same⟩
  ready := fun other ready => joins.ready other (keeps.ready ready)

end Joins

theorem writerTurn_pending (self : TcpServerSender ι τ) (id : ι) (lenient : Bool) :
    (self.writerTurn id).2.pending lenient = none := by
  unfold writerTurn
  split
  · split <;> split <;> rfl
  · rfl

section Blocks

variable [DecidableEq ι]

theorem Change.keepsStreams {before after : TcpServerSender ι τ} (change : Change before after) :
    KeepsStreams before after := by
  cases change with
  | keeps same => exact same.keepsStreams
  | calls id connection reason found =>
      exact KeepsStreams.of_same rfl rfl (Finset.erase_subset id _)
  | sends id connection state payload rest found queued =>
      let send : ClientState ι τ → ClientState ι τ := fun state =>
        (state.shift before.connectionManager.thresholds before.clock payload).write payload
      have named : ∀ state, (send state).clientId = state.clientId := by
        simp [send, ClientState.shift, ClientState.write]
      refine updateState_keepsStreams send named
        (by simp [send, ClientState.shift, ClientState.write]) ?_ rfl
        (ConnectionManager.updateState_updateState _ connection _ (·.write payload) _ fun _ => rfl)
        (Finset.Subset.refl _)
      intro old present delivers
      rw [(ConnectionManager.getClientState_eq_some.mp found).2] at present
      obtain rfl := Option.some.inj present
      exact delivers.send queued

theorem Quiet.keepsStreams {before after : TcpServerSender ι τ} (quiet : Quiet before after) :
    KeepsStreams before after := by
  induction quiet with
  | refl => exact KeepsStreams.of_same rfl rfl (Finset.Subset.refl _)
  | tail _ change ih => exact ih.trans change.keepsStreams

theorem unregister_keepsStreams (self : TcpServerSender ι τ) (id : ι) (reason : DisconnectReason) :
    KeepsStreams self (self.unregister id reason) where
  settings := rfl
  delivers := fun delivers => delivers
  accepted := fun state member => ⟨state, member, rfl⟩
  names := rfl
  current := by
    intro other entry found
    refine ⟨entry, ?_, rfl⟩
    obtain ⟨lookup, state⟩ := ConnectionManager.getClientState_eq_some.mp found
    refine ConnectionManager.getClientState_eq_some.mpr ⟨?_, state⟩
    by_cases same : other = id
    · subst same
      rw [show (self.unregister other reason).connectionManager.clients.get? other = none from
        Dict.pop_get?_self _ other] at lookup
      cases lookup
    · exact (Dict.pop_get?_of_ne _ same).symm.trans lookup
  ready := Finset.Subset.refl _

/-! ## A new client -/

variable (self : TcpServerSender ι τ) (points : List (Point ι τ)) (task : Nat)

theorem accept_getClientState_self (id : ι) (writer : Nat) :
    (self.accept id writer).1.connectionManager.getClientState id =
      some (self.connectionManager.states.length, { clientId := id }) := by
  refine ConnectionManager.getClientState_eq_some.mpr ⟨Dict.set_get?_self _ id _, ?_⟩
  exact List.getElem?_concat_length

theorem accept_getClientState_of_ne {id other : ι} (distinct : other ≠ id) (writer : Nat) :
    (self.accept id writer).1.connectionManager.getClientState other =
      self.connectionManager.getClientState other := by
  have lookup : (self.accept id writer).1.connectionManager.clients.get? other =
      self.connectionManager.clients.get? other := Dict.set_get?_of_ne _ distinct _
  unfold ConnectionManager.getClientState
  rw [lookup]
  cases found : self.connectionManager.clients.get? other with
  | none => rfl
  | some connection =>
      obtain ⟨state, present, _⟩ := ConnectionManager.getClientState_of_found found
      have here := (ConnectionManager.getClientState_eq_some.mp present).2
      have inside := (List.getElem?_eq_some_iff.mp here).1
      have kept : (self.accept id writer).1.connectionManager.states[connection]? =
          self.connectionManager.states[connection]? := List.getElem?_append_left inside
      simp only [Option.bind_eq_bind, Option.bind_some, kept]

theorem accept_joins (id : ι) (writer : Nat) : Joins self (self.accept id writer).1 id [] where
  settings := rfl
  delivers := by
    intro delivers state member
    rcases List.mem_append.mp member with old | new
    · exact delivers state old
    · rw [List.mem_singleton.mp new]
      rfl
  states := by
    intro state member
    rcases List.mem_append.mp member with old | new
    · exact Or.inr ⟨state, old, rfl⟩
    · rw [List.mem_singleton.mp new]
      exact Or.inl rfl
  names := List.map_append
  own := by
    intro entry found
    rw [accept_getClientState_self] at found
    obtain rfl := Option.some.inj found
    rfl
  others := by
    intro other distinct entry found
    rw [accept_getClientState_of_ne self distinct] at found
    exact ⟨entry, found, rfl⟩
  ready := fun other ready => Or.inr ready

theorem makeReady_joins {before : TcpServerSender ι τ} {id : ι} {accepted : List (Payload τ)}
    (joins : Joins before self id accepted) (reader : Nat) :
    Joins before (self.makeReady id reader).1 id accepted where
  settings := joins.settings
  delivers := joins.delivers
  states := joins.states
  names := joins.names
  own := joins.own
  others := joins.others
  ready := by
    intro other ready
    rcases Finset.mem_insert.mp ready with new | old
    · exact Or.inl new
    · exact joins.ready other old

theorem modify_concat {α : Type} (items : List α) (last : α) (update : α → α) :
    (items ++ [last]).modify items.length update = items ++ [update last] := by
  simpa [List.modify] using List.modifyTailIdx_add (List.modifyHead update) 0 items [last]

/-- The header is the first payload of the new client. -/
theorem enqueue_joins {id : ι} {writer : Nat} {header : Payload τ}
    {manager : ConnectionManager ι τ}
    (accepted : (self.accept id writer).1.connectionManager.enqueuePayload self.clock id header =
      .ok manager) :
    Joins self { (self.accept id writer).1 with connectionManager := manager } id [header] where
  settings := by
    obtain ⟨_, _, _, _, rfl⟩ := ConnectionManager.enqueuePayload_eq_ok accepted
    rfl
  delivers := by
    intro delivers state member
    have all := (accept_joins self id writer).delivers delivers
    obtain ⟨_, _, found, _, rfl⟩ := ConnectionManager.enqueuePayload_eq_ok accepted
    rcases ConnectionManager.updateState_mem (by simp [ClientState.push]) member with
      ⟨old, present, rfl⟩ | old
    · exact (all old (List.mem_of_getElem? present)).push
    · exact all state old
  states := by
    obtain ⟨connection, state, found, _, rfl⟩ := ConnectionManager.enqueuePayload_eq_ok accepted
    rw [accept_getClientState_self] at found
    obtain ⟨rfl, rfl⟩ := Prod.mk.inj (Option.some.inj found)
    intro state member
    simp only [ConnectionManager.updateState] at member
    rw [show (self.accept id writer).1.connectionManager.states =
      self.connectionManager.states ++ [{ clientId := id }] from rfl, modify_concat] at member
    rcases List.mem_append.mp member with old | new
    · exact Or.inr ⟨state, old, rfl⟩
    · rw [List.mem_singleton.mp new]
      exact Or.inl (by simp [ClientState.push])
  names := by
    obtain ⟨connection, state, _, _, rfl⟩ := ConnectionManager.enqueuePayload_eq_ok accepted
    rw [ConnectionManager.updateState_names]
    exact List.map_append
  own := by
    intro entry present
    obtain ⟨connection, state, found, _, rfl⟩ := ConnectionManager.enqueuePayload_eq_ok accepted
    rw [ConnectionManager.updateState_getClientState_self found] at present
    rw [accept_getClientState_self] at found
    obtain ⟨rfl, rfl⟩ := Prod.mk.inj (Option.some.inj found)
    obtain rfl := Option.some.inj present
    simp [ClientState.push]
  others := by
    intro other distinct entry found
    rw [ConnectionManager.enqueuePayload_getClientState_of_ne accepted distinct,
      accept_getClientState_of_ne self distinct] at found
    exact ⟨entry, found, rfl⟩
  ready := fun other ready => Or.inr ready

theorem disconnectClient_not_ready {id : ι} {reason : DisconnectReason}
    {begun : TcpServerSender ι τ} {teardown : Teardown ι}
    (begins : self.disconnectClient points task id reason = some (begun, teardown)) :
    id ∉ begun.broadcastReadyClients := by
  obtain ⟨connection, _, rfl, _⟩ := disconnectClient_eq_some self points task begins
  rw [(endWriter_housekeeping _ points task id connection).ready]
  exact Finset.notMem_erase id _

theorem greet_joins (id : ι) (writer : Nat) :
    Joins self ((self.accept id writer).1.greet points task id).1 id self.settings.firstAccepted ∧
      (self.settings.turnsAway = true →
        id ∉ ((self.accept id writer).1.greet points task id).1.broadcastReadyClients) := by
  have joins := accept_joins self id writer
  have found := accept_getClientState_self self id writer
  have same : (self.accept id writer).1.greeting = self.settings.greeting := rfl
  unfold greet Settings.firstAccepted Settings.turnsAway
  rw [same]
  cases greeting : self.settings.greeting with
  | none => exact ⟨makeReady_joins _ joins task, by simp⟩
  | some header =>
      simp only [decide_eq_true_eq, Option.toList_some]
      split
      next manager accepted =>
        obtain ⟨_, state, present, fits, _⟩ := ConnectionManager.enqueuePayload_eq_ok accepted
        rw [found] at present
        obtain ⟨_, rfl⟩ := Prod.mk.inj (Option.some.inj present)
        have small : ¬self.settings.thresholds.hardCapBytes < header.bytes.length := by
          have room : (0 : Int) + header.bytes.length ≤
            self.settings.thresholds.hardCapBytes := of_decide_eq_true fits
          omega
        rw [if_neg small]
        exact ⟨makeReady_joins _ (enqueue_joins self accepted) task, fun large => absurd large small⟩
      next rejection rejected =>
        obtain ⟨⟨entry, present, unfit⟩, rfl⟩ := ConnectionManager.rejects_of_error found rejected
        rw [found] at present
        obtain rfl := Option.some.inj present
        have large : self.settings.thresholds.hardCapBytes < header.bytes.length := by
          have full : ¬(0 : Int) + header.bytes.length ≤
            self.settings.thresholds.hardCapBytes := of_decide_eq_false unfit
          omega
        rw [if_pos large]
        refine ⟨joins.keeps (disconnectLast_quiet _ points task id _).keepsStreams, fun _ => ?_⟩
        unfold disconnectLast
        split
        next absent =>
          rw [disconnectClient_eq_none, found] at absent
          cases absent
        next begins => exact disconnectClient_not_ready _ points task begins

/-! ## The loop of a broadcast -/

section Loop

variable {self} {expectation : Expectation τ} {payload : Payload τ}

theorem Streams.pass {id : ι} {remaining : List ι}
    (held : self.Streams expectation (id :: remaining))
    (unready : self.connectionManager.getClientState id = none ∨
      id ∉ self.broadcastReadyClients) : self.Streams expectation remaining where
  settings := held.settings
  delivers := held.delivers
  everyone := held.everyone
  upToDate := by
    intro other ready done entry found
    by_cases same : other = id
    · subst same
      rcases unready with gone | unready
      · rw [gone] at found
        cases found
      · exact absurd ready unready
    · exact held.upToDate other ready (by simp [same, done]) entry found
  awaiting := fun other member => held.awaiting other (List.mem_cons_of_mem _ member)
  readyNamed := held.readyNamed
  remainingNamed := fun other member => held.remainingNamed other (List.mem_cons_of_mem _ member)
  distinct := (List.nodup_cons.mp held.distinct).2

theorem Streams.enqueue {id : ι} {remaining : List ι} {manager : ConnectionManager ι τ}
    (held : self.Streams expectation (id :: remaining)) (accepts : expectation.Accepts payload)
    (accepted : self.connectionManager.enqueuePayload self.clock id payload = .ok manager) :
    ({ self with connectionManager := manager } : TcpServerSender ι τ).Streams expectation
      remaining := by
  obtain ⟨fresh, distinct⟩ := List.nodup_cons.mp held.distinct
  have others := fun other (elsewhere : other ≠ id) =>
    ConnectionManager.enqueuePayload_getClientState_of_ne accepted elsewhere
  obtain ⟨connection, state, found, _, rfl⟩ := ConnectionManager.enqueuePayload_eq_ok accepted
  obtain ⟨good, current⟩ := accepts state.accepted (held.awaiting id List.mem_cons_self _ found)
  refine ⟨held.settings, ?_, ?_, ?_, ?_, ?_, ?_, distinct⟩
  · intro later member
    rcases ConnectionManager.updateState_mem (by simp [ClientState.push]) member with
      ⟨old, present, rfl⟩ | old
    · exact (held.delivers old (List.mem_of_getElem? present)).push
    · exact held.delivers later old
  · intro later member
    rcases ConnectionManager.updateState_mem (by simp [ClientState.push]) member with ⟨old, present, rfl⟩ | old
    · rw [(ConnectionManager.getClientState_eq_some.mp found).2] at present
      obtain rfl := Option.some.inj present
      simpa [ClientState.push] using good
    · exact held.everyone later old
  · intro other ready done entry present
    by_cases same : other = id
    · subst same
      rw [ConnectionManager.updateState_getClientState_self found] at present
      obtain rfl := Option.some.inj present
      simpa [ClientState.push] using current
    · rw [others other same] at present
      exact held.upToDate other ready (by simp [same, done]) entry present
  · intro other member entry present
    have elsewhere : other ≠ id := by
      intro same
      exact fresh (same ▸ member)
    rw [others other elsewhere] at present
    exact held.awaiting other (List.mem_cons_of_mem _ member) entry present
  · rw [ConnectionManager.updateState_names]
    exact held.readyNamed
  · rw [ConnectionManager.updateState_names]
    exact fun other member => held.remainingNamed other (List.mem_cons_of_mem _ member)

/-- The loop leaves the clients it still has to reach in its point. -/
theorem broadcastTo_streams (accepts : expectation.Accepts payload) {order : List ι}
    (held : self.Streams expectation order) (lenient : Bool) :
    ((broadcastTo points task payload order self).2.pending lenient = none ∧
      (broadcastTo points task payload order self).1.Streams expectation []) ∨
    ∃ remaining, (broadcastTo points task payload order self).2.pending lenient =
        some (payload, remaining) ∧
      (broadcastTo points task payload order self).1.Streams expectation remaining := by
  induction order generalizing self with
  | nil => exact Or.inl ⟨rfl, held⟩
  | cons id remaining ih =>
      rcases broadcastTo_cons self points task payload id remaining with
        ⟨manager, accepted, turn⟩ | ⟨absent, turn⟩ | ⟨_, begun, teardown, begins, turn⟩
      · rw [turn]
        exact ih (held.enqueue accepts accepted)
      · rw [turn]
        exact ih (held.pass (Or.inl absent))
      · rw [turn]
        have still := (disconnectClient_quiet self points task begins).keepsStreams.streams held
        have passed := still.pass (Or.inr (disconnectClient_not_ready self points task begins))
        cases remaining with
        | nil => exact Or.inl ⟨rfl, passed⟩
        | cons next others => exact Or.inr ⟨next :: others, rfl, passed⟩

end Loop

/-! ## Only the loop of a broadcast leaves one behind -/

section Behind

variable (lenient : Bool)

theorem disconnectLast_pending (id : ι) (reason : DisconnectReason) :
    (self.disconnectLast points task id reason).2.pending lenient = none := by
  unfold disconnectLast
  split <;> rfl

theorem disconnectEach_pending (reason : DisconnectReason) {caller : List ι → Caller ι τ}
    {finish : Block ι τ} (silent : ∀ remaining, (caller remaining).pending = none)
    (finishes : ∀ self, (finish self).2.pending lenient = none) (remaining : List ι) :
    (disconnectEach points task reason caller finish remaining self).2.pending lenient = none := by
  induction remaining with
  | nil => exact finishes self
  | cons id remaining ih =>
      unfold disconnectEach
      split
      · exact ih
      · exact silent remaining

theorem readerTurn_pending (id : ι) :
    (self.readerTurn points task id).2.pending lenient = none := by
  unfold readerTurn
  split
  · rfl
  · exact disconnectLast_pending self points task lenient id _

theorem monitorRest_pending (remaining : List ι) :
    (self.monitorRest points task remaining).2.pending lenient = none :=
  disconnectEach_pending self points task lenient _ (fun _ => rfl) (fun _ => rfl) remaining

theorem stopRest_pending (remaining : List ι) :
    (self.stopRest points task remaining).2.pending lenient = none :=
  disconnectEach_pending self points task lenient _ (fun _ => rfl) (fun _ => rfl) remaining

theorem stop_pending : (self.stop points task).2.pending lenient = none := by
  unfold stop
  split
  · split
    · exact stopRest_pending _ points task lenient _
    · rfl
  · rfl

theorem greet_pending (id : ι) : (self.greet points task id).2.pending lenient = none := by
  unfold greet
  split
  · rfl
  · split
    · rfl
    · exact disconnectLast_pending _ points task lenient id _

theorem resumeCancelled_pending (point : Point ι τ) :
    (self.resumeCancelled points task point).2.pending lenient =
      if lenient then none else point.pending lenient := by
  cases point with
  | reading id =>
      rw [show (Point.reading id : Point ι τ).pending lenient = none from rfl, ite_self]
      exact disconnectLast_pending _ points task lenient id _
  | disconnecting teardown caller => rfl
  | cancelled caller => cases lenient <;> rfl
  | _ => cases lenient <;> rfl

theorem resume_pending (ok : Bool) {point : Point ι τ}
    (unfinished : ∀ teardown payload remaining,
      point = .disconnecting teardown (.broadcast payload remaining) → teardown.await ≠ .closing) :
    (self.resume points task ok point).2.pending lenient = point.pending lenient := by
  cases point with
  | done => rfl
  | cancelled caller => rfl
  | writerSleeping id => exact writerTurn_pending self id lenient
  | draining id =>
      simp only [resume]
      split
      · exact writerTurn_pending self id lenient
      · exact disconnectLast_pending self points task lenient id _
  | readerCreated id => exact readerTurn_pending self points task lenient id
  | reading id =>
      simp only [resume]
      split
      · exact readerTurn_pending self points task lenient id
      · exact disconnectLast_pending self points task lenient id _
  | monitorSleeping =>
      simp only [resume, monitorTurn]
      split
      · exact monitorRest_pending self points task lenient _
      · rfl
  | monitorEnding monitor => exact stopRest_pending _ points task lenient _
  | serverClosing => rfl
  | disconnecting teardown caller =>
      simp only [resume, continueTeardown]
      cases await : teardown.await with
      | writer writer => rfl
      | reader reader => rfl
      | closing =>
          cases caller with
          | nothing => rfl
          | broadcast payload remaining => exact absurd await (unfinished teardown _ _ rfl)
          | monitor remaining => exact monitorRest_pending _ points task lenient remaining
          | stop remaining => exact stopRest_pending _ points task lenient remaining

end Behind

/-- A task's await ends, but not that of a broadcast's teardown. -/
theorem resume_keepsStreams (ok : Bool) {point : Point ι τ}
    (unfinished : ∀ teardown payload remaining,
      point = .disconnecting teardown (.broadcast payload remaining) → teardown.await ≠ .closing) :
    KeepsStreams self (self.resume points task ok point).1 := by
  cases point with
  | serverClosing => exact KeepsStreams.of_same rfl rfl (Finset.Subset.refl _)
  | disconnecting teardown caller =>
      cases await : teardown.await with
      | closing =>
          simp only [resume, continueTeardown, await]
          have gone := unregister_keepsStreams self teardown.clientId teardown.reason
          cases caller with
          | nothing => exact gone
          | broadcast payload remaining => exact absurd await (unfinished teardown _ _ rfl)
          | monitor remaining => exact gone.trans (monitorRest_quiet _ points task _).keepsStreams
          | stop remaining => exact gone.trans (stopRest_quiet _ points task _).keepsStreams
      | _ =>
          refine (resume_quiet self points task ok (by simp) ?_).keepsStreams
          intro other rest same
          cases same
          simp [await]
  | _ => exact (resume_quiet self points task ok (by simp) (by simp)).keepsStreams

/-- Clients that nothing is sent to any more count as up to date. -/
theorem Streams.forgive {expectation : Expectation τ} (lenient : expectation.lenient = true)
    {server : TcpServerSender ι τ} {remaining : List ι}
    (held : server.Streams expectation remaining) : server.Streams expectation [] where
  settings := held.settings
  delivers := held.delivers
  everyone := held.everyone
  upToDate := by
    intro id ready _ entry found
    by_cases waits : id ∈ remaining
    · exact expectation.forgives lenient _ (held.awaiting id waits entry found)
    · exact held.upToDate id ready waits entry found
  awaiting := fun id member => by cases member
  readyNamed := held.readyNamed
  remainingNamed := fun id member => by cases member
  distinct := List.nodup_nil

end Blocks

end TcpServerSender

/-! ## Steps -/

namespace System

/-- Broadcasts that are not over: the payloads, and the clients that are left. -/
def pendings (self : System ι τ) (lenient : Bool) : List (Payload τ × List ι) :=
  self.points.filterMap (Point.pending lenient)

/-- One broadcast at a time, and everyone has accepted what is expected of them. -/
structure Streaming (system : System ι τ) (expectation : Expectation τ) : Prop where
  single : (system.pendings expectation.lenient).length ≤ 1
  accepts : ∀ entry ∈ system.pendings expectation.lenient, expectation.Accepts entry.1
  streams : system.shared.Streams expectation
    ((system.pendings expectation.lenient).flatMap (·.2))

/-- The pending broadcast stays as it is. -/
theorem Streaming.keeps {self next : System ι τ} {expectation : Expectation τ}
    (held : self.Streaming expectation)
    (same : next.pendings expectation.lenient = self.pendings expectation.lenient)
    (keeps : TcpServerSender.KeepsStreams self.shared next.shared) :
    next.Streaming expectation where
  single := by
    rw [same]
    exact held.single
  accepts := by
    rw [same]
    exact held.accepts
  streams := by
    rw [same]
    exact keeps.streams held.streams

theorem started_streaming (config : TcpServerConfig τ) (expectation : Expectation τ)
    (settings : (started config : System ι τ).shared.settings = expectation.settings) :
    (started config : System ι τ).Streaming expectation where
  single := Nat.zero_le 1
  accepts := fun entry member => by cases member
  streams :=
    { settings := settings
      delivers := fun state member => by cases member
      everyone := fun state member => by cases member
      upToDate := fun id ready => by cases ready
      awaiting := fun id member => by cases member
      readyNamed := fun id ready => by cases ready
      remainingNamed := fun id member => by cases member
      distinct := List.nodup_nil }

variable [DecidableEq ι] {self next : System ι τ} {expectation : Expectation τ}

theorem Streaming.drops (held : self.Streaming expectation)
    (lenient : expectation.lenient = true) (none : next.pendings expectation.lenient = [])
    (keeps : TcpServerSender.KeepsStreams self.shared next.shared) :
    next.Streaming expectation where
  single := by
    rw [none]
    exact Nat.zero_le 1
  accepts := by
    rw [none]
    intro entry member
    cases member
  streams := by
    rw [none]
    exact keeps.streams (held.streams.forgive lenient)

/-- A task leaves its point for one that has no broadcast, if the old one had none or
cancelled ones do not count. -/
theorem Streaming.set (held : self.Streaming expectation) {task : Nat}
    {point replacement : Point ι τ} (found : self.points[task]? = some point)
    (pending : replacement.pending expectation.lenient =
      if expectation.lenient then none else point.pending expectation.lenient)
    {shared : TcpServerSender ι τ} (keeps : TcpServerSender.KeepsStreams self.shared shared) :
    Streaming ({ shared, points := self.points.set task replacement } : System ι τ)
      expectation := by
  cases lenient : expectation.lenient with
  | false =>
      refine held.keeps (Interleaving.filterMap_set_of_same found ?_) keeps
      rw [pending, lenient]
      rfl
  | true =>
      rw [lenient, if_pos rfl] at pending
      cases before : point.pending true with
      | none =>
          refine held.keeps (Interleaving.filterMap_set_of_same found ?_) keeps
          rw [lenient, pending, before]
      | some entry =>
          refine held.drops lenient ?_ keeps
          have single := held.single
          rw [lenient] at single ⊢
          have whole : (self.points.set task replacement).filterMap (Point.pending true) =
              (replacement.pending true).toList :=
            (Interleaving.filterMap_set_of_single found before single).2
          rw [pending] at whole
          exact whole

theorem broadcastTo_streaming {server : TcpServerSender ι τ} {payload : Payload τ}
    {order : List ι} (points : List (Point ι τ)) (task : Nat)
    (accepts : expectation.Accepts payload) (held : server.Streams expectation order)
    (shared : next.shared = (server.broadcastTo points task payload order).1)
    (pendings : next.pendings expectation.lenient =
      ((server.broadcastTo points task payload order).2.pending expectation.lenient).toList) :
    next.Streaming expectation := by
  rcases TcpServerSender.broadcastTo_streams points task accepts held expectation.lenient with
    ⟨finished, streams⟩ | ⟨remaining, unfinished, streams⟩
  · rw [finished, Option.toList_none] at pendings
    constructor
    · rw [pendings]
      exact Nat.zero_le 1
    · rw [pendings]
      simp
    · rw [pendings, shared]
      exact streams
  · rw [unfinished, Option.toList_some] at pendings
    constructor
    · rw [pendings]
      exact Nat.le_refl 1
    · rw [pendings]
      simpa using accepts
    · rw [pendings, shared]
      simpa using streams

theorem goesOn_streaming (held : self.Streaming expectation) {task : Nat} {point : Point ι τ}
    (found : self.points[task]? = some point) {payload : Payload τ} {remaining : List ι}
    (pending : point.pending expectation.lenient = some (payload, remaining))
    {server : TcpServerSender ι τ} (keeps : TcpServerSender.KeepsStreams self.shared server) :
    Streaming ({
      shared := (server.broadcastTo self.points task payload remaining).1
      points := self.points.set task
        (server.broadcastTo self.points task payload remaining).2 } : System ι τ) expectation := by
  let goneOn := server.broadcastTo self.points task payload remaining
  have whole : self.points.filterMap (Point.pending expectation.lenient) = [(payload, remaining)] ∧
      (self.points.set task goneOn.2).filterMap (Point.pending expectation.lenient) =
        (goneOn.2.pending expectation.lenient).toList :=
    Interleaving.filterMap_set_of_single found pending held.single
  obtain ⟨before, after⟩ := whole
  have streams := held.streams
  have member : (payload, remaining) ∈ self.pendings expectation.lenient := by
    unfold pendings
    rw [before]
    exact List.mem_singleton_self _
  unfold pendings at streams
  rw [before, List.flatMap_singleton] at streams
  exact broadcastTo_streaming self.points task (held.accepts _ member) (keeps.streams streams)
    rfl after

theorem resume_streaming (held : self.Streaming expectation) {task : Nat} {ok : Bool}
    (taken : self.step (.resume task ok) = some next) : next.Streaming expectation := by
  obtain ⟨point, found, _, ended⟩ := step_resume_eq_some taken
  rcases ended with ⟨_, rfl⟩ | ⟨_, rfl⟩
  · exact held.set found
      (TcpServerSender.resumeCancelled_pending self.shared self.points task _ point)
      (TcpServerSender.resumeCancelled_quiet self.shared self.points task point).keepsStreams
  · by_cases goesOn : ∃ teardown payload remaining,
        point = .disconnecting teardown (.broadcast payload remaining) ∧ teardown.await = .closing
    · obtain ⟨teardown, payload, remaining, rfl, closing⟩ := goesOn
      have gone := TcpServerSender.unregister_keepsStreams self.shared teardown.clientId
        teardown.reason
      simp only [TcpServerSender.resume, TcpServerSender.continueTeardown, closing,
        TcpServerSender.continueCaller]
      cases remaining with
      | nil => exact held.keeps (Interleaving.filterMap_set_of_same found rfl) gone
      | cons id remaining => exact goesOn_streaming held found rfl gone
    · have unfinished : ∀ teardown payload remaining,
          point = .disconnecting teardown (.broadcast payload remaining) →
            teardown.await ≠ .closing :=
        fun teardown payload remaining shape closing =>
          goesOn ⟨teardown, payload, remaining, shape, closing⟩
      exact held.keeps
        (Interleaving.filterMap_set_of_same found
          (TcpServerSender.resume_pending self.shared self.points task _ ok unfinished))
        (TcpServerSender.resume_keepsStreams self.shared self.points task ok unfinished)

theorem closeCancelled_streaming (held : self.Streaming expectation) {task : Nat}
    (taken : self.step (.closeCancelled task) = some next) : next.Streaming expectation := by
  obtain ⟨teardown, caller, found, _, rfl⟩ := step_closeCancelled_eq_some taken
  exact held.set found rfl (TcpServerSender.KeepsStreams.of_same rfl rfl (Finset.Subset.refl _))

theorem stop_streaming (held : self.Streaming expectation)
    (taken : self.step .stop = some next) : next.Streaming expectation := by
  cases taken
  refine held.keeps ?_ (TcpServerSender.stop_quiet _ _ _).keepsStreams
  simp only [pendings, Interleaving.Pool.launch, List.filterMap_append, List.filterMap_cons,
    TcpServerSender.stop_pending, List.filterMap_nil, List.append_nil]

theorem cancelBroadcast_streaming (held : self.Streaming expectation) {task : Nat}
    (taken : self.step (.cancelBroadcast task) = some next) : next.Streaming expectation := by
  obtain rfl := step_cancelBroadcast_eq_some taken
  exact held.keeps rfl (TcpServerSender.KeepsStreams.of_same rfl rfl (Finset.Subset.refl _))

theorem tick_streaming (held : self.Streaming expectation) {now : ℚ}
    (taken : self.step (.tick now) = some next) : next.Streaming expectation := by
  obtain ⟨_, rfl⟩ := step_tick_eq_some taken
  exact held.keeps rfl (TcpServerSender.KeepsStreams.of_same rfl rfl (Finset.Subset.refl _))

theorem updateHeader_streaming (held : self.Streaming expectation) {sendHeaderOnConnect : Bool}
    {headerPayload : Option (Payload τ)}
    (taken : self.step (.updateHeader sendHeaderOnConnect headerPayload) = some next) :
    next.Streaming { expectation with settings := next.shared.settings } := by
  cases taken
  exact ⟨held.single, held.accepts, { held.streams with settings := rfl }⟩

theorem broadcast_empty_streaming (held : self.Streaming expectation) {payload : Payload τ}
    {order : List ι} (taken : self.step (.broadcast payload order) = some next)
    (empty : payload.bytes = []) : next.Streaming expectation := by
  obtain ⟨_, _, rfl⟩ := step_broadcast_eq_some taken
  refine held.keeps ?_ ?_
  · simp only [pendings, Interleaving.Pool.launch, TcpServerSender.broadcast, if_pos empty,
      List.filterMap_append]
    simp [Point.pending]
  · simp only [Interleaving.Pool.launch, TcpServerSender.broadcast, if_pos empty]
    exact TcpServerSender.KeepsStreams.of_same rfl rfl (Finset.Subset.refl _)

theorem connect_pendings (id : ι) (lenient : Bool) :
    (self.connect id).pendings lenient = self.pendings lenient := by
  simp only [connect, pendings, Interleaving.Pool.launch, List.filterMap_append,
    List.filterMap_cons, TcpServerSender.greet_pending, TcpServerSender.accept,
    List.filterMap_nil, List.append_nil]
  simp [Point.pending]

/-- The header has to be what is expected of a new client. -/
theorem connect_streaming (held : self.Streaming expectation) {id : ι}
    (taken : self.step (.connect id) = some next)
    (everyone : expectation.everyone self.shared.settings.firstAccepted)
    (fresh : self.shared.settings.turnsAway = false →
      expectation.upToDate self.shared.settings.firstAccepted)
    (waits : id ∈ (self.pendings expectation.lenient).flatMap (·.2) →
      expectation.awaiting self.shared.settings.firstAccepted) : next.Streaming expectation := by
  obtain rfl := step_connect_eq_some taken
  obtain ⟨joins, turned⟩ := TcpServerSender.greet_joins self.shared
    (self.launch (·.accept id self.points.length)).points
    (self.launch (·.accept id self.points.length)).points.length id self.points.length
  constructor
  · rw [connect_pendings]
    exact held.single
  · rw [connect_pendings]
    exact held.accepts
  · rw [connect_pendings]
    refine joins.streams held.streams everyone ?_ waits
    intro ready _
    refine fresh ?_
    by_contra turns
    exact turned (Bool.not_eq_false _ ▸ turns) ready

theorem own_streaming (held : self.Streaming expectation) {action : ServerAction ι τ}
    (own : action.isOwn = true)
    (everyone : expectation.everyone self.shared.settings.firstAccepted)
    (fresh : self.shared.settings.turnsAway = false →
      expectation.upToDate self.shared.settings.firstAccepted)
    (waits : ∀ id, action = .connect id →
      id ∈ (self.pendings expectation.lenient).flatMap (·.2) →
        expectation.awaiting self.shared.settings.firstAccepted)
    (taken : self.step action = some next) : next.Streaming expectation := by
  cases action with
  | connect id => exact connect_streaming held taken everyone fresh (waits id rfl)
  | resume task ok => exact resume_streaming held taken
  | closeCancelled task => exact closeCancelled_streaming held taken
  | tick now => exact tick_streaming held taken
  | _ => cases own

/-- A broadcast begins when none is pending; it changes what is expected. -/
theorem broadcast_streaming (held : self.Streaming expectation)
    (idle : self.pendings expectation.lenient = []) {later : Expectation τ}
    (lenient : later.lenient = expectation.lenient) {payload : Payload τ} {order : List ι}
    (settings : later.settings =
      { expectation.settings with sent := expectation.settings.sent ++ [payload] })
    (taken : self.step (.broadcast payload order) = some next)
    (everyone : ∀ accepted, expectation.everyone accepted → later.everyone accepted)
    (waits : ∀ id ∈ self.shared.broadcastReadyClients, ∀ entry,
      self.shared.connectionManager.getClientState id = some entry →
        expectation.upToDate entry.2.accepted → later.awaiting entry.2.accepted)
    (accepts : later.Accepts payload) (full : payload.bytes ≠ []) : next.Streaming later := by
  obtain ⟨distinct, snapshot, rfl⟩ := step_broadcast_eq_some taken
  have before := held.streams
  rw [idle, List.flatMap_nil] at before
  have ready : ∀ id ∈ order, id ∈ self.shared.broadcastReadyClients := by
    intro id member
    rw [← snapshot, List.mem_toFinset]
    exact member
  have waiting : ({ self.shared with sent := self.shared.sent ++ [payload] } :
      TcpServerSender ι τ).Streams later order := by
    refine ⟨?_, before.delivers, fun state member => everyone _ (before.everyone state member),
      ?_, ?_, before.readyNamed, fun id member => before.readyNamed id (ready id member), distinct⟩
    · rw [settings, ← before.settings]
      rfl
    · intro id current absent
      rw [← snapshot, List.mem_toFinset] at current
      exact absurd current absent
    · intro id member entry found
      exact waits id (ready id member) entry found
        (before.upToDate id (ready id member) List.not_mem_nil entry found)
  refine broadcastTo_streaming self.points self.points.length accepts waiting ?_ ?_
  · simp only [Interleaving.Pool.launch, TcpServerSender.broadcast, if_neg full]
  · rw [lenient]
    unfold pendings at idle
    simp only [pendings, Interleaving.Pool.launch, List.filterMap_append, idle,
      List.filterMap_cons, TcpServerSender.broadcast, if_neg full]
    cases (TcpServerSender.broadcastTo self.points self.points.length payload order
      { self.shared with sent := self.shared.sent ++ [payload] }).2.pending expectation.lenient <;>
      rfl

end System

end TcpSim.Transport
