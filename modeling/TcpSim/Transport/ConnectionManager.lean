import TcpSim.Engine.Framer
import TcpSim.Lib.Dict
import Mathlib.Data.Rat.Defs

/-! The per-client queues of the TCP server. The dictionary maps a client's name to the
state object it registered last; the objects live on, numbered as they were created. -/

set_option autoImplicit false

namespace TcpSim.Transport

open Engine

structure QueueThresholds where
  highWatermarkBytes : Int := 262144
  lowWatermarkBytes : Int := 131072
  hardCapBytes : Int := 524288
  slowClientTimeoutSeconds : ℚ := 10

/-- Bytes to send. The tag says where they come from and is read by no function. -/
structure Payload (τ : Type) where
  bytes : Bytes
  tag : τ
  deriving DecidableEq, Repr

/-- A stream writer: what was handed to it, and whether `close` was called. -/
structure StreamWriter (τ : Type) where
  written : List (Payload τ) := []
  closed : Bool := false
  deriving DecidableEq, Repr

structure ClientState (ι τ : Type) where
  clientId : ι
  writer : StreamWriter τ := {}
  queuedPayloads : List (Payload τ) := []
  queuedBytes : Int := 0
  blocked : Bool := false
  blockedSince : Option ℚ := none
  /-- History: what `enqueue_payload` accepted. -/
  accepted : List (Payload τ) := []
  deriving DecidableEq, Repr

/-- A name stands for a state object made for it. -/
structure ConnectionManager (ι τ : Type) where
  thresholds : QueueThresholds
  clients : Dict ι Nat
  states : List (ClientState ι τ)
  registered : ∀ id connection, clients.get? id = some connection →
    states[connection]?.map (·.clientId) = some id

/-- Why `enqueue_payload` did not accept a payload. -/
inductive Rejection where
  | clientNotFound
  | hardCapExceeded
  deriving DecidableEq, Repr

variable {ι τ : Type}

/-! ## One client's queue -/

namespace ClientState

variable (self : ClientState ι τ) (thresholds : QueueThresholds) (now : ℚ)

/-- `_update_blocked_state`, at the given reading of the clock. -/
def updateBlocked : ClientState ι τ :=
  if self.queuedBytes ≥ thresholds.highWatermarkBytes then
    if self.blocked then self else { self with blocked := true, blockedSince := some now }
  else if self.queuedBytes ≤ thresholds.lowWatermarkBytes then
    { self with blocked := false, blockedSince := none }
  else self

@[simp] theorem updateBlocked_clientId :
    (self.updateBlocked thresholds now).clientId = self.clientId := by
  unfold updateBlocked
  split_ifs <;> rfl

@[simp] theorem updateBlocked_writer :
    (self.updateBlocked thresholds now).writer = self.writer := by
  unfold updateBlocked
  split_ifs <;> rfl

@[simp] theorem updateBlocked_queuedPayloads :
    (self.updateBlocked thresholds now).queuedPayloads = self.queuedPayloads := by
  unfold updateBlocked
  split_ifs <;> rfl

@[simp] theorem updateBlocked_accepted :
    (self.updateBlocked thresholds now).accepted = self.accepted := by
  unfold updateBlocked
  split_ifs <;> rfl

/-- The payload does not take the queue over the hard cap. -/
def fits (payload : Payload τ) : Bool :=
  self.queuedBytes + payload.bytes.length ≤ thresholds.hardCapBytes

/-- An accepted payload. -/
def push (payload : Payload τ) : ClientState ι τ :=
  { self with
    queuedPayloads := self.queuedPayloads ++ [payload]
    queuedBytes := self.queuedBytes + payload.bytes.length
    accepted := self.accepted ++ [payload] }.updateBlocked thresholds now

/-- The payload at the head of the queue is taken off. -/
def shift (payload : Payload τ) : ClientState ι τ :=
  { self with
    queuedPayloads := self.queuedPayloads.tail
    queuedBytes := max 0 (self.queuedBytes - payload.bytes.length) }.updateBlocked thresholds now

/-- Accepted payloads have been handed to the writer or are in the queue, in their order. -/
def Delivers : Prop := self.writer.written ++ self.queuedPayloads = self.accepted

def write (payload : Payload τ) : ClientState ι τ :=
  { self with writer.written := self.writer.written ++ [payload] }

def close : ClientState ι τ := { self with writer.closed := true }

variable {self} {thresholds} {now} {payload : Payload τ}

theorem Delivers.push (delivers : self.Delivers) : (self.push thresholds now payload).Delivers := by
  unfold Delivers at delivers ⊢
  simp [ClientState.push, ← delivers]

theorem Delivers.send (delivers : self.Delivers) {rest : List (Payload τ)}
    (queued : self.queuedPayloads = payload :: rest) :
    ((self.shift thresholds now payload).write payload).Delivers := by
  unfold Delivers at delivers ⊢
  rw [queued] at delivers
  simp [ClientState.shift, ClientState.write, queued, ← delivers]

end ClientState

/-! ## The manager -/

namespace ConnectionManager

def empty (thresholds : QueueThresholds) : ConnectionManager ι τ where
  thresholds := thresholds
  clients := Dict.empty
  states := []
  registered := by
    intro id connection found
    cases found

variable (self : ConnectionManager ι τ)

/-- `get_client_state`, with the number of the state. -/
def getClientState (id : ι) : Option (Nat × ClientState ι τ) := do
  let connection ← self.clients.get? id
  return (connection, ← self.states[connection]?)

def updateState (connection : Nat) (update : ClientState ι τ → ClientState ι τ)
    (named : ∀ state, (update state).clientId = state.clientId) : ConnectionManager ι τ where
  thresholds := self.thresholds
  clients := self.clients
  states := self.states.modify connection update
  registered := by
    intro id other found
    have present := self.registered id other found
    rw [List.getElem?_modify]
    cases state : self.states[other]? with
    | none =>
        rw [state] at present
        cases present
    | some state' =>
        rw [state] at present
        simp only [Option.map_eq_map, Option.map_some] at present ⊢
        split <;> simp_all

def listClientIds : List ι := self.clients.keys

def enqueuePayload (now : ℚ) (id : ι) (payload : Payload τ) :
    Except Rejection (ConnectionManager ι τ) :=
  match self.getClientState id with
  | none => .error .clientNotFound
  | some (connection, state) =>
      if state.fits self.thresholds payload then
        .ok (self.updateState connection (·.push self.thresholds now payload)
          (by simp [ClientState.push]))
      else .error .hardCapExceeded

def popNextPayload (now : ℚ) (id : ι) : Option (Payload τ × ConnectionManager ι τ) :=
  match self.getClientState id with
  | none => none
  | some (connection, state) =>
      match state.queuedPayloads with
      | [] => none
      | payload :: _ =>
          some (payload, self.updateState connection (·.shift self.thresholds now payload)
            (by simp [ClientState.shift]))

def isCandidate (now : ℚ) (id : ι) : Bool :=
  match self.getClientState id with
  | none => false
  | some (_, state) =>
      match state.blocked, state.blockedSince with
      | true, some since => now - since ≥ self.thresholds.slowClientTimeoutSeconds
      | _, _ => false

def getDisconnectCandidates (now : ℚ) : List ι :=
  self.clients.keys.filter (self.isCandidate now)

/-- `writer.write` and `writer.close` of a connection. -/
def write (connection : Nat) (payload : Payload τ) : ConnectionManager ι τ :=
  self.updateState connection (·.write payload) (fun _ => rfl)

def close (connection : Nat) : ConnectionManager ι τ :=
  self.updateState connection (·.close) (fun _ => rfl)

section Registration

variable [DecidableEq ι]

/-- `register_client`: a client of the same name loses its entry to the new one. -/
def registerClient (id : ι) : ConnectionManager ι τ where
  thresholds := self.thresholds
  clients := self.clients.set id self.states.length
  states := self.states ++ [{ clientId := id }]
  registered := by
    intro other connection found
    by_cases same : other = id
    · subst same
      rw [Dict.set_get?_self] at found
      obtain rfl := Option.some.inj found
      simp
    · rw [Dict.set_get?_of_ne _ same] at found
      have present := self.registered other connection found
      have inside : connection < self.states.length := by
        by_contra outside
        rw [List.getElem?_eq_none (by omega)] at present
        cases present
      rw [List.getElem?_append_left inside]
      exact present

def unregisterClient (id : ι) : ConnectionManager ι τ where
  thresholds := self.thresholds
  clients := self.clients.pop id
  states := self.states
  registered := by
    intro other connection found
    by_cases same : other = id
    · subst same
      rw [Dict.pop_get?_self] at found
      cases found
    · rw [Dict.pop_get?_of_ne _ same] at found
      exact self.registered other connection found

end Registration

/-! ## Registered clients have a state, and queues do not register or unregister -/

section Lookup

variable {self after : ConnectionManager ι τ} {id other : ι}

theorem getClientState_eq_some {connection : Nat} {state : ClientState ι τ} :
    self.getClientState id = some (connection, state) ↔
      self.clients.get? id = some connection ∧ self.states[connection]? = some state := by
  unfold getClientState
  cases self.clients.get? id with
  | none => simp
  | some entry =>
      simp only [Option.bind_eq_bind, Option.bind_some, Option.bind_eq_some_iff, Option.pure_def,
        Option.some.injEq, Prod.mk.injEq]
      constructor
      · intro read
        obtain ⟨_, present, rfl, rfl⟩ := read
        exact ⟨rfl, present⟩
      · intro read
        obtain ⟨rfl, present⟩ := read
        exact ⟨state, present, rfl, rfl⟩

theorem getClientState_of_found {connection : Nat}
    (found : self.clients.get? id = some connection) :
    ∃ state, self.getClientState id = some (connection, state) ∧ state.clientId = id := by
  obtain ⟨state, present, named⟩ := Option.map_eq_some_iff.mp (self.registered id connection found)
  exact ⟨state, getClientState_eq_some.mpr ⟨found, present⟩, named⟩

theorem getClientState_isSome :
    (self.getClientState id).isSome = (self.clients.get? id).isSome := by
  cases found : self.clients.get? id with
  | none => simp [getClientState, found]
  | some connection =>
      obtain ⟨state, present, _⟩ := getClientState_of_found found
      rw [present]
      rfl

theorem connection_ne {connection otherConnection : Nat}
    (found : self.clients.get? id = some connection)
    (otherFound : self.clients.get? other = some otherConnection) (distinct : other ≠ id) :
    connection ≠ otherConnection := by
  intro same
  subst same
  have named := self.registered id connection found
  rw [self.registered other connection otherFound] at named
  exact distinct (Option.some.inj named)

theorem updateState_getClientState (connection : Nat) (update : ClientState ι τ → ClientState ι τ)
    (named : ∀ state, (update state).clientId = state.clientId) :
    (self.updateState connection update named).getClientState id =
      (self.getClientState id).map fun entry =>
        (entry.1, if connection = entry.1 then update entry.2 else entry.2) := by
  unfold getClientState updateState
  cases self.clients.get? id with
  | none => rfl
  | some found =>
      simp only [Option.bind_eq_bind, Option.bind_some, List.getElem?_modify, Option.map_eq_map]
      cases self.states[found]? <;> simp

theorem updateState_updateState (self : ConnectionManager ι τ) (connection : Nat)
    (first second : ClientState ι τ → ClientState ι τ)
    (firstNamed : ∀ state, (first state).clientId = state.clientId)
    (secondNamed : ∀ state, (second state).clientId = state.clientId) :
    (self.updateState connection first firstNamed).updateState connection second secondNamed =
      self.updateState connection (fun state => second (first state))
        (fun state => (secondNamed (first state)).trans (firstNamed state)) := by
  unfold updateState
  simp only [mk.injEq, true_and]
  apply List.ext_getElem?
  intro index
  simp only [List.getElem?_modify, Option.map_eq_map, Option.map_map]
  congr 1
  funext state
  simp only [Function.comp]
  split <;> rfl

theorem updateState_names (connection : Nat) (update : ClientState ι τ → ClientState ι τ)
    (named : ∀ state, (update state).clientId = state.clientId) :
    (self.updateState connection update named).states.map (·.clientId) =
      self.states.map (·.clientId) := by
  apply List.ext_getElem?
  intro index
  simp only [updateState, List.getElem?_map, List.getElem?_modify, Option.map_eq_map,
    Option.map_map]
  congr 1
  funext state
  simp only [Function.comp]
  split
  · exact named state
  · rfl

theorem updateState_mem {connection : Nat} {update : ClientState ι τ → ClientState ι τ}
    (named : ∀ state, (update state).clientId = state.clientId) {state : ClientState ι τ}
    (member : state ∈ (self.updateState connection update named).states) :
    (∃ old, self.states[connection]? = some old ∧ state = update old) ∨ state ∈ self.states := by
  obtain ⟨index, found⟩ := List.mem_iff_getElem?.mp member
  simp only [updateState, List.getElem?_modify, Option.map_eq_map, Option.map_eq_some_iff] at found
  obtain ⟨old, present, rfl⟩ := found
  split
  next here => exact Or.inl ⟨old, by rw [here, present], rfl⟩
  · exact Or.inr (List.mem_of_getElem? present)

theorem updateState_getClientState_self {connection : Nat} {state : ClientState ι τ}
    (found : self.getClientState id = some (connection, state))
    (update : ClientState ι τ → ClientState ι τ)
    (named : ∀ state, (update state).clientId = state.clientId) :
    (self.updateState connection update named).getClientState id =
      some (connection, update state) := by
  rw [updateState_getClientState, found]
  simp

theorem updateState_getClientState_of_ne {connection : Nat}
    (found : self.clients.get? id = some connection) (distinct : other ≠ id)
    (update : ClientState ι τ → ClientState ι τ)
    (named : ∀ state, (update state).clientId = state.clientId) :
    (self.updateState connection update named).getClientState other =
      self.getClientState other := by
  rw [updateState_getClientState]
  cases entry : self.getClientState other with
  | none => rfl
  | some pair =>
      obtain ⟨otherConnection, state⟩ := pair
      have elsewhere := connection_ne found (getClientState_eq_some.mp entry).1 distinct
      simp [elsewhere]

variable {now : ℚ} {payload : Payload τ}

theorem enqueuePayload_eq_ok (accepted : self.enqueuePayload now id payload = .ok after) :
    ∃ connection state, self.getClientState id = some (connection, state) ∧
      state.fits self.thresholds payload = true ∧
      after = self.updateState connection (·.push self.thresholds now payload)
        (by simp [ClientState.push]) := by
  unfold enqueuePayload at accepted
  split at accepted
  · cases accepted
  next connection state found =>
    split at accepted
    next fits =>
      cases accepted
      exact ⟨connection, state, found, fits, rfl⟩
    · cases accepted

theorem enqueuePayload_eq_error {rejection : Rejection}
    (rejected : self.enqueuePayload now id payload = .error rejection) :
    (self.getClientState id = none ∧ rejection = .clientNotFound) ∨
    ∃ connection state, self.getClientState id = some (connection, state) ∧
      state.fits self.thresholds payload = false ∧ rejection = .hardCapExceeded := by
  unfold enqueuePayload at rejected
  split at rejected
  next absent =>
    cases rejected
    exact Or.inl ⟨absent, rfl⟩
  next connection state found =>
    split at rejected
    · cases rejected
    next unfit =>
      cases rejected
      exact Or.inr ⟨connection, state, found, Bool.eq_false_iff.mpr unfit, rfl⟩

theorem enqueuePayload_clients (accepted : self.enqueuePayload now id payload = .ok after) :
    after.clients = self.clients := by
  obtain ⟨_, _, _, _, rfl⟩ := enqueuePayload_eq_ok accepted
  rfl

theorem popNextPayload_eq_some
    (popped : self.popNextPayload now id = some (payload, after)) :
    ∃ connection state rest, self.getClientState id = some (connection, state) ∧
      state.queuedPayloads = payload :: rest ∧
      after = self.updateState connection (·.shift self.thresholds now payload)
        (by simp [ClientState.shift]) := by
  unfold popNextPayload at popped
  split at popped
  · cases popped
  next connection state found =>
    split at popped
    · cases popped
    next head rest queued =>
      cases popped
      exact ⟨connection, state, rest, found, queued, rfl⟩

end Lookup

/-! ## What a broadcast finds -/

section Admission

variable (self : ConnectionManager ι τ)

def queueOf (id : ι) : Option (List (Payload τ)) :=
  (self.getClientState id).map (·.2.queuedPayloads)

/-- A registered client whose queue takes the payload. -/
def admits (id : ι) (payload : Payload τ) : Prop :=
  ∃ entry, self.getClientState id = some entry ∧ entry.2.fits self.thresholds payload = true

/-- A registered client whose queue would go over the hard cap. -/
def rejects (id : ι) (payload : Payload τ) : Prop :=
  ∃ entry, self.getClientState id = some entry ∧ entry.2.fits self.thresholds payload = false

variable {self} {after : ConnectionManager ι τ} {now : ℚ} {id other : ι} {payload : Payload τ}

theorem enqueuePayload_getClientState_of_ne
    (accepted : self.enqueuePayload now id payload = .ok after) (distinct : other ≠ id) :
    after.getClientState other = self.getClientState other := by
  obtain ⟨connection, state, found, _, rfl⟩ := enqueuePayload_eq_ok accepted
  exact updateState_getClientState_of_ne (getClientState_eq_some.mp found).1 distinct _ _

theorem enqueuePayload_thresholds (accepted : self.enqueuePayload now id payload = .ok after) :
    after.thresholds = self.thresholds := by
  obtain ⟨_, _, _, _, rfl⟩ := enqueuePayload_eq_ok accepted
  rfl

theorem close_getClientState (connection : Nat) :
    (self.close connection).getClientState id =
      (self.getClientState id).map fun entry =>
        (entry.1, if connection = entry.1 then entry.2.close else entry.2) :=
  updateState_getClientState connection _ _

theorem close_queueOf (connection : Nat) : (self.close connection).queueOf id = self.queueOf id := by
  unfold queueOf
  rw [close_getClientState, Option.map_map]
  congr 1
  funext entry
  simp only [Function.comp]
  split <;> rfl

theorem rejects_of_error {rejection : Rejection} {found : Nat × ClientState ι τ}
    (registered : self.getClientState id = some found)
    (rejected : self.enqueuePayload now id payload = .error rejection) :
    self.rejects id payload ∧ rejection = .hardCapExceeded := by
  rcases enqueuePayload_eq_error rejected with ⟨absent, _⟩ | ⟨_, _, present, unfit, reason⟩
  · rw [absent] at registered
    cases registered
  · exact ⟨⟨_, present, unfit⟩, reason⟩

end Admission

end ConnectionManager

end TcpSim.Transport
