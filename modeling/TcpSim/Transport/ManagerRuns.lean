import Mathlib
import TcpSim.Transport.ConnectionManager

/-! Sequences of calls of the connection manager, with a record of what each of them did, and
the account of every registered client in it. -/

set_option autoImplicit false

namespace TcpSim.Transport

variable {ι τ : Type}

/-! ## Registered clients -/

@[simp] theorem ClientState.updateBlocked_queuedBytes (state : ClientState ι τ)
    (thresholds : QueueThresholds) (now : ℚ) :
    (state.updateBlocked thresholds now).queuedBytes = state.queuedBytes := by
  unfold ClientState.updateBlocked
  split_ifs <;> rfl

namespace ConnectionManager

theorem popNextPayload_getClientState_of_ne {self after : ConnectionManager ι τ} {id other : ι}
    {now : ℚ} {payload : Payload τ} (popped : self.popNextPayload now id = some (payload, after))
    (distinct : other ≠ id) : after.getClientState other = self.getClientState other := by
  obtain ⟨connection, state, rest, found, _, rfl⟩ := popNextPayload_eq_some popped
  exact updateState_getClientState_of_ne (getClientState_eq_some.mp found).1 distinct _
    (by simp [ClientState.shift])

variable [DecidableEq ι] (self : ConnectionManager ι τ) (id : ι)

theorem registerClient_getClientState_self :
    (self.registerClient id).getClientState id = some (self.states.length, { clientId := id }) := by
  apply getClientState_eq_some.mpr
  simp [registerClient]

theorem registerClient_getClientState_of_ne {other : ι} (distinct : other ≠ id) :
    (self.registerClient id).getClientState other = self.getClientState other := by
  have sameEntry : (self.registerClient id).clients.get? other = self.clients.get? other :=
    Dict.set_get?_of_ne _ distinct _
  apply Option.ext
  intro entry
  obtain ⟨connection, state⟩ := entry
  simp only [getClientState_eq_some, sameEntry]
  apply and_congr_right
  intro found
  obtain ⟨present, there, _⟩ := Option.map_eq_some_iff.mp (self.registered other connection found)
  obtain ⟨inside, _⟩ := List.getElem?_eq_some_iff.mp there
  rw [registerClient, List.getElem?_append_left inside]

theorem unregisterClient_getClientState_self :
    (self.unregisterClient id).getClientState id = none := by
  simp [unregisterClient, getClientState]

theorem unregisterClient_getClientState_of_ne {other : ι} (distinct : other ≠ id) :
    (self.unregisterClient id).getClientState other = self.getClientState other := by
  simp [unregisterClient, getClientState, Dict.pop_get?_of_ne _ distinct]

end ConnectionManager

/-! ## Calls -/

/-- The operations; `now` is what the clock shows when the operation reads it. -/
inductive ManagerCall (ι τ : Type) where
  | registerClient (id : ι)
  | unregisterClient (id : ι)
  | enqueuePayload (id : ι) (payload : Payload τ) (now : ℚ)
  | popNextPayload (id : ι) (now : ℚ)

def ManagerCall.client : ManagerCall ι τ → ι
  | .registerClient id => id
  | .unregisterClient id => id
  | .enqueuePayload id _ _ => id
  | .popNextPayload id _ => id

/-- What a call did; `queuedBytes` is the client's count after it. -/
inductive Performed (ι τ : Type) where
  | registered (id : ι)
  | unregistered (id : ι)
  | accepted (id : ι) (payload : Payload τ) (now : ℚ) (queuedBytes : Int)
  | rejected (id : ι) (payload : Payload τ) (rejection : Rejection)
  | popped (id : ι) (payload : Payload τ) (now : ℚ) (queuedBytes : Int)
  | poppedNothing (id : ι)

structure ManagerRun (ι τ : Type) where
  manager : ConnectionManager ι τ
  performed : List (Performed ι τ) := []

namespace ManagerRun

def queuedBytes (manager : ConnectionManager ι τ) (id : ι) : Int :=
  ((manager.getClientState id).map (·.2.queuedBytes)).getD 0

variable [DecidableEq ι] (self : ManagerRun ι τ)

def call : ManagerCall ι τ → ManagerRun ι τ
  | .registerClient id =>
      ⟨self.manager.registerClient id, self.performed ++ [.registered id]⟩
  | .unregisterClient id =>
      ⟨self.manager.unregisterClient id, self.performed ++ [.unregistered id]⟩
  | .enqueuePayload id payload now =>
      match self.manager.enqueuePayload now id payload with
      | .ok manager =>
          ⟨manager, self.performed ++ [.accepted id payload now (queuedBytes manager id)]⟩
      | .error rejection => ⟨self.manager, self.performed ++ [.rejected id payload rejection]⟩
  | .popNextPayload id now =>
      match self.manager.popNextPayload now id with
      | some (payload, manager) =>
          ⟨manager, self.performed ++ [.popped id payload now (queuedBytes manager id)]⟩
      | none => ⟨self.manager, self.performed ++ [.poppedNothing id]⟩

def afterCalls (thresholds : QueueThresholds) (calls : List (ManagerCall ι τ)) : ManagerRun ι τ :=
  calls.foldl call { manager := .empty thresholds }

theorem afterCalls_snoc (thresholds : QueueThresholds) (calls : List (ManagerCall ι τ))
    (call : ManagerCall ι τ) :
    afterCalls thresholds (calls ++ [call]) = (afterCalls thresholds calls).call call := by
  simp [afterCalls]

end ManagerRun

/-! ## The record of one client -/

section Record

variable [DecidableEq ι] (id : ι)

/-- What the calls since the client's latest registration contribute. -/
def sinceRegistration {β : Type} (pick : Performed ι τ → Option β) (performed : List (Performed ι τ)) :
    List β :=
  performed.foldl (fun picked entry =>
    match entry with
    | .registered other => if other = id then [] else picked
    | _ => picked ++ (pick entry).toList) []

def Performed.acceptedBy : Performed ι τ → Option (Payload τ)
  | .accepted other payload _ _ => if other = id then some payload else none
  | _ => none

def Performed.poppedFrom : Performed ι τ → Option (Payload τ)
  | .popped other payload _ _ => if other = id then some payload else none
  | _ => none

/-- The payloads accepted for the client since its registration, in order. -/
def acceptedSince (performed : List (Performed ι τ)) : List (Payload τ) :=
  sinceRegistration id (Performed.acceptedBy id) performed

/-- The payloads popped from the client's queue since its registration, in order. -/
def poppedSince (performed : List (Performed ι τ)) : List (Payload τ) :=
  sinceRegistration id (Performed.poppedFrom id) performed

theorem sinceRegistration_snoc {β : Type} (pick : Performed ι τ → Option β)
    (performed : List (Performed ι τ)) (entry : Performed ι τ) :
    sinceRegistration id pick (performed ++ [entry]) =
      match entry with
      | .registered other => if other = id then [] else sinceRegistration id pick performed
      | _ => sinceRegistration id pick performed ++ (pick entry).toList := by
  rw [sinceRegistration, List.foldl_append]
  rfl

end Record

/-! ## What a call does to one client -/

/-- The entry adds to the record of the client. -/
def Performed.concerns [DecidableEq ι] (id : ι) : Performed ι τ → Bool
  | .registered other => other = id
  | .accepted other _ _ _ => other = id
  | .popped other _ _ _ => other = id
  | _ => false

section Elsewhere

variable [DecidableEq ι] {id : ι} {entry : Performed ι τ}

theorem sinceRegistration_elsewhere {β : Type} {pick : Performed ι τ → Option β}
    (elsewhere : entry.concerns id = false) (nothing : pick entry = none)
    (performed : List (Performed ι τ)) :
    sinceRegistration id pick (performed ++ [entry]) = sinceRegistration id pick performed := by
  rw [sinceRegistration_snoc]
  cases entry with
  | registered other => exact if_neg (of_decide_eq_false elsewhere)
  | _ => simp [nothing]

theorem acceptedSince_elsewhere (elsewhere : entry.concerns id = false)
    (performed : List (Performed ι τ)) :
    acceptedSince id (performed ++ [entry]) = acceptedSince id performed := by
  apply sinceRegistration_elsewhere elsewhere
  cases entry with
  | accepted other payload now queued => exact if_neg (of_decide_eq_false elsewhere)
  | _ => rfl

theorem poppedSince_elsewhere (elsewhere : entry.concerns id = false)
    (performed : List (Performed ι τ)) :
    poppedSince id (performed ++ [entry]) = poppedSince id performed := by
  apply sinceRegistration_elsewhere elsewhere
  cases entry with
  | popped other payload now queued => exact if_neg (of_decide_eq_false elsewhere)
  | _ => rfl

end Elsewhere

/-- How a client's state, if it is registered, changes with an entry of the record. -/
inductive Effect [DecidableEq ι] (thresholds : QueueThresholds) (id : ι) :
    Performed ι τ → Option (ClientState ι τ) → Option (ClientState ι τ) → Prop where
  | registers (before : Option (ClientState ι τ)) :
      Effect thresholds id (.registered id) before (some { clientId := id })
  | unregisters (before : Option (ClientState ι τ)) :
      Effect thresholds id (.unregistered id) before none
  | pushes (state : ClientState ι τ) (payload : Payload τ) (now : ℚ)
      (fits : state.fits thresholds payload = true) :
      Effect thresholds id
        (.accepted id payload now (state.push thresholds now payload).queuedBytes)
        (some state) (some (state.push thresholds now payload))
  | shifts (state : ClientState ι τ) (payload : Payload τ) (now : ℚ) (rest : List (Payload τ))
      (queued : state.queuedPayloads = payload :: rest) :
      Effect thresholds id
        (.popped id payload now (state.shift thresholds now payload).queuedBytes)
        (some state) (some (state.shift thresholds now payload))
  | rests (entry : Performed ι τ) (before : Option (ClientState ι τ))
      (elsewhere : entry.concerns id = false) : Effect thresholds id entry before before

namespace ManagerRun

def client (self : ManagerRun ι τ) (id : ι) : Option (ClientState ι τ) :=
  (self.manager.getClientState id).map Prod.snd

theorem client_of_found {self : ManagerRun ι τ} {id : ι} {connection : Nat}
    {state : ClientState ι τ} (found : self.manager.getClientState id = some (connection, state)) :
    self.client id = some state := by
  rw [client, found]
  rfl

variable [DecidableEq ι]

/-- A client that the call does not name keeps its state. -/
theorem call_getClientState_of_ne (self : ManagerRun ι τ) (call : ManagerCall ι τ) {other : ι}
    (distinct : other ≠ call.client) :
    (self.call call).manager.getClientState other = self.manager.getClientState other := by
  cases call with
  | registerClient id => exact self.manager.registerClient_getClientState_of_ne id distinct
  | unregisterClient id => exact self.manager.unregisterClient_getClientState_of_ne id distinct
  | enqueuePayload id payload now =>
      simp only [ManagerRun.call]
      split
      next manager accepted =>
          exact ConnectionManager.enqueuePayload_getClientState_of_ne accepted distinct
      next => rfl
  | popNextPayload id now =>
      simp only [ManagerRun.call]
      split
      next payload manager popped =>
          exact ConnectionManager.popNextPayload_getClientState_of_ne popped distinct
      next => rfl

theorem call_thresholds (self : ManagerRun ι τ) (call : ManagerCall ι τ) :
    (self.call call).manager.thresholds = self.manager.thresholds := by
  cases call with
  | registerClient id => rfl
  | unregisterClient id => rfl
  | enqueuePayload id payload now =>
      simp only [ManagerRun.call]
      split
      next manager accepted => exact ConnectionManager.enqueuePayload_thresholds accepted
      next => rfl
  | popNextPayload id now =>
      simp only [ManagerRun.call]
      split
      next payload manager popped =>
          obtain ⟨_, _, _, _, _, rfl⟩ := ConnectionManager.popNextPayload_eq_some popped
          rfl
      next => rfl

theorem call_client_of_ne (self : ManagerRun ι τ) (call : ManagerCall ι τ) {id : ι}
    (distinct : call.client ≠ id) : (self.call call).client id = self.client id := by
  rw [client, client, self.call_getClientState_of_ne call distinct.symm]

/-- The call adds one entry to the record, which tells its effect on every client. -/
theorem call_effect (self : ManagerRun ι τ) (call : ManagerCall ι τ) (id : ι) :
    ∃ entry, (self.call call).performed = self.performed ++ [entry] ∧
      Effect self.manager.thresholds id entry (self.client id) ((self.call call).client id) := by
  cases call with
  | registerClient other =>
      refine ⟨_, rfl, ?_⟩
      by_cases own : other = id
      · subst own
        have fresh : (self.call (.registerClient other)).client other =
            some { clientId := other } :=
          client_of_found (self.manager.registerClient_getClientState_self other)
        rw [fresh]
        exact .registers _
      · rw [self.call_client_of_ne (.registerClient other) own]
        exact .rests _ _ (decide_eq_false own)
  | unregisterClient other =>
      refine ⟨_, rfl, ?_⟩
      by_cases own : other = id
      · subst own
        have gone : (self.call (.unregisterClient other)).client other = none :=
          congrArg (Option.map Prod.snd) (self.manager.unregisterClient_getClientState_self other)
        rw [gone]
        exact .unregisters _
      · rw [self.call_client_of_ne (.unregisterClient other) own]
        exact .rests _ _ rfl
  | enqueuePayload other payload now =>
      by_cases own : other = id
      · subst own
        simp only [ManagerRun.call]
        split
        next manager accepted =>
            obtain ⟨connection, state, found, fits, rfl⟩ :=
              ConnectionManager.enqueuePayload_eq_ok accepted
            have after := ConnectionManager.updateState_getClientState_self found
              (·.push self.manager.thresholds now payload) (by simp [ClientState.push])
            refine ⟨_, rfl, ?_⟩
            rw [client_of_found found, client, queuedBytes, after]
            exact .pushes state payload now fits
        next => exact ⟨_, rfl, .rests _ _ rfl⟩
      · rw [self.call_client_of_ne (.enqueuePayload other payload now) own]
        simp only [ManagerRun.call]
        split
        · exact ⟨_, rfl, .rests _ _ (decide_eq_false own)⟩
        · exact ⟨_, rfl, .rests _ _ rfl⟩
  | popNextPayload other now =>
      by_cases own : other = id
      · subst own
        simp only [ManagerRun.call]
        split
        next payload manager popped =>
            obtain ⟨connection, state, rest, found, queued, rfl⟩ :=
              ConnectionManager.popNextPayload_eq_some popped
            have after := ConnectionManager.updateState_getClientState_self found
              (·.shift self.manager.thresholds now payload) (by simp [ClientState.shift])
            refine ⟨_, rfl, ?_⟩
            rw [client_of_found found, client, queuedBytes, after]
            exact .shifts state payload now rest queued
        next => exact ⟨_, rfl, .rests _ _ rfl⟩
      · rw [self.call_client_of_ne (.popNextPayload other now) own]
        simp only [ManagerRun.call]
        split
        · exact ⟨_, rfl, .rests _ _ (decide_eq_false own)⟩
        · exact ⟨_, rfl, .rests _ _ rfl⟩

theorem afterCalls_thresholds (thresholds : QueueThresholds) (calls : List (ManagerCall ι τ)) :
    (afterCalls thresholds calls).manager.thresholds = thresholds := by
  induction calls using List.reverseRecOn with
  | nil => rfl
  | append_singleton calls call ih => rw [afterCalls_snoc, call_thresholds, ih]

/-- What the effects keep of a client's state and record holds of every registered client
after any calls. -/
theorem client_invariant {thresholds : QueueThresholds} {id : ι}
    (inv : List (Performed ι τ) → ClientState ι τ → Prop)
    (kept : ∀ performed entry before after, Effect thresholds id entry before (some after) →
      (∀ state, before = some state → inv performed state) → inv (performed ++ [entry]) after)
    (calls : List (ManagerCall ι τ)) {state : ClientState ι τ}
    (registered : (afterCalls thresholds calls).client id = some state) :
    inv (afterCalls thresholds calls).performed state := by
  induction calls using List.reverseRecOn generalizing state with
  | nil => cases registered
  | append_singleton calls call ih =>
      rw [afterCalls_snoc] at registered ⊢
      obtain ⟨entry, recorded, effect⟩ := (afterCalls thresholds calls).call_effect call id
      rw [afterCalls_thresholds, registered] at effect
      rw [recorded]
      exact kept _ entry _ state effect fun before same => ih same

end ManagerRun

/-! ## Queue accounting -/

section Accounting

variable [DecidableEq ι]

/-- The account of a registered client: what is queued, and the order in which it came. -/
structure ClientState.Accounted (state : ClientState ι τ) (thresholds : QueueThresholds) (id : ι)
    (performed : List (Performed ι τ)) : Prop where
  bytes : state.queuedBytes = ((state.queuedPayloads.map (·.bytes.length)).sum : Nat)
  capped : state.queuedBytes ≤ max 0 thresholds.hardCapBytes
  fifo : poppedSince id performed ++ state.queuedPayloads = acceptedSince id performed

/-- The count never falls below the length of the payload at the head of the queue. -/
theorem ClientState.Accounted.unclamped {state : ClientState ι τ} {thresholds : QueueThresholds}
    {id : ι} {performed : List (Performed ι τ)} (accounted : state.Accounted thresholds id performed)
    {payload : Payload τ} {rest : List (Payload τ)} (queued : state.queuedPayloads = payload :: rest) :
    max 0 (state.queuedBytes - payload.bytes.length) =
      state.queuedBytes - payload.bytes.length := by
  have bytes := accounted.bytes
  rw [queued, List.map_cons, List.sum_cons] at bytes
  omega

theorem accounted_effect {thresholds : QueueThresholds} {id : ι} {entry : Performed ι τ}
    {before : Option (ClientState ι τ)} {after : ClientState ι τ}
    {performed : List (Performed ι τ)} (effect : Effect thresholds id entry before (some after))
    (accounted : ∀ state, before = some state → state.Accounted thresholds id performed) :
    after.Accounted thresholds id (performed ++ [entry]) := by
  cases effect with
  | registers before =>
      refine ⟨rfl, Int.le_max_left _ _, ?_⟩
      simp [poppedSince, acceptedSince, sinceRegistration_snoc]
  | pushes state payload now fits =>
      have old := accounted state rfl
      have room : state.queuedBytes + payload.bytes.length ≤ thresholds.hardCapBytes := by
        simpa [ClientState.fits] using fits
      have fifo := old.fifo
      simp only [poppedSince, acceptedSince] at fifo
      refine ⟨?_, ?_, ?_⟩
      · simp [ClientState.push, old.bytes]
      · simp only [ClientState.push, ClientState.updateBlocked_queuedBytes]
        omega
      · simp [poppedSince, acceptedSince, sinceRegistration_snoc, Performed.acceptedBy,
          Performed.poppedFrom, ClientState.push, ← fifo]
  | shifts state payload now rest queued =>
      have old := accounted state rfl
      have bytes := old.bytes
      rw [queued, List.map_cons, List.sum_cons] at bytes
      have capped := old.capped
      have fifo := old.fifo
      simp only [poppedSince, acceptedSince, queued] at fifo
      refine ⟨?_, ?_, ?_⟩
      · simp only [ClientState.shift, ClientState.updateBlocked_queuedBytes,
          ClientState.updateBlocked_queuedPayloads, queued, List.tail_cons]
        omega
      · simp only [ClientState.shift, ClientState.updateBlocked_queuedBytes]
        omega
      · simp [poppedSince, acceptedSince, sinceRegistration_snoc, Performed.acceptedBy,
          Performed.poppedFrom, ClientState.shift, queued, ← fifo]
  | rests entry before elsewhere =>
      obtain ⟨bytes, capped, fifo⟩ := accounted after rfl
      refine ⟨bytes, capped, ?_⟩
      rw [poppedSince_elsewhere elsewhere, acceptedSince_elsewhere elsewhere, fifo]

/-- After any calls the count of every registered client is exact, within the cap and never
clamped, and its queue is what was accepted and not yet popped; a rejected payload and the
calls for other clients change nothing. -/
theorem client_queues_accounted (thresholds : QueueThresholds) (calls : List (ManagerCall ι τ)) :
    let run := ManagerRun.afterCalls thresholds calls
    (∀ id state, run.client id = some state →
      state.queuedBytes = ((state.queuedPayloads.map (·.bytes.length)).sum : Nat) ∧
      0 ≤ state.queuedBytes ∧ state.queuedBytes ≤ max 0 thresholds.hardCapBytes ∧
      (∀ payload rest, state.queuedPayloads = payload :: rest →
        max 0 (state.queuedBytes - payload.bytes.length) =
          state.queuedBytes - payload.bytes.length) ∧
      poppedSince id run.performed ++ state.queuedPayloads = acceptedSince id run.performed) ∧
    (∀ id payload now rejection,
      run.manager.enqueuePayload now id payload = .error rejection →
        (run.call (.enqueuePayload id payload now)).manager = run.manager) ∧
    ∀ call other, other ≠ call.client →
      (run.call call).manager.getClientState other = run.manager.getClientState other := by
  intro run
  refine ⟨?_, ?_, fun call other distinct => run.call_getClientState_of_ne call distinct⟩
  · intro id state registered
    have accounted := ManagerRun.client_invariant
      (fun performed state => state.Accounted thresholds id performed)
      (fun performed entry before after effect accounted => accounted_effect effect accounted)
      calls registered
    refine ⟨accounted.bytes, ?_, accounted.capped, ?_, accounted.fifo⟩
    · rw [accounted.bytes]
      exact Int.natCast_nonneg _
    · exact fun payload rest queued => accounted.unclamped queued
  · intro id payload now rejection rejected
    rw [ManagerRun.call, rejected]

/-- With a negative hard cap a client is over it as soon as it is registered. -/
theorem empty_queue_exceeds_negative_cap :
    let thresholds : QueueThresholds :=
      { lowWatermarkBytes := -3, highWatermarkBytes := -2, hardCapBytes := -1 }
    thresholds.lowWatermarkBytes < thresholds.highWatermarkBytes ∧
      thresholds.highWatermarkBytes ≤ thresholds.hardCapBytes ∧
      ∃ state, (ManagerRun.afterCalls thresholds
          [.registerClient "a"] : ManagerRun String Unit).client "a" = some state ∧
        ¬state.queuedBytes ≤ thresholds.hardCapBytes := by
  refine ⟨by decide, by decide, { clientId := "a" }, rfl, by decide⟩

end Accounting

end TcpSim.Transport
