import TcpSim.Lib.Hysteresis
import TcpSim.Transport.ManagerRuns

/-! Slow clients: those whose queue reached the high watermark long enough ago and has not
been down to the low watermark since, by the record of their queue sizes. -/

set_option autoImplicit false

namespace TcpSim.Transport

open Hysteresis

variable {ι τ : Type}

section Samples

variable [DecidableEq ι] (id : ι)

def Performed.sampleOf : Performed ι τ → Option (Sample ℚ Int)
  | .accepted other _ now queuedBytes => if other = id then some ⟨now, queuedBytes⟩ else none
  | .popped other _ now queuedBytes => if other = id then some ⟨now, queuedBytes⟩ else none
  | _ => none

/-- The sizes of the client's queue since its registration, after each accepted payload and
each pop. -/
def samplesSince (performed : List (Performed ι τ)) : List (Sample ℚ Int) :=
  sinceRegistration id (Performed.sampleOf id) performed

variable {id}

theorem samplesSince_elsewhere {entry : Performed ι τ} (elsewhere : entry.concerns id = false)
    (performed : List (Performed ι τ)) :
    samplesSince id (performed ++ [entry]) = samplesSince id performed := by
  apply sinceRegistration_elsewhere elsewhere
  cases entry with
  | accepted other payload now queued => exact if_neg (of_decide_eq_false elsewhere)
  | popped other payload now queued => exact if_neg (of_decide_eq_false elsewhere)
  | _ => rfl

end Samples

/-! ## The blocked mark -/

def QueueThresholds.mark (thresholds : QueueThresholds) (samples : List (Sample ℚ Int)) :
    Option ℚ :=
  Hysteresis.mark thresholds.lowWatermarkBytes thresholds.highWatermarkBytes samples

/-- The two fields tell the mark. -/
structure ClientState.Marked (state : ClientState ι τ) (mark : Option ℚ) : Prop where
  since : state.blockedSince = mark
  blocked : state.blocked = mark.isSome

theorem ClientState.Marked.updateBlocked {state : ClientState ι τ} {mark : Option ℚ}
    (marked : state.Marked mark) (thresholds : QueueThresholds) (now : ℚ) :
    (state.updateBlocked thresholds now).Marked
      (update thresholds.lowWatermarkBytes thresholds.highWatermarkBytes mark
        ⟨now, state.queuedBytes⟩) := by
  obtain ⟨since, blocked⟩ := marked
  unfold ClientState.updateBlocked update
  split
  next reaches =>
      split
      next isBlocked =>
          rw [blocked] at isBlocked
          obtain ⟨time, is⟩ := Option.isSome_iff_exists.mp isBlocked
          rw [is] at since blocked
          exact ⟨by simpa [is] using since, by simpa using blocked⟩
      next free =>
          rw [blocked, Bool.not_eq_true, Option.isSome_eq_false_iff, Option.isNone_iff_eq_none]
            at free
          rw [free]
          exact ⟨rfl, rfl⟩
  next below =>
      split
      next calm => exact ⟨rfl, rfl⟩
      next above => exact ⟨since, blocked⟩

section Runs

variable [DecidableEq ι]

theorem marked_effect {thresholds : QueueThresholds} {id : ι} {entry : Performed ι τ}
    {before : Option (ClientState ι τ)} {after : ClientState ι τ}
    {performed : List (Performed ι τ)} (effect : Effect thresholds id entry before (some after))
    (marked : ∀ state, before = some state →
      state.Marked (thresholds.mark (samplesSince id performed))) :
    after.Marked (thresholds.mark (samplesSince id (performed ++ [entry]))) := by
  cases effect with
  | registers before =>
      have none_ : samplesSince id (performed ++ [.registered id]) = [] := by
        simp [samplesSince, sinceRegistration_snoc]
      rw [none_]
      exact ⟨rfl, rfl⟩
  | pushes state payload now fits =>
      have snoc : samplesSince id (performed ++
          [.accepted id payload now (state.push thresholds now payload).queuedBytes]) =
          samplesSince id performed ++ [⟨now, state.queuedBytes + payload.bytes.length⟩] := by
        simp [samplesSince, sinceRegistration_snoc, Performed.sampleOf, ClientState.push]
      rw [snoc, QueueThresholds.mark, mark_snoc]
      obtain ⟨since, blocked⟩ := marked state rfl
      apply ClientState.Marked.updateBlocked
      exact ⟨since, blocked⟩
  | shifts state payload now rest queued =>
      have snoc : samplesSince id (performed ++
          [.popped id payload now (state.shift thresholds now payload).queuedBytes]) =
          samplesSince id performed ++
            [⟨now, max 0 (state.queuedBytes - payload.bytes.length)⟩] := by
        simp [samplesSince, sinceRegistration_snoc, Performed.sampleOf, ClientState.shift]
      rw [snoc, QueueThresholds.mark, mark_snoc]
      obtain ⟨since, blocked⟩ := marked state rfl
      apply ClientState.Marked.updateBlocked
      exact ⟨since, blocked⟩
  | rests entry before elsewhere =>
      rw [samplesSince_elsewhere elsewhere]
      exact marked after rfl

theorem client_marked {thresholds : QueueThresholds} {calls : List (ManagerCall ι τ)} {id : ι}
    {state : ClientState ι τ}
    (registered : (ManagerRun.afterCalls thresholds calls).client id = some state) :
    state.Marked (thresholds.mark
      (samplesSince id (ManagerRun.afterCalls thresholds calls).performed)) :=
  ManagerRun.client_invariant
    (fun performed state => state.Marked (thresholds.mark (samplesSince id performed)))
    (fun _ _ _ _ effect marked => marked_effect effect marked) calls registered

end Runs

theorem ManagerRun.mem_candidates_iff {self : ManagerRun ι τ} {now : ℚ} {id : ι} :
    id ∈ self.manager.getDisconnectCandidates now ↔
      ∃ state since, self.client id = some state ∧ state.blocked = true ∧
        state.blockedSince = some since ∧
        now - since ≥ self.manager.thresholds.slowClientTimeoutSeconds := by
  have listed : id ∈ self.manager.clients.keys ↔ (self.manager.getClientState id).isSome = true := by
    rw [self.manager.clients.mem_keys, ConnectionManager.getClientState_isSome]
  rw [ConnectionManager.getDisconnectCandidates, List.mem_filter, listed,
    ConnectionManager.isCandidate, ManagerRun.client]
  cases found : self.manager.getClientState id with
  | none => simp
  | some entry =>
      obtain ⟨connection, state⟩ := entry
      cases blocked : state.blocked with
      | false => simp [blocked]
      | true =>
          cases since : state.blockedSince with
          | none => simp [blocked, since]
          | some time => simp [blocked, since]

/-- The candidates are, each once, the clients whose queue first reached the high watermark
long enough ago and has been above the low watermark since. -/
theorem disconnect_candidates_iff [DecidableEq ι] (thresholds : QueueThresholds)
    (apart : thresholds.lowWatermarkBytes < thresholds.highWatermarkBytes)
    (calls : List (ManagerCall ι τ)) :
    let run := ManagerRun.afterCalls thresholds calls
    (∀ now, (run.manager.getDisconnectCandidates now).Nodup ∧
      ∀ id, id ∈ run.manager.getDisconnectCandidates now ↔
        (run.client id).isSome = true ∧
        ∃ sample, Crosses thresholds.lowWatermarkBytes thresholds.highWatermarkBytes
            (samplesSince id run.performed) sample ∧
          now - sample.time ≥ thresholds.slowClientTimeoutSeconds) ∧
    ∀ id state, run.client id = some state →
      (state.blocked = true ↔ state.blockedSince.isSome = true) := by
  intro run
  constructor
  · intro now
    refine ⟨run.manager.clients.nodup.filter _, ?_⟩
    intro id
    rw [ManagerRun.mem_candidates_iff, ManagerRun.afterCalls_thresholds]
    constructor
    · intro candidate
      obtain ⟨state, since, registered, _, marked, long⟩ := candidate
      have mark := (client_marked registered).since.symm.trans marked
      obtain ⟨sample, crosses, rfl⟩ := (mark_eq_some_iff apart).mp mark
      exact ⟨by rw [registered]; rfl, sample, crosses, long⟩
    · intro crossed
      obtain ⟨registered, sample, crosses, long⟩ := crossed
      obtain ⟨state, registered⟩ := Option.isSome_iff_exists.mp registered
      have mark := (mark_eq_some_iff apart).mpr ⟨sample, crosses, rfl⟩
      obtain ⟨since, blocked⟩ := client_marked registered
      rw [QueueThresholds.mark, mark] at since blocked
      exact ⟨state, sample.time, registered, blocked, since, long⟩
  · intro id state registered
    obtain ⟨since, blocked⟩ := client_marked registered
    rw [since, blocked]

/-- Two clients, of which one recovers before its time is up. -/
def oneRecovers : List (ManagerCall String Unit) :=
  [.registerClient "a", .registerClient "b", .enqueuePayload "a" ⟨[1, 2, 3], ()⟩ 0,
    .enqueuePayload "b" ⟨[1, 2], ()⟩ 1, .enqueuePayload "b" ⟨[3], ()⟩ 2, .popNextPayload "b" 3]

theorem disconnect_candidates_one_recovers :
    let thresholds : QueueThresholds :=
      { lowWatermarkBytes := 1, highWatermarkBytes := 3, hardCapBytes := 8 }
    let run := ManagerRun.afterCalls thresholds oneRecovers
    (∀ now, (run.manager.getDisconnectCandidates now).Nodup ∧
      ∀ id, id ∈ run.manager.getDisconnectCandidates now ↔
        (run.client id).isSome = true ∧
        ∃ sample, Crosses thresholds.lowWatermarkBytes thresholds.highWatermarkBytes
            (samplesSince id run.performed) sample ∧
          now - sample.time ≥ thresholds.slowClientTimeoutSeconds) ∧
    ∀ id state, run.client id = some state →
      (state.blocked = true ↔ state.blockedSince.isSome = true) :=
  disconnect_candidates_iff { lowWatermarkBytes := 1, highWatermarkBytes := 3, hardCapBytes := 8 }
    (by decide) oneRecovers

end TcpSim.Transport
