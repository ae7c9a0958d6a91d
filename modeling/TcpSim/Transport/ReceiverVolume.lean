import Mathlib
import TcpSim.Engine.FramerVolume
import TcpSim.Transport.TcpReceiverProperties

/-! How much payload the peers of a receiver may still deliver before they look at
the pause again. -/

set_option autoImplicit false

namespace TcpSim.Transport

open Engine

variable {P : Nat}

/-! ## The peers' framers -/

structure TcpReceiver.Sound (receiver : TcpReceiver P) (config : ReceiverConfig) : Prop where
  configured : receiver.config = config
  framers : ∀ i, (receiver.peers i).framer.Sound config.maxRecordBytes

section Sound

variable {receiver : TcpReceiver P} {config : ReceiverConfig}
  (sound : receiver.Sound config)

include sound

theorem TcpReceiver.Sound.similar {after : TcpReceiver P} (same : receiver.Similar after) :
    after.Sound config where
  configured := same.config.trans sound.configured
  framers := by
    intro i
    rw [same.framer i]
    exact sound.framers i

theorem TcpReceiver.Sound.setPeer {i : Fin P} {peer : Peer}
    (framer : peer.framer.Sound config.maxRecordBytes) :
    (receiver.setPeer i peer).Sound config where
  configured := sound.configured
  framers := by
    intro j
    by_cases this : j = i
    · subst this
      rw [receiver.setPeer_self]
      exact framer
    · rw [receiver.setPeer_other this]
      exact sound.framers j

theorem TcpReceiver.Sound.setPoint (i : Fin P) (point : PeerPoint) :
    (receiver.setPoint i point).Sound config :=
  sound.setPeer (sound.framers i)

theorem TcpReceiver.Sound.disconnect (i : Fin P) (reason : CloseReason) :
    (receiver.disconnect i reason).Sound config :=
  ⟨sound.configured, (sound.setPoint i (.closed reason)).framers⟩

theorem TcpReceiver.Sound.takeChunk (i : Fin P) (n : Nat) :
    (receiver.takeChunk i n).2.Sound config := by
  have fed := (Framer.feed_volume (sound.framers i) ((receiver.peers i).incoming.take n)).1
  have counted : { receiver with bytesReceived := receiver.bytesReceived + n }.Sound config :=
    ⟨sound.configured, sound.framers⟩
  exact @TcpReceiver.Sound.setPeer P _ config counted i ((receiver.peers i).afterChunk n) fed

theorem TcpReceiver.Sound.takeTrailing (i : Fin P) :
    (receiver.takeTrailing i).2.Sound config :=
  @TcpReceiver.Sound.setPeer P receiver config sound i (receiver.peers i).afterFlush
    (Framer.flush_volume (sound.framers i)).1

end Sound

/-! ## What the peers may still deliver -/

/-- The payload a peer may deliver before it looks at the pause again. -/
def Peer.allowance (self : Peer) (chunk : Nat) : Nat :=
  match self.point with
  | .connected => self.framer.held
  | .woken | .reading => self.framer.held + chunk
  | .waiting | .closed _ => 0

theorem Peer.allowance_le {peer : Peer} {max : Nat} (sound : peer.framer.Sound max)
    (chunk : Nat) : peer.allowance chunk ≤ chunk + max := by
  have held := sound.held_le
  unfold Peer.allowance
  split <;> omega

/-- The peer does not read before the pause is looked at. -/
def Peer.Idle (peer : Peer) : Prop :=
  peer.point = .waiting ∨ ∃ reason, peer.point = .closed reason

theorem Peer.Idle.allowance_eq {peer : Peer} (idle : peer.Idle) (chunk : Nat) :
    peer.allowance chunk = 0 := by
  rcases idle with waiting | ⟨reason, closed⟩
  · simp [Peer.allowance, waiting]
  · simp [Peer.allowance, closed]

def TcpReceiver.overhang (self : TcpReceiver P) (chunk : Nat) : Nat :=
  ∑ i, (self.peers i).allowance chunk

theorem TcpReceiver.overhang_le {receiver : TcpReceiver P} {config : ReceiverConfig}
    (sound : receiver.Sound config) (chunk : Nat) :
    receiver.overhang chunk ≤ P * (chunk + config.maxRecordBytes) := by
  have each := Finset.sum_le_card_nsmul Finset.univ
    (fun i => (receiver.peers i).allowance chunk) (chunk + config.maxRecordBytes)
    fun i _ => Peer.allowance_le (sound.framers i) chunk
  simpa [TcpReceiver.overhang] using each

theorem TcpReceiver.allowance_le_overhang (receiver : TcpReceiver P) (i : Fin P) (chunk : Nat) :
    (receiver.peers i).allowance chunk ≤ receiver.overhang chunk :=
  Finset.single_le_sum (f := fun j => (receiver.peers j).allowance chunk)
    (fun _ _ => Nat.zero_le _) (Finset.mem_univ i)

theorem TcpReceiver.overhang_le_of_idle {receiver : TcpReceiver P} {config : ReceiverConfig}
    (sound : receiver.Sound config) {i : Fin P} (idle : (receiver.peers i).Idle) (chunk : Nat) :
    receiver.overhang chunk + (chunk + config.maxRecordBytes) ≤
      P * (chunk + config.maxRecordBytes) := by
  have others := Finset.sum_le_card_nsmul (Finset.univ.erase i)
    (fun j => (receiver.peers j).allowance chunk) (chunk + config.maxRecordBytes)
    fun j _ => Peer.allowance_le (sound.framers j) chunk
  have split := Finset.add_sum_erase Finset.univ
    (fun j => (receiver.peers j).allowance chunk) (Finset.mem_univ i)
  have peers : 1 ≤ P := i.pos
  have card : (Finset.univ.erase i).card = P - 1 := by simp
  rw [card, smul_eq_mul] at others
  calc receiver.overhang chunk + (chunk + config.maxRecordBytes)
      ≤ (P - 1) * (chunk + config.maxRecordBytes) + (chunk + config.maxRecordBytes) := by
        rw [TcpReceiver.overhang, ← split, idle.allowance_eq, Nat.zero_add]
        exact Nat.add_le_add_right others _
    _ = (P - 1 + 1) * (chunk + config.maxRecordBytes) := (Nat.succ_mul _ _).symm
    _ = P * (chunk + config.maxRecordBytes) := by rw [Nat.sub_add_cancel peers]

/-- A change of peer `i` changes the overhang by the change of its allowance. -/
theorem TcpReceiver.overhang_add {before after : TcpReceiver P} {i : Fin P}
    (others : ∀ j, j ≠ i → after.peers j = before.peers j) (chunk : Nat) :
    after.overhang chunk + (before.peers i).allowance chunk =
      before.overhang chunk + (after.peers i).allowance chunk := by
  have same : ∑ j ∈ Finset.univ.erase i, (after.peers j).allowance chunk =
      ∑ j ∈ Finset.univ.erase i, (before.peers j).allowance chunk := by
    refine Finset.sum_congr rfl ?_
    intro j member
    rw [others j (Finset.ne_of_mem_erase member)]
  have one := Finset.add_sum_erase Finset.univ
    (fun j => (after.peers j).allowance chunk) (Finset.mem_univ i)
  have two := Finset.add_sum_erase Finset.univ
    (fun j => (before.peers j).allowance chunk) (Finset.mem_univ i)
  simp only [TcpReceiver.overhang]
  omega

/-- One if the peer may complete a read before it looks at the pause, else zero. -/
def Peer.pendingReads (self : Peer) : Nat :=
  match self.point with
  | .woken | .reading => 1
  | _ => 0

theorem Peer.pendingReads_le_one (peer : Peer) : peer.pendingReads ≤ 1 := by
  unfold Peer.pendingReads
  split <;> omega

theorem Peer.Idle.pendingReads_eq {peer : Peer} (idle : peer.Idle) :
    peer.pendingReads = 0 := by
  rcases idle with waiting | ⟨reason, closed⟩
  · simp [Peer.pendingReads, waiting]
  · simp [Peer.pendingReads, closed]

theorem Peer.pendingReads_le_of_moved {before after : Peer}
    (reading : after.point = .reading → before.point = .woken) (woken : after.point ≠ .woken) :
    after.pendingReads ≤ before.pendingReads := by
  cases point : after.point with
  | reading => simp [Peer.pendingReads, point, reading point]
  | woken => exact absurd point woken
  | connected | waiting | closed => simp [Peer.pendingReads, point]

end TcpSim.Transport
