import TcpSim.Transport.TcpReceiver

/-! What the receiver's operations leave alone. Pausing, resuming and counting
records change no peer, except that a waiting one may be woken. -/

set_option autoImplicit false

namespace TcpSim.Transport

open Engine

variable {P : Nat}

@[simp] theorem Peer.wake_src (peer : Peer) : peer.wake.src = peer.src := by
  unfold Peer.wake
  split
  · rfl
  · rfl

@[simp] theorem Peer.wake_framer (peer : Peer) : peer.wake.framer = peer.framer := by
  unfold Peer.wake
  split
  · rfl
  · rfl

@[simp] theorem Peer.wake_incoming (peer : Peer) : peer.wake.incoming = peer.incoming := by
  unfold Peer.wake
  split
  · rfl
  · rfl

theorem Peer.wake_of_not_waiting {peer : Peer} (busy : peer.point ≠ .waiting) :
    peer.wake = peer := by
  simp [Peer.wake, busy]

@[simp] theorem Peer.wake_wake (peer : Peer) : peer.wake.wake = peer.wake := by
  apply Peer.wake_of_not_waiting
  unfold Peer.wake
  split
  · simp
  · assumption

/-- The receivers differ in counters, events, the pause and woken peers at most. -/
structure TcpReceiver.Similar (before after : TcpReceiver P) : Prop where
  config : after.config = before.config
  running : after.running = before.running
  peers : ∀ i, after.peers i = before.peers i ∨ after.peers i = (before.peers i).wake

theorem TcpReceiver.Similar.refl (receiver : TcpReceiver P) : receiver.Similar receiver :=
  ⟨rfl, rfl, fun _ => .inl rfl⟩

theorem TcpReceiver.Similar.trans {first second third : TcpReceiver P}
    (left : first.Similar second) (right : second.Similar third) : first.Similar third where
  config := right.config.trans left.config
  running := right.running.trans left.running
  peers := by
    intro i
    rcases left.peers i with same | woken
    · rcases right.peers i with same' | woken'
      · exact .inl (same'.trans same)
      · exact .inr (by rw [woken', same])
    · rcases right.peers i with same' | woken'
      · exact .inr (same'.trans woken)
      · exact .inr (by rw [woken', woken, Peer.wake_wake])

theorem TcpReceiver.Similar.src {before after : TcpReceiver P} (similar : before.Similar after)
    (i : Fin P) : (after.peers i).src = (before.peers i).src := by
  rcases similar.peers i with same | woken
  · rw [same]
  · rw [woken, Peer.wake_src]

theorem TcpReceiver.Similar.framer {before after : TcpReceiver P}
    (similar : before.Similar after) (i : Fin P) :
    (after.peers i).framer = (before.peers i).framer := by
  rcases similar.peers i with same | woken
  · rw [same]
  · rw [woken, Peer.wake_framer]

theorem TcpReceiver.Similar.incoming {before after : TcpReceiver P}
    (similar : before.Similar after) (i : Fin P) :
    (after.peers i).incoming = (before.peers i).incoming := by
  rcases similar.peers i with same | woken
  · rw [same]
  · rw [woken, Peer.wake_incoming]

theorem TcpReceiver.Similar.peer_of_not_waiting {before after : TcpReceiver P}
    (similar : before.Similar after) {i : Fin P} (busy : (before.peers i).point ≠ .waiting) :
    after.peers i = before.peers i := by
  rcases similar.peers i with same | woken
  · exact same
  · rw [woken, Peer.wake_of_not_waiting busy]

theorem TcpReceiver.setPaused_similar (self : TcpReceiver P) (paused : Bool) :
    self.Similar (self.setPaused paused) := by
  unfold TcpReceiver.setPaused
  split
  · split
    · exact .refl self
    · exact ⟨rfl, rfl, fun _ => .inl rfl⟩
  · split
    · exact ⟨rfl, rfl, fun _ => .inr rfl⟩
    · exact .refl self

@[simp] theorem TcpReceiver.setPaused_paused (self : TcpReceiver P) (paused : Bool) :
    (self.setPaused paused).paused = paused := by
  unfold TcpReceiver.setPaused
  cases paused with
  | true =>
      cases before : self.paused with
      | true => simpa using before
      | false => rfl
  | false =>
      cases before : self.paused with
      | true => rfl
      | false => simpa using before

theorem TcpReceiver.countRecord_similar (self : TcpReceiver P) (src : String)
    (record : FramedRecord) : self.Similar (self.countRecord src record) := by
  unfold TcpReceiver.countRecord
  dsimp only
  split
  · exact ⟨rfl, rfl, fun _ => .inl rfl⟩
  · exact ⟨rfl, rfl, fun _ => .inl rfl⟩

@[simp] theorem TcpReceiver.countRecord_paused (self : TcpReceiver P) (src : String)
    (record : FramedRecord) : (self.countRecord src record).paused = self.paused := by
  unfold TcpReceiver.countRecord
  dsimp only
  split
  · rfl
  · rfl

@[simp] theorem TcpReceiver.countRecord_peers (self : TcpReceiver P) (src : String)
    (record : FramedRecord) : (self.countRecord src record).peers = self.peers := by
  unfold TcpReceiver.countRecord
  dsimp only
  split
  · rfl
  · rfl

/-! ## One peer -/

theorem TcpReceiver.setPeer_self (self : TcpReceiver P) (i : Fin P) (peer : Peer) :
    (self.setPeer i peer).peers i = peer :=
  Function.update_self ..

theorem TcpReceiver.setPeer_other (self : TcpReceiver P) {i j : Fin P} (other : j ≠ i)
    (peer : Peer) : (self.setPeer i peer).peers j = self.peers j :=
  Function.update_of_ne other ..

theorem TcpReceiver.setPoint_self (self : TcpReceiver P) (i : Fin P) (point : PeerPoint) :
    (self.setPoint i point).peers i = { self.peers i with point } :=
  self.setPeer_self i { self.peers i with point }

theorem TcpReceiver.setPoint_other (self : TcpReceiver P) {i j : Fin P} (other : j ≠ i)
    (point : PeerPoint) : (self.setPoint i point).peers j = self.peers j :=
  self.setPeer_other other { self.peers i with point }

theorem TcpReceiver.disconnect_self (self : TcpReceiver P) (i : Fin P)
    (reason : CloseReason) :
    (self.disconnect i reason).peers i = { self.peers i with point := .closed reason } :=
  self.setPoint_self i (.closed reason)

theorem TcpReceiver.disconnect_other (self : TcpReceiver P) {i j : Fin P} (other : j ≠ i)
    (reason : CloseReason) : (self.disconnect i reason).peers j = self.peers j :=
  self.setPoint_other other (.closed reason)

/-- The peer after a chunk has gone through its framer. -/
def Peer.afterChunk (peer : Peer) (n : Nat) : Peer :=
  { peer with
    framer := (peer.framer.feed (peer.incoming.take n)).2
    incoming := peer.incoming.drop n }

theorem TcpReceiver.takeChunk_self (self : TcpReceiver P) (i : Fin P) (n : Nat) :
    (self.takeChunk i n).2.peers i = (self.peers i).afterChunk n :=
  { self with bytesReceived := self.bytesReceived + n }.setPeer_self i
    ((self.peers i).afterChunk n)

theorem TcpReceiver.takeChunk_other (self : TcpReceiver P) {i j : Fin P} (other : j ≠ i)
    (n : Nat) : (self.takeChunk i n).2.peers j = self.peers j :=
  { self with bytesReceived := self.bytesReceived + n }.setPeer_other other
    ((self.peers i).afterChunk n)

/-- The peer after its framer is flushed. -/
def Peer.afterFlush (peer : Peer) : Peer :=
  { peer with framer := peer.framer.flush.2 }

theorem TcpReceiver.takeTrailing_self (self : TcpReceiver P) (i : Fin P) :
    (self.takeTrailing i).2.peers i = (self.peers i).afterFlush :=
  self.setPeer_self i (self.peers i).afterFlush

theorem TcpReceiver.takeTrailing_other (self : TcpReceiver P) {i j : Fin P} (other : j ≠ i) :
    (self.takeTrailing i).2.peers j = self.peers j :=
  self.setPeer_other other (self.peers i).afterFlush

theorem TcpReceiver.setPeer_src (self : TcpReceiver P) (i : Fin P) (peer : Peer)
    (same : peer.src = (self.peers i).src) (j : Fin P) :
    ((self.setPeer i peer).peers j).src = (self.peers j).src := by
  by_cases this : j = i
  · subst this
    rw [self.setPeer_self, same]
  · rw [self.setPeer_other this]

theorem TcpReceiver.setPoint_src (self : TcpReceiver P) (i : Fin P) (point : PeerPoint)
    (j : Fin P) : ((self.setPoint i point).peers j).src = (self.peers j).src :=
  self.setPeer_src i { self.peers i with point } rfl j

theorem TcpReceiver.disconnect_src (self : TcpReceiver P) (i : Fin P) (reason : CloseReason)
    (j : Fin P) : ((self.disconnect i reason).peers j).src = (self.peers j).src :=
  self.setPoint_src i (.closed reason) j

theorem TcpReceiver.takeTrailing_src (self : TcpReceiver P) (i j : Fin P) :
    ((self.takeTrailing i).2.peers j).src = (self.peers j).src :=
  self.setPeer_src i (self.peers i).afterFlush rfl j

theorem TcpReceiver.takeChunk_src (self : TcpReceiver P) (i : Fin P) (n : Nat) (j : Fin P) :
    ((self.takeChunk i n).2.peers j).src = (self.peers j).src :=
  { self with bytesReceived := self.bytesReceived + n }.setPeer_src i
    ((self.peers i).afterChunk n) rfl j

end TcpSim.Transport
