import TcpSim.Engine.Receiver
import TcpSim.Engine.SinkBooks
import TcpSim.Transport.TcpReceiverProperties

/-! How the engine's operations act on its two parts: what delivering a record
leaves alone in the transport, and which steps it takes on the sink. -/

set_option autoImplicit false

namespace TcpSim.Engine

open Transport

variable {P : Nat}

/-! ## Handling the sink's events -/

theorem handleSinkEvent_similar (transport : TcpReceiver P) (event : SinkEvent) :
    transport.Similar (handleSinkEvent transport event) := by
  cases event with
  | highWatermark => exact transport.setPaused_similar true
  | lowWatermark => exact transport.setPaused_similar false
  | _ => exact .refl transport

theorem handleSinkEvents_similar (events : List SinkEvent) (transport : TcpReceiver P) :
    transport.Similar (events.foldl handleSinkEvent transport) := by
  induction events generalizing transport with
  | nil => exact .refl transport
  | cons event rest ih =>
      exact (handleSinkEvent_similar transport event).trans (ih _)

theorem handleSinkEvents_filter (events : List SinkEvent) (transport : TcpReceiver P) :
    events.foldl handleSinkEvent transport =
      (events.filter SinkEvent.isWatermark).foldl handleSinkEvent transport := by
  induction events generalizing transport with
  | nil => rfl
  | cons event rest ih =>
      cases event with
      | highWatermark => exact ih _
      | lowWatermark => exact ih _
      | _ => exact ih _

theorem ReceiverEngine.takeSink_similar (self : ReceiverEngine P) (sink : SinkWriter) :
    self.transport.Similar (self.takeSink sink).transport :=
  handleSinkEvents_similar sink.file.events self.transport

/-! ## Delivering -/

theorem ReceiverEngine.deliver_similar (self : ReceiverEngine P) (src : String)
    (record : FramedRecord) : self.transport.Similar (self.deliver src record).transport :=
  (self.transport.countRecord_similar src record).trans
    (ReceiverEngine.takeSink_similar
      { self with transport := self.transport.countRecord src record } _)

theorem ReceiverEngine.deliverAll_similar (records : List FramedRecord)
    (self : ReceiverEngine P) (src : String) :
    self.transport.Similar (self.deliverAll src records).transport := by
  induction records generalizing self with
  | nil => exact .refl _
  | cons record rest ih => exact (self.deliver_similar src record).trans (ih _)

/-- Others than peer `i` are woken at most. -/
def OthersWoken (before after : TcpReceiver P) (i : Fin P) : Prop :=
  ∀ j, j ≠ i → after.peers j = before.peers j ∨ after.peers j = (before.peers j).wake

theorem ReceiverEngine.chunkRead_peers (self : ReceiverEngine P) {i : Fin P} (n : Nat)
    (busy : (self.transport.peers i).point ≠ .waiting) :
    (self.chunkRead i n).transport.peers i = (self.transport.peers i).afterChunk n ∧
      OthersWoken self.transport (self.chunkRead i n).transport i := by
  have similar := ReceiverEngine.deliverAll_similar (self.transport.takeChunk i n).1
    { self with transport := (self.transport.takeChunk i n).2 } (self.transport.peers i).src
  constructor
  · rw [← self.transport.takeChunk_self]
    refine similar.peer_of_not_waiting ?_
    rw [self.transport.takeChunk_self]
    exact busy
  · intro j other
    rw [← self.transport.takeChunk_other other n]
    exact similar.peers j

theorem ReceiverEngine.finishPeer_peers (self : ReceiverEngine P) {i : Fin P}
    (reason : CloseReason) (busy : (self.transport.peers i).point ≠ .waiting) :
    (self.finishPeer i reason).transport.peers i =
        { (self.transport.peers i).afterFlush with point := .closed reason } ∧
      OthersWoken self.transport (self.finishPeer i reason).transport i := by
  have similar := ReceiverEngine.deliverAll_similar (self.transport.takeTrailing i).1.toList
    { self with transport := (self.transport.takeTrailing i).2 } (self.transport.peers i).src
  unfold ReceiverEngine.finishPeer
  constructor
  · have delivered : (self.trailingRead i).transport.peers i =
        (self.transport.takeTrailing i).2.peers i := by
      refine similar.peer_of_not_waiting ?_
      rw [self.transport.takeTrailing_self]
      exact busy
    rw [TcpReceiver.disconnect_self, delivered, self.transport.takeTrailing_self]
  · intro j other
    rw [TcpReceiver.disconnect_other _ other, ← self.transport.takeTrailing_other other]
    exact similar.peers j

/-! ## A rule for invariants -/

/-- `inv` is kept by the allowed steps of the sink, submissions from `named`
sources among them, and does not depend on the transport beyond its pause. -/
structure ReceiverEngine.Closed (named : String → Prop) (allowed : SinkAction → Prop)
    (inv : ReceiverEngine P → Prop) : Prop where
  submit : ∀ record src, named src → allowed (.submit record src)
  sink : ∀ engine action sink, allowed action → inv engine →
    engine.sink.step action = some sink → inv (engine.takeSink sink)
  transport : ∀ engine transport, inv engine →
    transport.paused = engine.transport.paused → inv { engine with transport }

section Closed

variable {named : String → Prop} {allowed : SinkAction → Prop}
  {inv : ReceiverEngine P → Prop} (closed : ReceiverEngine.Closed named allowed inv)

include closed

theorem ReceiverEngine.Closed.deliver {engine : ReceiverEngine P} {src : String}
    (source : named src) (valid : inv engine) (record : FramedRecord) :
    inv (engine.deliver src record) :=
  closed.sink _ _ _ (closed.submit record src source)
    (closed.transport _ _ valid (engine.transport.countRecord_paused src record)) rfl

theorem ReceiverEngine.Closed.deliverAll {src : String} (source : named src)
    (records : List FramedRecord) {engine : ReceiverEngine P} (valid : inv engine) :
    inv (engine.deliverAll src records) := by
  induction records generalizing engine with
  | nil => exact valid
  | cons record rest ih => exact ih (closed.deliver source valid record)

theorem ReceiverEngine.Closed.finishPeer {engine : ReceiverEngine P}
    (sources : ∀ i, named (engine.transport.peers i).src) (valid : inv engine) (i : Fin P)
    (reason : CloseReason) : inv (engine.finishPeer i reason) := by
  have flushed : inv { engine with transport := (engine.transport.takeTrailing i).2 } :=
    closed.transport _ _ valid rfl
  have delivered := closed.deliverAll (sources i)
    (engine.transport.takeTrailing i).1.toList flushed
  exact closed.transport _ _ delivered rfl

theorem ReceiverEngine.Closed.turnPeer {engine : ReceiverEngine P}
    (sources : ∀ i, named (engine.transport.peers i).src) (valid : inv engine) (i : Fin P) :
    inv (engine.turnPeer i) := by
  unfold ReceiverEngine.turnPeer
  split
  · exact closed.transport _ _ valid rfl
  · exact closed.finishPeer sources valid i .eof

theorem ReceiverEngine.Closed.chunkRead {engine : ReceiverEngine P}
    (sources : ∀ i, named (engine.transport.peers i).src) (valid : inv engine) (i : Fin P)
    (n : Nat) : inv (engine.chunkRead i n) := by
  have fed : inv { engine with transport := (engine.transport.takeChunk i n).2 } :=
    closed.transport _ _ valid rfl
  exact closed.deliverAll (sources i) (engine.transport.takeChunk i n).1 fed

end Closed

/-! ## Sources -/

theorem ReceiverEngine.finishPeer_src (self : ReceiverEngine P) (i : Fin P)
    (reason : CloseReason) (j : Fin P) :
    ((self.finishPeer i reason).transport.peers j).src = (self.transport.peers j).src := by
  unfold ReceiverEngine.finishPeer ReceiverEngine.trailingRead
  rw [TcpReceiver.disconnect_src, (ReceiverEngine.deliverAll_similar _ _ _).src,
    TcpReceiver.takeTrailing_src]

theorem ReceiverEngine.turnPeer_src (self : ReceiverEngine P) (i j : Fin P) :
    ((self.turnPeer i).transport.peers j).src = (self.transport.peers j).src := by
  unfold ReceiverEngine.turnPeer
  split
  · exact self.transport.setPoint_src i _ j
  · exact self.finishPeer_src i .eof j

theorem ReceiverEngine.readPeer_src (self : ReceiverEngine P) (i : Fin P) (n : Nat)
    (j : Fin P) :
    ((self.readPeer i n).transport.peers j).src = (self.transport.peers j).src := by
  unfold ReceiverEngine.readPeer ReceiverEngine.chunkRead
  rw [ReceiverEngine.turnPeer_src, (ReceiverEngine.deliverAll_similar _ _ _).src,
    TcpReceiver.takeChunk_src]

theorem ReceiverEngine.step_src {self next : ReceiverEngine P} {action : EngineAction P}
    (taken : self.step action = some next) (j : Fin P) :
    (next.transport.peers j).src = (self.transport.peers j).src := by
  cases ReceiverEngine.steps_of_step taken with
  | sink => exact (self.takeSink_similar _).src j
  | connects i => exact ReceiverEngine.turnPeer_src _ i j
  | wakes i => exact self.transport.setPoint_src i .reading j
  | reads i n => exact self.readPeer_src i n j
  | ends i => exact self.finishPeer_src i .eof j
  | fails i name => exact self.finishPeer_src i (.error name) j
  | stopsTransport => rfl
  | cancels i => exact self.transport.disconnect_src i .cancelled j
  | reconnects i stream => exact self.transport.setPeer_src i (Peer.connect _ _ stream) rfl j

theorem ReceiverEngine.run_src {self final : ReceiverEngine P} {actions : List (EngineAction P)}
    (ran : Runs.run ReceiverEngine.step self actions = some final) (j : Fin P) :
    (final.transport.peers j).src = (self.transport.peers j).src :=
  Runs.run_invariant
    (fun state : ReceiverEngine P => (state.transport.peers j).src = (self.transport.peers j).src)
    (fun _ _ _ same taken => (ReceiverEngine.step_src taken j).trans same) rfl ran

/-- The rule: a closed invariant survives every step whose sink action is allowed. -/
theorem ReceiverEngine.Closed.step {named : String → Prop} {allowed : SinkAction → Prop}
    {inv : ReceiverEngine P → Prop} (closed : ReceiverEngine.Closed named allowed inv)
    {engine next : ReceiverEngine P} {action : EngineAction P}
    (sources : ∀ i, named (engine.transport.peers i).src) (valid : inv engine)
    (permitted : ∀ sink, action = .sink sink → allowed sink)
    (taken : engine.step action = some next) : inv next := by
  cases ReceiverEngine.steps_of_step taken with
  | sink sinkTaken => exact closed.sink engine _ _ (permitted _ rfl) valid sinkTaken
  | connects i =>
      let transport := engine.transport.emit (.peerConnected (engine.transport.peers i).src)
      have greeted : inv { engine with transport } := closed.transport _ _ valid rfl
      exact closed.turnPeer (by exact sources) greeted i
  | reads i n =>
      refine closed.turnPeer ?_ (closed.chunkRead sources valid i n) i
      intro j
      unfold ReceiverEngine.chunkRead
      rw [(ReceiverEngine.deliverAll_similar _ _ _).src, TcpReceiver.takeChunk_src]
      exact sources j
  | ends i => exact closed.finishPeer sources valid i .eof
  | fails i name => exact closed.finishPeer sources valid i (.error name)
  | wakes | stopsTransport | cancels | reconnects => exact closed.transport _ _ valid rfl

theorem ReceiverEngine.Closed.run {named : String → Prop} {allowed : SinkAction → Prop}
    {inv : ReceiverEngine P → Prop} (closed : ReceiverEngine.Closed named allowed inv)
    {engine final : ReceiverEngine P} {actions : List (EngineAction P)}
    (sources : ∀ i, named (engine.transport.peers i).src) (valid : inv engine)
    (permitted : ∀ sink, .sink sink ∈ actions → allowed sink)
    (ran : Runs.run ReceiverEngine.step engine actions = some final) : inv final := by
  induction actions generalizing engine with
  | nil =>
      cases ran
      exact valid
  | cons action rest ih =>
      obtain ⟨next, taken, ran⟩ := Runs.run_cons_eq_some.mp ran
      have kept : inv next :=
        closed.step sources valid (fun sink same => permitted sink (by simp [same])) taken
      refine ih ?_ kept (fun sink member => permitted sink (by simp [member])) ran
      intro i
      rw [ReceiverEngine.step_src taken]
      exact sources i

end TcpSim.Engine
