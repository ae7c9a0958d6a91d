import TcpSim.Engine.ClientReception
import Mathlib.Algebra.BigOperators.Fin
import Mathlib.Data.List.SplitLengths

/-! What the receiving TCP server makes of its peers, whatever the sink does with the records: each
stream is framed on its own, and the sink gets the records of each peer in their order. -/

set_option autoImplicit false

namespace TcpSim.Transport

/-- The handler has come to its end and has not been cancelled, so that its framer was flushed. -/
def PeerPoint.ended : PeerPoint → Bool
  | .closed reason => decide (reason ≠ .cancelled)
  | _ => false

theorem PeerPoint.ended_of_open {point : PeerPoint} (isOpen : ∀ reason, point ≠ .closed reason) :
    point.ended = false := by
  cases point with
  | closed reason => exact absurd rfl (isOpen reason)
  | _ => rfl

end TcpSim.Transport

namespace TcpSim.Engine

open Transport

variable {P : Nat}

/-! ## One peer -/

/-- What a handler has read of its peer's stream, in reads of these sizes. -/
def Session.ofPeer (stream : Bytes) (sizes : List Nat) (peer : Peer) : Session where
  chunks := sizes.splitLengths stream
  ended := peer.point.ended

/-- A read takes up the stream where the reads before it have stopped. -/
theorem splitLengths_concat {α : Type} (sizes : List Nat) (n : Nat) {stream rest : List α}
    (consumed : (sizes.splitLengths stream).flatten ++ rest = stream) :
    (sizes ++ [n]).splitLengths stream = sizes.splitLengths stream ++ [rest.take n] := by
  induction sizes generalizing stream with
  | nil =>
      obtain rfl : rest = stream := consumed
      simp
  | cons size sizes ih =>
      rw [List.cons_append, List.splitLengths_cons, List.splitLengths_cons, List.cons_append]
      rw [List.splitLengths_cons, List.flatten_cons, List.append_assoc] at consumed
      have later : (sizes.splitLengths (stream.drop size)).flatten ++ rest = stream.drop size := by
        refine (List.append_right_inj (stream.take size)).mp ?_
        rw [consumed, List.take_append_drop]
      rw [ih later]

/-- The rest of the stream is still to be read, and an open handler's framer has been fed what was
read. -/
structure Handled (config : ReceiverConfig) (stream : Bytes) (sizes : List Nat) (peer : Peer) :
    Prop where
  consumed : (Session.ofPeer stream sizes peer).chunks.flatten ++ peer.incoming = stream
  going : (∀ reason, peer.point ≠ .closed reason) → peer.framer =
    ((Framer.fresh config.framingMode config.maxRecordBytes config.max_pos).feedAll
      (Session.ofPeer stream sizes peer).chunks).2

namespace Handled

variable {config : ReceiverConfig} {stream : Bytes} {sizes : List Nat} {peer : Peer}
  (handled : Handled config stream sizes peer)
  (isOpen : ∀ reason, peer.point ≠ .closed reason)

include handled

theorem chunks_part : (Session.ofPeer stream sizes peer).chunks.flatten <+: stream :=
  ⟨peer.incoming, handled.consumed⟩

include isOpen

theorem setPoint (point : PeerPoint) : Handled config stream sizes { peer with point } :=
  ⟨handled.consumed, fun _ => handled.going isOpen⟩

theorem feed (n : Nat) :
    Handled config stream (sizes ++ [n]) (peer.afterChunk n) ∧
      Session.ofPeer stream (sizes ++ [n]) (peer.afterChunk n) =
        { Session.ofPeer stream sizes peer with
          chunks := (Session.ofPeer stream sizes peer).chunks ++ [peer.incoming.take n] } := by
  have chunks : (Session.ofPeer stream (sizes ++ [n]) (peer.afterChunk n)).chunks =
      (Session.ofPeer stream sizes peer).chunks ++ [peer.incoming.take n] :=
    splitLengths_concat sizes n handled.consumed
  refine ⟨⟨?_, ?_⟩, ?_⟩
  · rw [chunks]
    simpa [Peer.afterChunk] using handled.consumed
  · intro _
    rw [chunks, Framer.feedAll_append_singleton, ← handled.going isOpen]
    rfl
  · rw [← chunks]
    rfl

theorem feed_records (n : Nat) :
    (Session.ofPeer stream (sizes ++ [n]) (peer.afterChunk n)).records config =
      (Session.ofPeer stream sizes peer).records config ++
        (peer.framer.feed (peer.incoming.take n)).1 := by
  have going : (Session.ofPeer stream sizes peer).ended = false := PeerPoint.ended_of_open isOpen
  rw [(handled.feed isOpen n).2, Session.records_read config going, ← handled.going isOpen]

theorem flush {reason : CloseReason} (clean : reason ≠ .cancelled) :
    Handled config stream sizes { peer.afterFlush with point := .closed reason } ∧
      (Session.ofPeer stream sizes
          { peer.afterFlush with point := .closed reason }).records config =
        (Session.ofPeer stream sizes peer).records config ++ peer.framer.flush.1.toList := by
  have going : (Session.ofPeer stream sizes peer).ended = false := PeerPoint.ended_of_open isOpen
  have ended : Session.ofPeer stream sizes { peer.afterFlush with point := .closed reason } =
      { Session.ofPeer stream sizes peer with ended := true } :=
    congrArg (Session.mk _) (decide_eq_true clean)
  constructor
  · exact ⟨handled.consumed, fun stillOpen => absurd rfl (stillOpen reason)⟩
  · rw [ended, Session.records_ended config going, ← handled.going isOpen]

omit isOpen

theorem wake : Handled config stream sizes peer.wake := by
  unfold Peer.wake
  split
  next waiting => exact handled.setPoint (by simp [waiting]) .woken
  next => exact handled

end Handled

theorem Session.ofPeer_wake (stream : Bytes) (sizes : List Nat) (peer : Peer) :
    Session.ofPeer stream sizes peer.wake = Session.ofPeer stream sizes peer := by
  unfold Peer.wake
  split
  next waiting =>
      unfold Session.ofPeer
      rw [waiting]
      rfl
  next => rfl

/-! ## The sink's side -/

def peerItem (src : String) (record : FramedRecord) : QueueItem where
  record := record
  src := src

/-- What a receiver has counted. -/
structure Counters where
  recordsReceived : Nat
  bytesReceived : Nat
  truncations : Nat

def countersOf (transport : TcpReceiver P) : Counters where
  recordsReceived := transport.recordsReceived
  bytesReceived := transport.bytesReceived
  truncations := transport.truncations

theorem countersOf_handleSinkEvents (events : List SinkEvent) (transport : TcpReceiver P) :
    countersOf (events.foldl handleSinkEvent transport) = countersOf transport := by
  have paused (receiver : TcpReceiver P) (pause : Bool) :
      countersOf (receiver.setPaused pause) = countersOf receiver := by
    unfold TcpReceiver.setPaused
    split <;> split <;> rfl
  induction events generalizing transport with
  | nil => rfl
  | cons event rest ih =>
      rw [List.foldl_cons, ih]
      cases event with
      | highWatermark => exact paused transport true
      | lowWatermark => exact paused transport false
      | _ => rfl

/-- How much an action reads of one stream. -/
def EngineAction.readSize (i : Fin P) : EngineAction P → List Nat
  | .read j n => if j = i then [n] else []
  | _ => []

namespace ReceiverEngine

/-- The transport has counted what it read and the records that it offered, and the sink has taken
these in their order. -/
structure Offers (engine : ReceiverEngine P) (offered : List QueueItem) (ignored volume : Nat) :
    Prop where
  intake : engine.sink.Intake offered ignored
  ordered : engine.sink.books.Ordered
  refusals : engine.sink.CountsRefusals
  counters : countersOf engine.transport =
    { recordsReceived := offered.length
      bytesReceived := volume
      truncations := offered.countP fun item => item.record.truncated }

namespace Offers

variable {engine : ReceiverEngine P} {offered : List QueueItem} {ignored volume : Nat}
  (offers : engine.Offers offered ignored volume)

include offers

theorem of_transport {transport : TcpReceiver P}
    (same : countersOf transport = countersOf engine.transport) :
    { engine with transport }.Offers offered ignored volume :=
  ⟨offers.intake, offers.ordered, offers.refusals, same.trans offers.counters⟩

theorem takeChunk (i : Fin P) (n : Nat) :
    { engine with transport := (engine.transport.takeChunk i n).2 }.Offers offered ignored
      (volume + n) := by
  refine ⟨offers.intake, offers.ordered, offers.refusals, ?_⟩
  change { countersOf engine.transport with
    bytesReceived := (countersOf engine.transport).bytesReceived + n } = _
  rw [offers.counters]

theorem takeSink {action : SinkAction} {sink : SinkWriter}
    (other : ∀ record src, action ≠ .submit record src)
    (taken : engine.sink.step action = some sink) :
    (engine.takeSink sink).Offers offered ignored volume := by
  have sourced : action.Sourced := by
    cases action with
    | submit record src => exact absurd rfl (other record src)
    | _ => trivial
  have intake := offers.intake.other other taken
  have ordered : sink.books.Ordered := SinkWriter.ordered_step sourced offers.ordered taken
  have refusals : sink.CountsRefusals := SinkWriter.countsRefusals_step offers.refusals taken
  exact ⟨⟨intake.order, intake.total⟩, ordered, refusals,
    (countersOf_handleSinkEvents sink.file.events engine.transport).trans offers.counters⟩

theorem deliver {src : String} (sourced : src ≠ "") (record : FramedRecord) :
    (engine.deliver src record).Offers (offered ++ [peerItem src record])
      (ignored + (!engine.sink.cfg.enabled).toNat) volume := by
  have submits : engine.sink.step (.submit record src) =
      some (engine.sink.submit record src).2 := rfl
  have submitted := offers.intake.submit record src
  have ordered : (engine.sink.submit record src).2.books.Ordered :=
    SinkWriter.ordered_step (show (SinkAction.submit record src).Sourced from sourced)
      offers.ordered submits
  have refusals : (engine.sink.submit record src).2.CountsRefusals :=
    SinkWriter.countsRefusals_step offers.refusals submits
  have counted : countersOf (engine.transport.countRecord src record) =
      { countersOf engine.transport with
        recordsReceived := (countersOf engine.transport).recordsReceived + 1
        truncations := (countersOf engine.transport).truncations + record.truncated.toNat } := by
    unfold TcpReceiver.countRecord
    dsimp only
    split
    next cut => simp [countersOf, TcpReceiver.emit, cut]
    next whole => simp [countersOf, whole]
  refine ⟨⟨submitted.order, submitted.total⟩, ordered, refusals, ?_⟩
  refine (countersOf_handleSinkEvents (engine.sink.submit record src).2.file.events _).trans ?_
  rw [counted, offers.counters, List.length_append, List.countP_append]
  cases cut : record.truncated with
  | true => simp [peerItem, cut]
  | false => simp [peerItem, cut]

theorem deliverAll {src : String} (sourced : src ≠ "") (records : List FramedRecord) :
    ∃ more, (engine.deliverAll src records).Offers (offered ++ records.map (peerItem src)) more
        volume ∧
      (engine.sink.cfg.enabled = true → more = ignored) := by
  induction records generalizing engine offered ignored with
  | nil => exact ⟨ignored, by simpa [ReceiverEngine.deliverAll] using offers, fun _ => rfl⟩
  | cons record rest ih =>
      obtain ⟨more, later, same⟩ := ih (offers.deliver sourced record)
      rw [(engine.deliver_sink src record).2.2] at same
      refine ⟨more, ?_, ?_⟩
      · simpa [ReceiverEngine.deliverAll] using later
      · intro enabled
        rw [same enabled, enabled]
        rfl

end Offers

/-! ## All peers -/

/-- What one handler has read of its stream. -/
def sessionIn (self : ReceiverEngine P) (streams : Fin P → Bytes) (sizes : Fin P → List Nat)
    (i : Fin P) : Session :=
  Session.ofPeer (streams i) (sizes i) (self.transport.peers i)

/-- Of the offered records those of each peer are the records of its session, in their order, and
there are no others. -/
structure Received (config : ReceiverConfig) (streams : Fin P → Bytes) (sizes : Fin P → List Nat)
    (offered : List QueueItem) (ignored : Nat) (engine : ReceiverEngine P) : Prop where
  offers : engine.Offers offered ignored (∑ i, (engine.sessionIn streams sizes i).volume)
  distinct : Function.Injective fun i => (engine.transport.peers i).src
  named : ∀ i, (engine.transport.peers i).src ≠ ""
  handled : ∀ i, Handled config (streams i) (sizes i) (engine.transport.peers i)
  own : ∀ i, offered.filter (fun item => decide (item.src = (engine.transport.peers i).src)) =
    ((engine.sessionIn streams sizes i).records config).map
      (peerItem (engine.transport.peers i).src)
  known : ∀ item ∈ offered, ∃ i, item.src = (engine.transport.peers i).src

theorem filter_peerItem_self (records : List FramedRecord) (src : String) :
    (records.map (peerItem src)).filter (fun item => decide (item.src = src)) =
      records.map (peerItem src) :=
  List.filter_eq_self.mpr (by simp [peerItem])

theorem filter_peerItem_other (records : List FramedRecord) {src other : String}
    (apart : src ≠ other) :
    (records.map (peerItem src)).filter (fun item => decide (item.src = other)) = [] :=
  List.filter_eq_nil_iff.mpr (by simp [peerItem, apart])

section Received

variable {engine next : ReceiverEngine P} {config : ReceiverConfig} {streams : Fin P → Bytes}
  {sizes after : Fin P → List Nat} {offered : List QueueItem} {ignored more : Nat}
  (received : Received config streams sizes offered ignored engine)

include received

/-- The handler of one peer goes on, and the others are woken at most. -/
theorem Received.extend {i : Fin P} {added : List FramedRecord}
    (records : (next.sessionIn streams after i).records config =
      (engine.sessionIn streams sizes i).records config ++ added)
    (handled : Handled config (streams i) (after i) (next.transport.peers i))
    (same : ∀ j, j ≠ i → after j = sizes j)
    (srcs : ∀ j, (next.transport.peers j).src = (engine.transport.peers j).src)
    (others : OthersWoken engine.transport next.transport i)
    (offers : next.Offers (offered ++ added.map (peerItem (engine.transport.peers i).src)) more
      (∑ j, (next.sessionIn streams after j).volume)) :
    Received config streams after
      (offered ++ added.map (peerItem (engine.transport.peers i).src)) more next where
  offers := offers
  distinct := by
    intro left right same
    simp only [srcs] at same
    exact received.distinct same
  named := by
    intro j
    rw [srcs]
    exact received.named j
  handled := by
    intro j
    by_cases this : j = i
    · subst this
      exact handled
    · rw [same j this]
      rcases others j this with same | woken
      · rw [same]
        exact received.handled j
      · rw [woken]
        exact (received.handled j).wake
  own := by
    intro j
    rw [srcs, List.filter_append, received.own]
    by_cases this : j = i
    · subst this
      rw [filter_peerItem_self, records, List.map_append]
    · have apart : (engine.transport.peers i).src ≠ (engine.transport.peers j).src :=
        fun same => this (received.distinct same).symm
      have session : next.sessionIn streams after j = engine.sessionIn streams sizes j := by
        unfold sessionIn
        rw [same j this]
        rcases others j this with peer | woken
        · rw [peer]
        · rw [woken, Session.ofPeer_wake]
      rw [session, filter_peerItem_other added apart,
        List.append_nil]
  known := by
    intro item member
    simp only [srcs]
    rcases List.mem_append.mp member with old | new
    · exact received.known item old
    · obtain ⟨record, _, rfl⟩ := List.mem_map.mp new
      exact ⟨i, rfl⟩

theorem Received.takeSink {action : SinkAction} {sink : SinkWriter}
    (other : ∀ record src, action ≠ .submit record src)
    (taken : engine.sink.step action = some sink) :
    Received config streams sizes offered ignored (engine.takeSink sink) := by
  have similar := engine.takeSink_similar sink
  refine ⟨received.offers.takeSink other taken, ?_, ?_, ?_, ?_, ?_⟩
  · intro left right same
    simp only [similar.src] at same
    exact received.distinct same
  · intro i
    rw [similar.src]
    exact received.named i
  · intro i
    rcases similar.peers i with same | woken
    · rw [same]
      exact received.handled i
    · rw [woken]
      exact (received.handled i).wake
  · intro i
    have session : (engine.takeSink sink).sessionIn streams sizes i =
        engine.sessionIn streams sizes i := by
      rcases similar.peers i with same | woken
      · exact congrArg (Session.ofPeer (streams i) (sizes i)) same
      · exact (congrArg (Session.ofPeer (streams i) (sizes i)) woken).trans
          (Session.ofPeer_wake _ _ _)
    rw [similar.src, session]
    exact received.own i
  · simp only [similar.src]
    exact received.known

theorem Received.setPoint {i : Fin P}
    (isOpen : ∀ reason, (engine.transport.peers i).point ≠ .closed reason) (point : PeerPoint)
    (unflushed : point.ended = false) : Received config streams sizes offered ignored
      { engine with transport := engine.transport.setPoint i point } := by
  have peer := engine.transport.setPoint_self i point
  have handled : Handled config (streams i) (sizes i)
      ((engine.transport.setPoint i point).peers i) := by
    rw [peer]
    exact (received.handled i).setPoint isOpen point
  have session :
      Session.ofPeer (streams i) (sizes i) ((engine.transport.setPoint i point).peers i) =
        Session.ofPeer (streams i) (sizes i) (engine.transport.peers i) := by
    rw [peer]
    exact congrArg (Session.mk _) (unflushed.trans (PeerPoint.ended_of_open isOpen).symm)
  have records : (({ engine with transport := engine.transport.setPoint i point } :
      ReceiverEngine P).sessionIn streams sizes i).records config =
        (engine.sessionIn streams sizes i).records config ++ [] := by
    rw [List.append_nil]
    exact congrArg (Session.records config) session
  have offers : ReceiverEngine.Offers
      { engine with transport := engine.transport.setPoint i point }
      (offered ++ [].map (peerItem (engine.transport.peers i).src)) ignored
      (∑ j, (engine.sessionIn streams sizes j).volume) := by
    rw [List.map_nil, List.append_nil]
    exact received.offers.of_transport rfl
  have moved := received.extend records handled (fun _ _ => rfl)
    (engine.transport.setPoint_src i point)
    (fun j other => .inl (engine.transport.setPoint_other other point)) offers
  rw [List.map_nil, List.append_nil] at moved
  exact moved

/-- Events and the end of the accepting do not matter. -/
theorem Received.of_transport {transport : TcpReceiver P}
    (peers : transport.peers = engine.transport.peers)
    (same : countersOf transport = countersOf engine.transport) :
    Received config streams sizes offered ignored { engine with transport } := by
  have session (i : Fin P) :
      ({ engine with transport } : ReceiverEngine P).sessionIn streams sizes i =
        engine.sessionIn streams sizes i := by
    unfold ReceiverEngine.sessionIn
    rw [peers]
  refine ⟨?_, ?_, ?_, ?_, ?_, ?_⟩
  · simp only [session]
    exact received.offers.of_transport same
  · rw [peers]
    exact received.distinct
  · rw [peers]
    exact received.named
  · rw [peers]
    exact received.handled
  · intro i
    rw [session, peers]
    exact received.own i
  · rw [peers]
    exact received.known

/-- More has been read of one stream. -/
theorem Received.volume_read {i : Fin P} {n : Nat}
    (isOpen : ∀ reason, (engine.transport.peers i).point ≠ .closed reason)
    (there : n ≤ (engine.transport.peers i).incoming.length) :
    ∑ j, (engine.sessionIn streams
        (fun j => sizes j ++ EngineAction.readSize j (.read i n)) j).volume =
      (∑ j, (engine.sessionIn streams sizes j).volume) + n := by
  have here (j : Fin P) :
      (engine.sessionIn streams
          (fun j => sizes j ++ EngineAction.readSize j (.read i n)) j).volume =
        (engine.sessionIn streams sizes j).volume + if i = j then n else 0 := by
    by_cases same : i = j
    · subst same
      have read := congrArg Session.chunks ((received.handled i).feed isOpen n).2
      have length : ((engine.transport.peers i).incoming.take n).length = n :=
        List.length_take_of_le there
      change ((Session.ofPeer (streams i) (sizes i ++ (if i = i then [n] else []))
        ((engine.transport.peers i).afterChunk n)).chunks.map List.length).sum = _
      rw [if_pos rfl, if_pos rfl, read, List.map_append, List.sum_append, List.map_singleton,
        length, List.sum_singleton]
      rfl
    · simp [sessionIn, EngineAction.readSize, same]
  simp only [here, Finset.sum_add_distrib, Finset.sum_ite_eq, Finset.mem_univ, if_true]

theorem Received.chunkRead {i : Fin P} (reading : (engine.transport.peers i).point = .reading)
    {n : Nat} (there : n ≤ (engine.transport.peers i).incoming.length) : ∃ offered more,
      Received config streams (fun j => sizes j ++ EngineAction.readSize j (.read i n)) offered more
          (engine.chunkRead i n) ∧
        (engine.sink.cfg.enabled = true → more = ignored) := by
  have isOpen : ∀ reason, (engine.transport.peers i).point ≠ .closed reason := by simp [reading]
  obtain ⟨self, others⟩ := engine.chunkRead_peers n (i := i) (by simp [reading])
  have fed := (received.offers.takeChunk i n)
  rw [← received.volume_read isOpen there] at fed
  obtain ⟨more, offers, same⟩ := fed.deliverAll (received.named i)
    (engine.transport.takeChunk i n).1
  have here : sizes i ++ EngineAction.readSize i (.read i n) = sizes i ++ [n] := by
    simp [EngineAction.readSize]
  have handled : Handled config (streams i) (sizes i ++ EngineAction.readSize i (.read i n))
      ((engine.chunkRead i n).transport.peers i) := by
    rw [self, here]
    exact ((received.handled i).feed isOpen n).1
  have records : ((engine.chunkRead i n).sessionIn streams
      (fun j => sizes j ++ EngineAction.readSize j (.read i n)) i).records config =
        (engine.sessionIn streams sizes i).records config ++
          (engine.transport.takeChunk i n).1 := by
    unfold sessionIn
    dsimp only
    rw [self, here]
    exact (received.handled i).feed_records isOpen n
  have srcs (j : Fin P) : ((engine.chunkRead i n).transport.peers j).src =
      (engine.transport.peers j).src := by
    unfold ReceiverEngine.chunkRead
    rw [(ReceiverEngine.deliverAll_similar _ _ _).src, TcpReceiver.takeChunk_src]
  refine ⟨_, more, received.extend records handled ?_ srcs others offers, same⟩
  intro j other
  simp [EngineAction.readSize, Ne.symm other]

theorem Received.finishPeer {i : Fin P}
    (isOpen : ∀ reason, (engine.transport.peers i).point ≠ .closed reason)
    (busy : (engine.transport.peers i).point ≠ .waiting) {reason : CloseReason}
    (clean : reason ≠ .cancelled) : ∃ offered more,
      Received config streams sizes offered more (engine.finishPeer i reason) ∧
        (engine.sink.cfg.enabled = true → more = ignored) := by
  obtain ⟨self, others⟩ := engine.finishPeer_peers reason busy
  obtain ⟨handled, records⟩ := (received.handled i).flush isOpen clean
  have fed : ReceiverEngine.Offers
      { engine with transport := (engine.transport.takeTrailing i).2 } offered ignored
      (∑ j, (engine.sessionIn streams sizes j).volume) :=
    received.offers.of_transport rfl
  obtain ⟨more, offers, same⟩ := fed.deliverAll (received.named i)
    (engine.transport.takeTrailing i).1.toList
  have closed : (engine.finishPeer i reason).Offers (offered ++
      ((engine.transport.takeTrailing i).1.toList).map (peerItem (engine.transport.peers i).src))
      more (∑ j, (engine.sessionIn streams sizes j).volume) := offers.of_transport rfl
  rw [← self] at handled records
  exact ⟨_, more, received.extend records handled (fun _ _ => rfl)
    (engine.finishPeer_src i reason) others closed, same⟩

theorem Received.turnPeer {i : Fin P}
    (isOpen : ∀ reason, (engine.transport.peers i).point ≠ .closed reason)
    (busy : (engine.transport.peers i).point ≠ .waiting) : ∃ offered more,
      Received config streams sizes offered more (engine.turnPeer i) ∧
        (engine.sink.cfg.enabled = true → more = ignored) := by
  unfold ReceiverEngine.turnPeer
  split
  · refine ⟨_, ignored, received.setPoint isOpen _ ?_, fun _ => rfl⟩
    split <;> rfl
  · exact received.finishPeer isOpen busy (by simp)

theorem Received.readPeer {i : Fin P} (reading : (engine.transport.peers i).point = .reading)
    {n : Nat} (there : n ≤ (engine.transport.peers i).incoming.length) : ∃ offered more,
      Received config streams (fun j => sizes j ++ EngineAction.readSize j (.read i n)) offered more
          (engine.readPeer i n) ∧
        (engine.sink.cfg.enabled = true → more = ignored) := by
  obtain ⟨_, some, afterChunk, first⟩ := received.chunkRead reading there
  have point : ((engine.chunkRead i n).transport.peers i).point = .reading := by
    rw [(engine.chunkRead_peers n (by simp [reading])).1]
    exact reading
  have enabled : (engine.chunkRead i n).sink.cfg = engine.sink.cfg :=
    ReceiverEngine.deliverAll_cfg _ (engine.transport.takeChunk i n).1
      (engine.transport.peers i).src
  obtain ⟨offered, more, turned, second⟩ :=
    afterChunk.turnPeer (i := i) (by simp [point]) (by simp [point])
  refine ⟨offered, more, turned, ?_⟩
  intro on
  rw [enabled] at second
  rw [second on, first on]

/-- Nothing is read. -/
theorem Received.silent {action : EngineAction P} (silent : ∀ i, action.readSize i = []) :
    Received config streams (fun i => sizes i ++ action.readSize i) offered ignored engine := by
  simp only [silent, List.append_nil]
  exact received

end Received

end ReceiverEngine

/-! ## Steps -/

/-- Records come from the peers' handlers only, and no peer comes back under its old name. -/
def EngineAction.FromPeers : EngineAction P → Prop
  | .sink action => action.submission = none
  | .reconnect _ _ => False
  | _ => True

instance (action : EngineAction P) : Decidable action.FromPeers :=
  match action with
  | .sink action => inferInstanceAs (Decidable (action.submission = none))
  | .reconnect _ _ => .isFalse id
  | .connect _ | .wake _ | .read _ _ | .eof _ | .readError _ _ | .stopTransport | .cancel _ =>
      .isTrue trivial

namespace ReceiverEngine

theorem Received.step {engine next : ReceiverEngine P} {config : ReceiverConfig}
    {streams : Fin P → Bytes} {sizes : Fin P → List Nat} {offered : List QueueItem} {ignored : Nat}
    (received : Received config streams sizes offered ignored engine)
    {action : EngineAction P} (apart : action.FromPeers) (taken : engine.step action = some next) :
    ∃ offered more,
      Received config streams (fun i => sizes i ++ action.readSize i) offered more next ∧
        (engine.sink.cfg.enabled = true → more = ignored) := by
  cases ReceiverEngine.steps_of_step taken with
  | @sink action sink sinkTaken =>
      have other : ∀ record src, action ≠ .submit record src := by
        rintro record src rfl
        cases apart
      exact ⟨_, ignored, (received.takeSink other sinkTaken).silent fun _ => rfl, fun _ => rfl⟩
  | connects i connected =>
      have greeted : Received config streams sizes offered ignored { engine with
          transport := engine.transport.emit (.peerConnected (engine.transport.peers i).src) } :=
        received.of_transport rfl rfl
      refine (greeted.silent fun _ => rfl).turnPeer ?_ ?_
      · simp [TcpReceiver.emit, connected]
      · simp [TcpReceiver.emit, connected]
  | wakes i woken =>
      have before : Received config streams
          (fun j => sizes j ++ EngineAction.readSize j (.wake i)) offered ignored engine :=
        received.silent fun _ => rfl
      exact ⟨_, ignored, before.setPoint (by simp [woken]) .reading rfl, fun _ => rfl⟩
  | reads i n reading _ _ there => exact received.readPeer reading there
  | ends i reading =>
      exact (received.silent fun _ => rfl).finishPeer (by simp [reading]) (by simp [reading])
        (by simp)
  | fails i name reading =>
      exact (received.silent fun _ => rfl).finishPeer (by simp [reading]) (by simp [reading])
        (by simp)
  | stopsTransport =>
      exact ⟨_, ignored, (received.silent fun _ => rfl).of_transport rfl rfl, fun _ => rfl⟩
  | cancels i _ isOpen =>
      have before : Received config streams
          (fun j => sizes j ++ EngineAction.readSize j (.cancel i)) offered ignored engine :=
        received.silent fun _ => rfl
      have closed := before.setPoint isOpen (.closed .cancelled) rfl
      exact ⟨_, ignored, closed.of_transport rfl rfl, fun _ => rfl⟩
  | reconnects => exact apart.elim

/-! ## Runs -/

/-- The sizes of the reads of one handler. -/
def readSizes (actions : List (EngineAction P)) (i : Fin P) : List Nat :=
  actions.flatMap (EngineAction.readSize i)

/-- What one handler has read after these actions: its stream as far as it was read, cut up as it
was read, and whether the handler has come to its end. -/
def sessionOf (self : ReceiverEngine P) (streams : Fin P → Bytes) (actions : List (EngineAction P))
    (i : Fin P) : Session :=
  self.sessionIn streams (readSizes actions) i

theorem readSizes_concat (actions : List (EngineAction P)) (action : EngineAction P) :
    readSizes (actions ++ [action]) = fun i => readSizes actions i ++ action.readSize i := by
  funext i
  simp [readSizes]

section Runs

variable {config : ReceiverConfig} {srcs : Fin P → String} {streams : Fin P → Bytes}
  {cfg : SinkConfig} {files : String → Option Bytes} {actions : List (EngineAction P)}
  {final : ReceiverEngine P} (distinct : Function.Injective srcs) (sourced : ∀ i, srcs i ≠ "")

include distinct sourced

theorem init_received : Received config streams (fun _ => []) [] 0
    (ReceiverEngine.init (TcpReceiver.init config srcs streams) cfg files) where
  offers := by
    refine ⟨SinkWriter.init_intake cfg files, SinkWriter.init_ordered cfg files, rfl, ?_⟩
    simp [countersOf, ReceiverEngine.init, TcpReceiver.init, sessionIn, Session.ofPeer,
      Session.volume]
  distinct := distinct
  named := sourced
  handled := fun i => ⟨rfl, fun _ => rfl⟩
  own := fun _ => rfl
  known := fun item member => by cases member

variable (apart : ∀ action ∈ actions, action.FromPeers)
  (ran : Runs.run ReceiverEngine.step
    (ReceiverEngine.init (TcpReceiver.init config srcs streams) cfg files) actions = some final)

include apart ran

theorem received_run : ∃ offered ignored,
    Received config streams (readSizes actions) offered ignored final := by
  have each : Runs.Each ReceiverEngine.step (fun _ action => action.FromPeers)
      (ReceiverEngine.init (TcpReceiver.init config srcs streams) cfg files) actions :=
    Runs.each_of_only (fun _ _ met => met) apart
  have initial : ∃ offered ignored, Received config streams (readSizes []) offered ignored
      (ReceiverEngine.init (TcpReceiver.init config srcs streams) cfg files) :=
    ⟨_, _, init_received distinct sourced⟩
  have held := each.run_history (fun action => [action]) (fun past engine =>
    ∃ offered ignored, Received config streams (readSizes past) offered ignored engine) ?_
    initial ran
  · simpa only [List.nil_append, List.flatMap_singleton'] using held
  · intro past engine action next apart inv taken
    obtain ⟨_, _, received⟩ := inv
    obtain ⟨offered, more, later, _⟩ := received.step apart taken
    exact ⟨offered, more, by rwa [readSizes_concat]⟩

theorem received_run_enabled
    (enabled : Runs.Each ReceiverEngine.step (fun engine _ => engine.sink.cfg.enabled = true)
      (ReceiverEngine.init (TcpReceiver.init config srcs streams) cfg files) actions) :
    ∃ offered, Received config streams (readSizes actions) offered 0 final := by
  have initial : ∃ offered, Received config streams (readSizes []) offered 0
      (ReceiverEngine.init (TcpReceiver.init config srcs streams) cfg files) :=
    ⟨_, init_received distinct sourced⟩
  have held := (enabled.of_only apart).run_history (fun action => [action]) (fun past engine =>
    ∃ offered, Received config streams (readSizes past) offered 0 engine) ?_ initial ran
  · simpa only [List.nil_append, List.flatMap_singleton'] using held
  · intro past engine action next met inv taken
    obtain ⟨_, received⟩ := inv
    obtain ⟨offered, more, later, same⟩ := received.step met.1 taken
    rw [same met.2] at later
    exact ⟨offered, by rwa [readSizes_concat]⟩

end Runs

/-- The records of one source that the sink has written or still has to write. -/
def recordsFrom (self : ReceiverEngine P) (src : String) : List FramedRecord :=
  ((self.sink.file.written.map WrittenRecord.item ++
    self.sink.queue.filter QueueItem.isData).filter
      fun item => decide (item.src = src)).map QueueItem.record

/-- What has been counted of all items is the sum of what would be counted of each source. -/
theorem countP_eq_sum {srcs : Fin P → String} (distinct : Function.Injective srcs)
    (p : QueueItem → Bool) {items : List QueueItem}
    (known : ∀ item ∈ items, ∃ i, item.src = srcs i) :
    items.countP p = ∑ i, (items.filter fun item => decide (item.src = srcs i)).countP p := by
  induction items with
  | nil => simp
  | cons item rest ih =>
      obtain ⟨⟨i, source⟩, others⟩ := List.forall_mem_cons.mp known
      have here (j : Fin P) :
          ((item :: rest).filter fun item => decide (item.src = srcs j)).countP p =
            (rest.filter fun item => decide (item.src = srcs j)).countP p +
              if i = j then (if p item then 1 else 0) else 0 := by
        rw [List.filter_cons, source]
        by_cases same : i = j
        · simp [same, List.countP_cons]
        · simp [same, distinct.eq_iff]
      simp only [here, Finset.sum_add_distrib, Finset.sum_ite_eq, Finset.mem_univ, if_true]
      rw [List.countP_cons, ih others]

section Received

variable {config : ReceiverConfig} {streams : Fin P → Bytes} {sizes : Fin P → List Nat}
  {offered : List QueueItem} {ignored : Nat} {engine : ReceiverEngine P}
  (received : Received config streams sizes offered ignored engine)

include received

theorem Received.count (p : FramedRecord → Bool) :
    offered.countP (fun item => p item.record) =
      ∑ i, ((engine.sessionIn streams sizes i).records config).countP p := by
  rw [countP_eq_sum received.distinct _ received.known]
  refine Finset.sum_congr rfl fun i _ => ?_
  rw [received.own, List.countP_map]
  rfl

theorem Received.recordsReceived : engine.transport.recordsReceived =
    ∑ i, ((engine.sessionIn streams sizes i).records config).length := by
  have counted := received.count fun _ => true
  simp only [List.countP_true] at counted
  exact (congrArg Counters.recordsReceived received.offers.counters).trans counted

theorem Received.recordsFrom (i : Fin P) :
    (engine.recordsFrom (engine.transport.peers i).src).Sublist
      ((engine.sessionIn streams sizes i).records config) := by
  have part := (received.offers.ordered.writtenAndQueued.trans received.offers.intake.order).filter
    fun item => decide (item.src = (engine.transport.peers i).src)
  rw [received.own] at part
  have records := part.map QueueItem.record
  rw [List.map_map] at records
  have same : ((engine.sessionIn streams sizes i).records config).map
      (QueueItem.record ∘ peerItem (engine.transport.peers i).src) =
        (engine.sessionIn streams sizes i).records config := List.map_id _
  rw [same] at records
  exact records

end Received

/-- However many peers there are, in whatever order their chunks come, and whatever the sink drops,
pauses or fails to write: each stream is framed on its own up to where its handler has read; what
the sink has of a peer are records of that stream in their order, and it has no others; all records
and bytes are counted, and each record is accepted or counted as dropped while the sink is
enabled. -/
theorem peers_framed (config : ReceiverConfig) {srcs : Fin P → String}
    (distinct : Function.Injective srcs) (sourced : ∀ i, srcs i ≠ "") (streams : Fin P → Bytes)
    (cfg : SinkConfig) (files : String → Option Bytes) {actions : List (EngineAction P)}
    {final : ReceiverEngine P} (apart : ∀ action ∈ actions, action.FromPeers)
    (ran : Runs.run ReceiverEngine.step
      (ReceiverEngine.init (TcpReceiver.init config srcs streams) cfg files) actions =
        some final) :
    let session := final.sessionOf streams actions
    (∀ i, (session i).chunks.flatten ++ (final.transport.peers i).incoming = streams i ∧
        (final.recordsFrom (srcs i)).Sublist ((session i).records config)) ∧
      (∀ item ∈ final.sink.file.written.map WrittenRecord.item ++
        final.sink.queue.filter QueueItem.isData, ∃ i, item.src = srcs i) ∧
      final.transport.recordsReceived = ∑ i, ((session i).records config).length ∧
      final.transport.bytesReceived = ∑ i, (session i).volume ∧
      final.transport.truncations =
        ∑ i, ((session i).records config).countP FramedRecord.truncated ∧
      (Runs.Each ReceiverEngine.step (fun engine _ => engine.sink.cfg.enabled = true)
          (ReceiverEngine.init (TcpReceiver.init config srcs streams) cfg files) actions →
        final.sink.accepted.length + final.sink.recordsDropped =
          final.transport.recordsReceived) ∧
      (config.framingMode = .lf → ∀ i, (session i).ended = true → (session i).records config =
        referenceFrame lfSeparator config.maxRecordBytes (session i).chunks.flatten) := by
  obtain ⟨offered, ignored, received⟩ := received_run distinct sourced apart ran
  have names (i : Fin P) : (final.transport.peers i).src = srcs i := ReceiverEngine.run_src ran i
  have kept := received.offers.ordered.writtenAndQueued.trans received.offers.intake.order
  have counters := received.offers.counters
  refine ⟨?_, ?_, received.recordsReceived, congrArg Counters.bytesReceived counters, ?_, ?_, ?_⟩
  · intro i
    refine ⟨(received.handled i).consumed, ?_⟩
    rw [← names i]
    exact received.recordsFrom i
  · intro item member
    simp only [← names]
    exact received.known item (kept.subset member)
  · exact (congrArg Counters.truncations counters).trans (received.count FramedRecord.truncated)
  · intro enabled
    obtain ⟨_, whole⟩ := received_run_enabled distinct sourced apart ran enabled
    have total := whole.offers.intake.total
    have dropped : final.sink.recordsDropped = final.sink.refused := whole.offers.refusals
    have counted := congrArg Counters.recordsReceived whole.offers.counters
    dsimp only [countersOf] at counted
    omega
  · exact fun lf i ended => ClientEngine.records_of_ended config lf ended

/-! A record that is too long and does not fit into the queue, a tail that is flushed, and a handler
that is cancelled with half a record. -/

def shortRecords : ReceiverConfig where
  maxRecordBytes := 2
  max_pos := Nat.two_pos

def firstPeer : Fin 2 := 0

def secondPeer : Fin 2 := 1

def twoSources (i : Fin 2) : String := if i = firstPeer then "a:1" else "b:2"

def twoStreams (i : Fin 2) : Bytes :=
  if i = firstPeer then [0x61, 0x0A, 0x62, 0x0A] else [0x63, 0x64, 0x65, 0x0A, 0x66]

def cutShort : List (EngineAction 2) :=
  [.sink .start, .sink (.begin []), .connect firstPeer, .connect secondPeer, .read firstPeer 3,
    .read secondPeer 5, .eof secondPeer, .sink (.drain "t" [] []), .stopTransport,
    .cancel firstPeer]

theorem peers_framed_cut_short : ∃ final : ReceiverEngine 2,
    Runs.run ReceiverEngine.step
        (ReceiverEngine.init (TcpReceiver.init shortRecords twoSources twoStreams) twoByteQueue
          fun _ => none) cutShort = some final ∧
      let session := final.sessionOf twoStreams cutShort
      (∀ i, (session i).chunks.flatten ++ (final.transport.peers i).incoming = twoStreams i ∧
          (final.recordsFrom (twoSources i)).Sublist ((session i).records shortRecords)) ∧
        (∀ item ∈ final.sink.file.written.map WrittenRecord.item ++
          final.sink.queue.filter QueueItem.isData, ∃ i, item.src = twoSources i) ∧
        final.transport.recordsReceived = ∑ i, ((session i).records shortRecords).length ∧
        final.transport.bytesReceived = ∑ i, (session i).volume ∧
        final.transport.truncations =
          ∑ i, ((session i).records shortRecords).countP FramedRecord.truncated ∧
        (Runs.Each ReceiverEngine.step (fun engine _ => engine.sink.cfg.enabled = true)
            (ReceiverEngine.init (TcpReceiver.init shortRecords twoSources twoStreams) twoByteQueue
              fun _ => none) cutShort →
          final.sink.accepted.length + final.sink.recordsDropped =
            final.transport.recordsReceived) ∧
        (shortRecords.framingMode = .lf → ∀ i, (session i).ended = true →
          (session i).records shortRecords =
            referenceFrame lfSeparator shortRecords.maxRecordBytes (session i).chunks.flatten) := by
  have reached : (Runs.run ReceiverEngine.step
      (ReceiverEngine.init (TcpReceiver.init shortRecords twoSources twoStreams) twoByteQueue
        fun _ => none) cutShort).isSome = true := by decide +kernel
  obtain ⟨final, ran⟩ := Option.isSome_iff_exists.mp reached
  have distinct : Function.Injective twoSources := by
    intro left right
    revert left right
    decide
  exact ⟨final, ran, peers_framed shortRecords distinct (by decide) twoStreams twoByteQueue
    (fun _ => none) (by decide) ran⟩

end ReceiverEngine

end TcpSim.Engine
