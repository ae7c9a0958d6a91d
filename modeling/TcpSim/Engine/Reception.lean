import TcpSim.Engine.FramerProperties
import TcpSim.Engine.ReceiverProperties
import TcpSim.Engine.SinkLog

/-! The receive path from end to end: what every peer sends arrives in the sink as
the split of its stream, in order and apart from the other peers. -/

set_option autoImplicit false

namespace TcpSim.Engine

open Transport

variable {P : Nat}

/-! ## Framing one chunk after the other -/

theorem Framer.feedAll_append_singleton (self : Framer) (chunks : List Bytes) (chunk : Bytes) :
    self.feedAll (chunks ++ [chunk]) =
      ((self.feedAll chunks).1 ++ ((self.feedAll chunks).2.feed chunk).1,
        ((self.feedAll chunks).2.feed chunk).2) := by
  induction chunks generalizing self with
  | nil => simp [Framer.feedAll]
  | cons first rest ih => simp [Framer.feedAll, ih]

theorem Framer.frame_eq_feedAll (self : Framer) (chunks : List Bytes) :
    (self.frame chunks).1 =
      (self.feedAll chunks).1 ++ (self.feedAll chunks).2.flush.1.toList := rfl

/-- How far a peer's stream has come: `records` are those its handler delivered. -/
inductive Progress (config : ReceiverConfig) (stream : Bytes) (peer : Peer)
    (records : List FramedRecord) : Prop where
  | going (chunks : List Bytes) (consumed : chunks.flatten ++ peer.incoming = stream)
      (framed : (Framer.fresh config.framingMode config.maxRecordBytes config.max_pos).feedAll
        chunks = (records, peer.framer))
      (isOpen : ∀ reason, peer.point ≠ .closed reason)
  | flushed (chunks : List Bytes) (consumed : chunks.flatten ++ peer.incoming = stream)
      (framed : ((Framer.fresh config.framingMode config.maxRecordBytes config.max_pos).frame
        chunks).1 = records)
      (ended : ∃ reason, peer.point = .closed reason)
  | cancelled (point : peer.point = .closed .cancelled)

theorem Progress.of_open {config : ReceiverConfig} {stream : Bytes} {peer : Peer}
    {records : List FramedRecord} (progress : Progress config stream peer records)
    (isOpen : ∀ reason, peer.point ≠ .closed reason) (point : PeerPoint)
    (stillOpen : ∀ reason, point ≠ .closed reason) :
    Progress config stream { peer with point } records := by
  cases progress with
  | going chunks consumed framed => exact .going chunks consumed framed stillOpen
  | flushed _ _ _ ended =>
      obtain ⟨reason, closed⟩ := ended
      exact absurd closed (isOpen reason)
  | cancelled closed => exact absurd closed (isOpen .cancelled)

theorem Progress.wake {config : ReceiverConfig} {stream : Bytes} {peer : Peer}
    {records : List FramedRecord} (progress : Progress config stream peer records) :
    Progress config stream peer.wake records := by
  unfold Peer.wake
  split
  next waiting => exact progress.of_open (by simp [waiting]) .woken (by simp)
  next => exact progress

theorem Progress.feed {config : ReceiverConfig} {stream : Bytes} {peer : Peer}
    {records : List FramedRecord} (progress : Progress config stream peer records)
    (isOpen : ∀ reason, peer.point ≠ .closed reason) (n : Nat) :
    Progress config stream
      { peer with
        framer := (peer.framer.feed (peer.incoming.take n)).2
        incoming := peer.incoming.drop n }
      (records ++ (peer.framer.feed (peer.incoming.take n)).1) := by
  cases progress with
  | going chunks consumed framed =>
      refine .going (chunks ++ [peer.incoming.take n]) ?_ ?_ isOpen
      · simpa using consumed
      · rw [Framer.feedAll_append_singleton, framed]
  | flushed _ _ _ ended =>
      obtain ⟨reason, closed⟩ := ended
      exact absurd closed (isOpen reason)
  | cancelled closed => exact absurd closed (isOpen .cancelled)

theorem Progress.flush {config : ReceiverConfig} {stream : Bytes} {peer : Peer}
    {records : List FramedRecord} (progress : Progress config stream peer records)
    (isOpen : ∀ reason, peer.point ≠ .closed reason) (reason : CloseReason) :
    Progress config stream
      { peer with framer := peer.framer.flush.2, point := .closed reason }
      (records ++ peer.framer.flush.1.toList) := by
  cases progress with
  | going chunks consumed framed =>
      refine .flushed chunks consumed ?_ ⟨reason, rfl⟩
      rw [Framer.frame_eq_feedAll, framed]
  | flushed _ _ _ ended =>
      obtain ⟨reason, closed⟩ := ended
      exact absurd closed (isOpen reason)
  | cancelled closed => exact absurd closed (isOpen .cancelled)

/-! ## Submitting -/

theorem ReceiverEngine.deliver_sink (self : ReceiverEngine P) (src : String)
    (record : FramedRecord) :
    (self.deliver src record).sink.accepted = (self.sink.submit record src).2.accepted ∧
      (self.deliver src record).sink.refused = (self.sink.submit record src).2.refused ∧
      (self.deliver src record).sink.cfg = self.sink.cfg := by
  refine ⟨rfl, rfl, ?_⟩
  rcases SinkWriter.submit_logView self.sink record src with view | view
  · exact congrArg LogView.cfg view
  · exact congrArg LogView.cfg view

theorem SinkWriter.submit_accepted {sink : SinkWriter} (enabled : sink.cfg.enabled = true)
    {record : FramedRecord} {src : String}
    (kept : (sink.submit record src).2.refused ≤ sink.refused) :
    (sink.submit record src).2.accepted =
      sink.accepted ++ [{ record := record, src := src }] := by
  have books := SinkWriter.submit_books sink record src
  have refused := congrArg Books.refused books
  have accepted := congrArg Books.accepted books
  simp only [Books.submit, enabled, Bool.not_true, Bool.false_eq_true, if_false] at refused accepted
  split at refused
  next full =>
      have more : (sink.submit record src).2.refused = sink.refused + 1 := refused
      omega
  next room =>
      rw [if_neg room] at accepted
      simpa [Books.accept, SinkWriter.books] using accepted

theorem SinkWriter.refused_le_of_step {sink next : SinkWriter} {action : SinkAction}
    (taken : sink.step action = some next) : sink.refused ≤ next.refused := by
  have entry := SinkWriter.step_entry taken
  suffices sink.books.refused ≤ next.books.refused from this
  generalize next.books = books at entry
  cases entry with
  | idle => exact le_rfl
  | enqueue => exact le_rfl
  | submit record src =>
      unfold Books.submit
      split
      · exact le_rfl
      · split
        · exact Nat.le_succ _
        · simp [Books.accept]
  | drain head entry => exact entry.refused.ge

theorem ReceiverEngine.refused_closed (refused : Nat) :
    ReceiverEngine.Closed (fun _ => True) (fun _ => True)
      (fun engine : ReceiverEngine P => refused ≤ engine.sink.refused) where
  submit := fun _ _ _ => trivial
  sink := by
    intro engine action sink _ least taken
    have grows : engine.sink.refused ≤ sink.refused := SinkWriter.refused_le_of_step taken
    exact least.trans grows
  transport := fun _ _ least _ => least

theorem ReceiverEngine.deliverAll_refused (self : ReceiverEngine P) (records : List FramedRecord)
    (src : String) : self.sink.refused ≤ (self.deliverAll src records).sink.refused :=
  (ReceiverEngine.refused_closed self.sink.refused).deliverAll trivial records le_rfl

theorem ReceiverEngine.deliverAll_accepted (self : ReceiverEngine P)
    (enabled : self.sink.cfg.enabled = true) (records : List FramedRecord) (src : String)
    (kept : (self.deliverAll src records).sink.refused ≤ self.sink.refused) :
    (self.deliverAll src records).sink.accepted = self.sink.accepted ++
      records.map fun record => { record := record, src := src } := by
  induction records generalizing self with
  | nil => simp [ReceiverEngine.deliverAll]
  | cons record rest ih =>
      obtain ⟨accepted, refused, cfg⟩ := self.deliver_sink src record
      have first := SinkWriter.refused_le_of_step
        (rfl : self.sink.step (.submit record src) = some (self.sink.submit record src).2)
      have others := (self.deliver src record).deliverAll_refused rest src
      have total : ((self.deliver src record).deliverAll src rest).sink.refused ≤
        self.sink.refused := kept
      have submitted := @SinkWriter.submit_accepted self.sink enabled record src (by omega)
      have delivered := ih (self.deliver src record) (by rw [cfg]; exact enabled) (by omega)
      refine delivered.trans ?_
      rw [accepted, submitted, List.map_cons, List.append_assoc]
      rfl

theorem ReceiverEngine.deliverAll_cfg (self : ReceiverEngine P) (records : List FramedRecord)
    (src : String) : (self.deliverAll src records).sink.cfg = self.sink.cfg := by
  induction records generalizing self with
  | nil => rfl
  | cons record rest ih => exact (ih _).trans (self.deliver_sink src record).2.2

/-! ## The invariant -/

/-- The records accepted from a source are those its peer's handler delivered. -/
structure ReceiverEngine.Recorded (engine : ReceiverEngine P) (config : ReceiverConfig)
    (streams : Fin P → Bytes) : Prop where
  distinct : Function.Injective fun i => (engine.transport.peers i).src
  enabled : engine.sink.cfg.enabled = true
  records : ∀ i, ∃ records, Progress config (streams i) (engine.transport.peers i) records ∧
    engine.sink.accepted.filter
        (fun item => decide (item.src = (engine.transport.peers i).src)) =
      records.map fun record => { record := record, src := (engine.transport.peers i).src }

private theorem filter_items_self (records : List FramedRecord) (src : String) :
    (records.map fun record => QueueItem.mk record src false).filter
        (fun item => decide (item.src = src)) =
      records.map fun record => QueueItem.mk record src false := by
  rw [List.filter_eq_self]
  intro item member
  obtain ⟨record, _, rfl⟩ := List.mem_map.mp member
  simp

private theorem filter_items_other (records : List FramedRecord) {src other : String}
    (apart : src ≠ other) :
    (records.map fun record => QueueItem.mk record src false).filter
        (fun item => decide (item.src = other)) = [] := by
  rw [List.filter_eq_nil_iff]
  intro item member
  obtain ⟨record, _, rfl⟩ := List.mem_map.mp member
  simpa using apart

/-- Peer `i` makes progress by `added`, which the sink accepts; the other peers
are woken at most. -/
theorem ReceiverEngine.Recorded.extend {engine next : ReceiverEngine P}
    {config : ReceiverConfig} {streams : Fin P → Bytes} (recorded : engine.Recorded config streams)
    (i : Fin P) (added : List FramedRecord)
    (srcs : ∀ j, (next.transport.peers j).src = (engine.transport.peers j).src)
    (cfg : next.sink.cfg = engine.sink.cfg)
    (own : ∀ records, Progress config (streams i) (engine.transport.peers i) records →
      Progress config (streams i) (next.transport.peers i) (records ++ added))
    (others : ∀ j, j ≠ i → next.transport.peers j = engine.transport.peers j ∨
      next.transport.peers j = (engine.transport.peers j).wake)
    (accepted : next.sink.accepted = engine.sink.accepted ++ added.map fun record =>
      { record := record, src := (engine.transport.peers i).src }) :
    next.Recorded config streams where
  distinct := by
    intro left right same
    simp only [srcs] at same
    exact recorded.distinct same
  enabled := by
    rw [cfg]
    exact recorded.enabled
  records := by
    intro j
    obtain ⟨records, progress, delivered⟩ := recorded.records j
    rw [srcs j, accepted, List.filter_append, delivered]
    by_cases this : j = i
    · subst this
      refine ⟨records ++ added, own records progress, ?_⟩
      rw [filter_items_self, List.map_append]
    · have apart : (engine.transport.peers i).src ≠ (engine.transport.peers j).src :=
        fun same => this (recorded.distinct same).symm
      refine ⟨records, ?_, by rw [filter_items_other added apart, List.append_nil]⟩
      rcases others j this with same | woken
      · rw [same]
        exact progress
      · rw [woken]
        exact progress.wake

theorem ReceiverEngine.Recorded.takeSink {engine : ReceiverEngine P} {sink : SinkWriter}
    {config : ReceiverConfig} {streams : Fin P → Bytes} (recorded : engine.Recorded config streams)
    (enabled : sink.cfg.enabled = true) (accepted : sink.accepted = engine.sink.accepted) :
    (engine.takeSink sink).Recorded config streams where
  distinct := by
    intro left right same
    simp only [(engine.takeSink_similar sink).src] at same
    exact recorded.distinct same
  enabled := enabled
  records := by
    intro j
    obtain ⟨records, progress, delivered⟩ := recorded.records j
    have same : (engine.takeSink sink).sink.accepted = engine.sink.accepted := accepted
    rw [(engine.takeSink_similar sink).src, same]
    refine ⟨records, ?_, delivered⟩
    rcases (engine.takeSink_similar sink).peers j with same | woken
    · rw [same]
      exact progress
    · rw [woken]
      exact progress.wake

/-! ## Steps -/

section Recorded

variable {engine : ReceiverEngine P} {config : ReceiverConfig} {streams : Fin P → Bytes}
  (recorded : engine.Recorded config streams)

include recorded

theorem ReceiverEngine.Recorded.chunkRead {i : Fin P} (n : Nat)
    (reading : (engine.transport.peers i).point = .reading)
    (kept : (engine.chunkRead i n).sink.refused ≤ engine.sink.refused) :
    (engine.chunkRead i n).Recorded config streams := by
  have busy : (engine.transport.peers i).point ≠ .waiting := by simp [reading]
  obtain ⟨own, others⟩ := engine.chunkRead_peers n busy
  let records := (engine.transport.takeChunk i n).1
  let src := (engine.transport.peers i).src
  let fed : ReceiverEngine P := { engine with transport := (engine.transport.takeChunk i n).2 }
  have accepted := fed.deliverAll_accepted recorded.enabled records src kept
  refine recorded.extend i records ?_ (fed.deliverAll_cfg records src) ?_ others accepted
  · intro j
    unfold ReceiverEngine.chunkRead
    rw [(ReceiverEngine.deliverAll_similar _ _ _).src, TcpReceiver.takeChunk_src]
  · intro records progress
    rw [own]
    exact progress.feed (by simp [reading]) n

theorem ReceiverEngine.Recorded.finishPeer {i : Fin P} (reason : CloseReason)
    (busy : (engine.transport.peers i).point ≠ .waiting)
    (isOpen : ∀ reason, (engine.transport.peers i).point ≠ .closed reason)
    (kept : (engine.finishPeer i reason).sink.refused ≤ engine.sink.refused) :
    (engine.finishPeer i reason).Recorded config streams := by
  obtain ⟨own, others⟩ := engine.finishPeer_peers reason busy
  let trailing := (engine.transport.takeTrailing i).1.toList
  let src := (engine.transport.peers i).src
  let fed : ReceiverEngine P := { engine with transport := (engine.transport.takeTrailing i).2 }
  have accepted := fed.deliverAll_accepted recorded.enabled trailing src kept
  refine recorded.extend i trailing (engine.finishPeer_src i reason)
    (fed.deliverAll_cfg trailing src) ?_ others accepted
  intro records progress
  rw [own]
  exact progress.flush isOpen reason

theorem ReceiverEngine.Recorded.setPoint {i : Fin P} (point : PeerPoint)
    (moves : ∀ records, Progress config (streams i) (engine.transport.peers i) records →
      Progress config (streams i) { engine.transport.peers i with point } records) :
    { engine with transport := engine.transport.setPoint i point }.Recorded config streams := by
  refine recorded.extend i [] (engine.transport.setPoint_src i point) rfl ?_ ?_ ?_
  · intro records progress
    rw [List.append_nil]
    exact (engine.transport.setPoint_self i point).symm ▸ moves records progress
  · intro j other
    exact .inl (engine.transport.setPoint_other other point)
  · simp

theorem ReceiverEngine.Recorded.turnPeer {i : Fin P}
    (busy : (engine.transport.peers i).point ≠ .waiting)
    (isOpen : ∀ reason, (engine.transport.peers i).point ≠ .closed reason)
    (kept : (engine.turnPeer i).sink.refused ≤ engine.sink.refused) :
    (engine.turnPeer i).Recorded config streams := by
  unfold ReceiverEngine.turnPeer at kept ⊢
  split at kept
  next running =>
      rw [if_pos running]
      refine recorded.setPoint _ fun _ progress => progress.of_open isOpen _ ?_
      intro reason
      split
      · simp
      · simp
  next stopped =>
      rw [if_neg stopped]
      exact recorded.finishPeer .eof busy isOpen kept

theorem ReceiverEngine.Recorded.readPeer {i : Fin P} (n : Nat)
    (reading : (engine.transport.peers i).point = .reading)
    (kept : (engine.readPeer i n).sink.refused ≤ engine.sink.refused) :
    (engine.readPeer i n).Recorded config streams := by
  let read := engine.chunkRead i n
  let fed : ReceiverEngine P := { engine with transport := (engine.transport.takeChunk i n).2 }
  have point : (read.transport.peers i).point = .reading := by
    rw [(engine.chunkRead_peers n (by simp [reading])).1]
    exact reading
  have first : engine.sink.refused ≤ read.sink.refused :=
    fed.deliverAll_refused (engine.transport.takeChunk i n).1 (engine.transport.peers i).src
  have second : read.sink.refused ≤ (read.turnPeer i).sink.refused :=
    (ReceiverEngine.refused_closed read.sink.refused).turnPeer (fun _ => trivial) le_rfl i
  have total : (read.turnPeer i).sink.refused ≤ engine.sink.refused := kept
  have afterChunk : read.Recorded config streams :=
    recorded.chunkRead n reading (second.trans total)
  exact afterChunk.turnPeer (by simp [point]) (by simp [point]) (total.trans first)

end Recorded

/-- The actions of a run that receives one stream from each peer and keeps one log
without a failing file operation; only the handlers submit records. -/
def EngineAction.Receives (base : String) (count : Nat) : EngineAction P → Prop
  | .sink (.submit _ _) => False
  | .sink action => action.KeepsLog base count
  | .reconnect _ _ => False
  | _ => True

theorem EngineAction.Receives.keepsLog {base : String} {count : Nat} {action : SinkAction}
    (receives : (EngineAction.sink action : EngineAction P).Receives base count) :
    action.KeepsLog base count ∧ ∀ record src, action ≠ .submit record src := by
  cases action with
  | submit => exact receives.elim
  | _ => exact ⟨receives, by simp⟩

theorem ReceiverEngine.recorded_step {engine next : ReceiverEngine P} {action : EngineAction P}
    {config : ReceiverConfig} {streams : Fin P → Bytes} {base : String} {count : Nat}
    (receives : action.Receives base count) (enabled : next.sink.cfg.enabled = true)
    (recorded : engine.Recorded config streams) (taken : engine.step action = some next)
    (kept : next.sink.refused ≤ engine.sink.refused) : next.Recorded config streams := by
  cases ReceiverEngine.steps_of_step taken with
  | sink sinkTaken =>
      exact recorded.takeSink enabled (SinkWriter.step_submits receives.keepsLog.2 sinkTaken).1
  | connects i connected =>
      let transport := engine.transport.emit (.peerConnected (engine.transport.peers i).src)
      have greeted : { engine with transport }.Recorded config streams :=
        ⟨recorded.distinct, recorded.enabled, recorded.records⟩
      have point : (transport.peers i).point = .connected := connected
      exact greeted.turnPeer (by simp [point]) (by simp [point]) kept
  | wakes i woken =>
      exact recorded.setPoint .reading fun _ progress =>
        progress.of_open (by simp [woken]) .reading (by simp)
  | reads i n reading => exact recorded.readPeer n reading kept
  | ends i reading =>
      exact recorded.finishPeer .eof (by simp [reading]) (by simp [reading]) kept
  | fails i name reading =>
      exact recorded.finishPeer (.error name) (by simp [reading]) (by simp [reading]) kept
  | stopsTransport => exact ⟨recorded.distinct, recorded.enabled, recorded.records⟩
  | cancels i =>
      have cancelled := @ReceiverEngine.Recorded.setPoint P engine config streams recorded i
        (.closed .cancelled) fun _ _ => .cancelled rfl
      exact ⟨cancelled.distinct, cancelled.enabled, cancelled.records⟩
  | reconnects => exact receives.elim

end TcpSim.Engine
