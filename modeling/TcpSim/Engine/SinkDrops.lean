import TcpSim.Engine.Overshoot
import TcpSim.Engine.Reception
import TcpSim.Engine.SinkLoss

/-! When the sink drops records of a TCP receiver: exactly when a handler delivers more
than the queue has room for, and never if its cap leaves every peer its overshoot. -/

set_option autoImplicit false

namespace TcpSim.Engine

open Transport

variable {P : Nat}

/-! ## Room in the queue -/

/-- The records fit together into the queue of the sink, if it takes them at all. -/
def SinkWriter.HasRoom (sink : SinkWriter) (records : List FramedRecord) : Prop :=
  records = [] ∨ sink.cfg.enabled = false ∨
    sink.queuedBytes + volume records ≤ sink.cfg.queueMaxBytes

/-- The sink after it was given some records, one after the other. -/
structure SinkWriter.Given (before after : SinkWriter) (records : List FramedRecord) : Prop where
  cfg : after.cfg = before.cfg
  fits : before.HasRoom records → after.refused = before.refused ∧
    (before.cfg.enabled = true → after.queuedBytes = before.queuedBytes + volume records)
  exceeds : ¬before.HasRoom records → before.refused < after.refused

theorem SinkWriter.Given.refl (sink : SinkWriter) : sink.Given sink [] where
  cfg := rfl
  fits := fun _ => ⟨rfl, fun _ => by simp⟩
  exceeds := fun full => absurd (.inl rfl) full

theorem SinkWriter.Given.refused_le {before after : SinkWriter} {records : List FramedRecord}
    (given : before.Given after records) : before.refused ≤ after.refused := by
  by_cases room : before.HasRoom records
  · exact (given.fits room).1.ge
  · exact (given.exceeds room).le

theorem SinkWriter.Given.trans {first second third : SinkWriter}
    {left right : List FramedRecord} (earlier : first.Given second left)
    (later : second.Given third right) : first.Given third (left ++ right) where
  cfg := later.cfg.trans earlier.cfg
  fits := by
    intro room
    have leftRoom : first.HasRoom left := by
      rcases room with none | disabled | enough
      · exact .inl (List.append_eq_nil_iff.mp none).1
      · exact .inr (.inl disabled)
      · rw [volume_append] at enough
        exact .inr (.inr (by omega))
    obtain ⟨kept, queued⟩ := earlier.fits leftRoom
    have rightRoom : second.HasRoom right := by
      rcases room with none | disabled | enough
      · exact .inl (List.append_eq_nil_iff.mp none).2
      · exact .inr (.inl (by rw [earlier.cfg, disabled]))
      · cases enabled : first.cfg.enabled with
        | false => exact .inr (.inl (by rw [earlier.cfg, enabled]))
        | true =>
            rw [volume_append] at enough
            refine .inr (.inr ?_)
            rw [earlier.cfg, queued enabled]
            omega
    obtain ⟨stillKept, more⟩ := later.fits rightRoom
    refine ⟨stillKept.trans kept, ?_⟩
    intro enabled
    rw [more (by rw [earlier.cfg, enabled]), queued enabled, volume_append]
    omega
  exceeds := by
    intro full
    by_cases leftRoom : first.HasRoom left
    · obtain ⟨kept, queued⟩ := earlier.fits leftRoom
      have rightFull : ¬second.HasRoom right := by
        intro rightRoom
        apply full
        cases enabled : first.cfg.enabled with
        | false => exact .inr (.inl enabled)
        | true =>
            rcases rightRoom with rfl | disabled | enough
            · rw [List.append_nil]
              exact leftRoom
            · rw [earlier.cfg, enabled] at disabled
              cases disabled
            · rw [earlier.cfg, queued enabled] at enough
              refine .inr (.inr ?_)
              rw [volume_append]
              omega
      have refused := later.exceeds rightFull
      omega
    · have refused := earlier.exceeds leftRoom
      have more := later.refused_le
      omega

theorem ReceiverEngine.given_deliver (self : ReceiverEngine P) (src : String)
    (record : FramedRecord) : self.sink.Given (self.deliver src record).sink [record] := by
  have books := SinkWriter.submit_books self.sink record src
  have cfg := (self.deliver_sink src record).2.2
  have refused : (self.deliver src record).sink.refused = _ := congrArg Books.refused books
  have queued : (self.deliver src record).sink.queuedBytes = _ :=
    congrArg Books.queuedBytes books
  unfold Books.submit at refused queued
  have size : volume [record] = record.payload.length := by simp
  cases enabled : self.sink.cfg.enabled with
  | false =>
      simp only [enabled, Bool.not_false, if_true] at refused
      refine ⟨cfg, fun _ => ⟨refused, fun is => ?_⟩, fun full => absurd (.inr (.inl enabled)) full⟩
      rw [enabled] at is
      cases is
  | true =>
      simp only [enabled, Bool.not_true, Bool.false_eq_true, if_false] at refused queued
      split at refused
      next overfull =>
          have short : (self.sink.cfg.queueMaxBytes : Int) <
            self.sink.queuedBytes + record.payload.length := overfull
          refine ⟨cfg, fun room => ?_, fun _ => by rw [refused]; exact Nat.lt_succ_self _⟩
          rcases room with none | disabled | enough
          · cases none
          · rw [enabled] at disabled
            cases disabled
          · omega
      next fits =>
          rw [if_neg fits] at queued
          refine ⟨cfg, fun _ => ⟨by simpa [Books.accept, SinkWriter.books] using refused, fun _ => ?_⟩, fun full => ?_⟩
          · rw [size]
            simpa [Books.accept, QueueItem.size, SinkWriter.books] using queued
          · refine absurd (.inr (.inr ?_)) full
            have enough : self.sink.queuedBytes + record.payload.length ≤
              self.sink.cfg.queueMaxBytes := Int.not_lt.mp fits
            omega

theorem ReceiverEngine.given_deliverAll (self : ReceiverEngine P) (src : String)
    (records : List FramedRecord) : self.sink.Given (self.deliverAll src records).sink records := by
  induction records generalizing self with
  | nil => exact .refl self.sink
  | cons record rest ih => exact (self.given_deliver src record).trans (ih _)

/-! ## What a step delivers -/

/-- What the handler of peer `i` delivers when its loop has ended. -/
def ReceiverEngine.trailing (self : ReceiverEngine P) (i : Fin P) : List FramedRecord :=
  (self.transport.takeTrailing i).1.toList

/-- What it delivers at the top of its loop: nothing, unless the receiver is stopped. -/
def ReceiverEngine.turnDelivery (self : ReceiverEngine P) (i : Fin P) : List FramedRecord :=
  if self.transport.running then [] else self.trailing i

/-- The records framed from the bytes the step reads, and the trailing one it flushes. -/
def ReceiverEngine.delivery (self : ReceiverEngine P) : EngineAction P → List FramedRecord
  | .connect i => self.turnDelivery i
  | .read i n =>
      let (records, transport) := self.transport.takeChunk i n
      records ++ { self with transport }.turnDelivery i
  | .eof i | .readError i _ => self.trailing i
  | _ => []

theorem ReceiverEngine.given_finishPeer (self : ReceiverEngine P) (i : Fin P)
    (reason : CloseReason) :
    self.sink.Given (self.finishPeer i reason).sink (self.trailing i) := by
  let fed : ReceiverEngine P := { self with transport := (self.transport.takeTrailing i).2 }
  exact fed.given_deliverAll (self.transport.peers i).src (self.trailing i)

theorem ReceiverEngine.given_turnPeer (self : ReceiverEngine P) (i : Fin P) :
    self.sink.Given (self.turnPeer i).sink (self.turnDelivery i) := by
  unfold ReceiverEngine.turnPeer ReceiverEngine.turnDelivery
  split
  · exact .refl self.sink
  · exact self.given_finishPeer i .eof

/-- It depends on the receiver's flag and the framer of the peer only. -/
theorem ReceiverEngine.turnDelivery_eq (self : ReceiverEngine P) (i : Fin P) :
    self.turnDelivery i = if self.transport.running then []
      else (self.transport.peers i).framer.flush.1.toList := rfl

theorem ReceiverEngine.given_readPeer (self : ReceiverEngine P) (i : Fin P) (n : Nat) :
    self.sink.Given (self.readPeer i n).sink (self.delivery (.read i n)) := by
  let fed : ReceiverEngine P := { self with transport := (self.transport.takeChunk i n).2 }
  have chunk : self.sink.Given (self.chunkRead i n).sink (self.transport.takeChunk i n).1 :=
    fed.given_deliverAll (self.transport.peers i).src (self.transport.takeChunk i n).1
  have same : (self.chunkRead i n).turnDelivery i = fed.turnDelivery i := by
    have similar := fed.deliverAll_similar (self.transport.takeChunk i n).1
      (self.transport.peers i).src
    rw [ReceiverEngine.turnDelivery_eq, ReceiverEngine.turnDelivery_eq]
    exact similar.running ▸ similar.framer i ▸ rfl
  have turned := (self.chunkRead i n).given_turnPeer i
  rw [same] at turned
  exact chunk.trans turned

/-- The step's records fit into the queue. -/
def ReceiverEngine.FindsRoom (engine : ReceiverEngine P) (action : EngineAction P) : Prop :=
  engine.sink.HasRoom (engine.delivery action)

/-- A step refuses nothing exactly when its records fit. -/
theorem ReceiverEngine.refused_step_iff {engine next : ReceiverEngine P}
    {action : EngineAction P} (fixes : action.FixesConfig)
    (taken : engine.step action = some next) :
    next.sink.refused = engine.sink.refused ↔ engine.FindsRoom action := by
  have unchanged (nothing : engine.delivery action = [])
      (same : next.sink.refused = engine.sink.refused) :
      next.sink.refused = engine.sink.refused ↔ engine.FindsRoom action :=
    iff_of_true same (.inl nothing)
  have given (records : engine.sink.Given next.sink (engine.delivery action)) :
      next.sink.refused = engine.sink.refused ↔ engine.FindsRoom action := by
    constructor
    · intro same
      by_contra full
      exact absurd (records.exceeds full) (by omega)
    · intro room
      exact (records.fits room).1
  cases ReceiverEngine.steps_of_step taken with
  | sink sinkTaken => exact unchanged rfl (SinkWriter.step_submits fixes.sink.2 sinkTaken).2
  | connects i =>
      let transport := engine.transport.emit (.peerConnected (engine.transport.peers i).src)
      let greeted : ReceiverEngine P := { engine with transport }
      exact given (greeted.given_turnPeer i)
  | reads i n => exact given (engine.given_readPeer i n)
  | ends i => exact given (engine.given_finishPeer i .eof)
  | fails i name => exact given (engine.given_finishPeer i (.error name))
  | wakes | stopsTransport | cancels | reconnects => exact unchanged rfl rfl

/-! ## A cap that suffices -/

theorem ReceiverEngine.trailing_volume (engine : ReceiverEngine P) {config : ReceiverConfig}
    (sound : engine.transport.Sound config) (i : Fin P) :
    volume (engine.trailing i) ≤ (engine.transport.peers i).framer.held :=
  (Nat.le_add_right _ _).trans (Framer.flush_volume (sound.framers i)).2

theorem ReceiverEngine.turnDelivery_volume (engine : ReceiverEngine P) {config : ReceiverConfig}
    (sound : engine.transport.Sound config) (i : Fin P) :
    volume (engine.turnDelivery i) ≤ (engine.transport.peers i).framer.held := by
  unfold ReceiverEngine.turnDelivery
  split
  · simp
  · exact engine.trailing_volume sound i

theorem ReceiverEngine.delivery_le {engine next : ReceiverEngine P} {action : EngineAction P}
    {config : ReceiverConfig} (sound : engine.transport.Sound config)
    (taken : engine.step action = some next) :
    engine.delivery action = [] ∨ ∃ i, volume (engine.delivery action) ≤
      (engine.transport.peers i).allowance config.readChunkBytes := by
  cases ReceiverEngine.steps_of_step taken with
  | connects i connected =>
      refine .inr ⟨i, ?_⟩
      rw [Peer.allowance, connected]
      exact engine.turnDelivery_volume sound i
  | reads i n reading _ small =>
      rw [sound.configured] at small
      refine .inr ⟨i, ?_⟩
      have fed := (Framer.feed_volume (sound.framers i)
        ((engine.transport.peers i).incoming.take n)).2
      let read : ReceiverEngine P :=
        { engine with transport := (engine.transport.takeChunk i n).2 }
      have turned := read.turnDelivery_volume (sound.takeChunk i n) i
      have own : read.transport.peers i = (engine.transport.peers i).afterChunk n :=
        engine.transport.takeChunk_self i n
      have short : ((engine.transport.peers i).incoming.take n).length ≤ n := by simp
      have whole : volume (engine.delivery (.read i n)) =
          volume ((engine.transport.peers i).framer.feed
            ((engine.transport.peers i).incoming.take n)).1 +
          volume (read.turnDelivery i) := volume_append _ _
      rw [own] at turned
      simp only [Peer.afterChunk] at turned
      rw [whole, Peer.allowance, reading]
      dsimp only
      omega
  | ends i reading | fails i _ reading =>
      refine .inr ⟨i, ?_⟩
      rw [Peer.allowance, reading]
      exact (engine.trailing_volume sound i).trans (Nat.le_add_right _ _)
  | _ => exact .inl rfl

theorem ReceiverEngine.Bounded.findsRoom {engine next : ReceiverEngine P}
    {action : EngineAction P} {config : ReceiverConfig} {cfg : SinkConfig}
    (bounded : engine.Bounded config cfg) (large : queueBound P config cfg ≤ cfg.queueMaxBytes + 1)
    (taken : engine.step action = some next) : engine.FindsRoom action := by
  rcases ReceiverEngine.delivery_le bounded.sound taken with nothing | ⟨i, within⟩
  · exact .inl nothing
  refine .inr (.inr ?_)
  rw [bounded.regulated.configured]
  cases flag : engine.sink.backpressured with
  | true =>
      have queued := bounded.queued flag
      have own := engine.transport.allowance_le_overhang i config.readChunkBytes
      omega
  | false =>
      have below : engine.sink.queuedBytes < cfg.queueHighWatermarkBytes :=
        bounded.regulated.level.below flag
      have own := Peer.allowance_le (bounded.sound.framers i) config.readChunkBytes
      have some : config.readChunkBytes + config.maxRecordBytes ≤
        P * (config.readChunkBytes + config.maxRecordBytes) := Nat.le_mul_of_pos_left _ i.pos
      unfold queueBound at large
      omega

/-! ## Runs -/

/-- No `submit` has returned `false`, and the drop counter agrees. -/
def ReceiverEngine.DropsNothing (engine : ReceiverEngine P) : Prop :=
  engine.sink.refused = 0 ∧ engine.sink.recordsDropped = 0

theorem ReceiverEngine.counts_closed :
    ReceiverEngine.Closed (fun _ => True) (fun _ => True)
      (fun engine : ReceiverEngine P => engine.sink.CountsRefusals) where
  submit := fun _ _ _ => trivial
  sink := by
    intro engine action sink _ counts taken
    have after : sink.CountsRefusals := SinkWriter.countsRefusals_step counts taken
    exact after
  transport := fun _ _ counts _ => counts

/-- The invariant of a run: the bound of the queue, and refusals are counted. -/
def ReceiverEngine.Accounted (engine : ReceiverEngine P) (config : ReceiverConfig)
    (cfg : SinkConfig) : Prop :=
  engine.Bounded config cfg ∧ engine.sink.CountsRefusals

section Steps

variable {engine next : ReceiverEngine P} {action : EngineAction P} {config : ReceiverConfig}
  {cfg : SinkConfig} (fixes : action.FixesConfig) (accounted : engine.Accounted config cfg)
  (taken : engine.step action = some next)

include fixes accounted taken

theorem ReceiverEngine.accounted_step : next.Accounted config cfg :=
  ⟨ReceiverEngine.bounded_step fixes accounted.1 taken,
    ReceiverEngine.counts_closed.step (fun _ => trivial) accounted.2 (fun _ _ => trivial) taken⟩

theorem ReceiverEngine.dropsNothing_step_iff (good : engine.DropsNothing) :
    next.DropsNothing ↔ engine.FindsRoom action := by
  have counts : next.sink.recordsDropped = next.sink.refused :=
    (ReceiverEngine.accounted_step fixes accounted taken).2
  rw [← ReceiverEngine.refused_step_iff fixes taken, good.1]
  constructor
  · intro still
    exact still.1
  · intro none
    exact ⟨none, counts.trans none⟩

end Steps

/-- Over every run under a fixed configuration: nothing is dropped in any state exactly
when each step finds room for the records it delivers; and nothing is dropped if the cap
leaves every peer a chunk and a record above the high watermark. -/
theorem reception_drops_nothing_iff (config : ReceiverConfig) (srcs : Fin P → String)
    (streams : Fin P → Bytes) (cfg : SinkConfig) (files : String → Option Bytes)
    {actions : List (EngineAction P)} {final : ReceiverEngine P}
    (fixes : ∀ action ∈ actions, action.FixesConfig)
    (ran : Runs.run ReceiverEngine.step
      (ReceiverEngine.init (TcpReceiver.init config srcs streams) cfg files) actions =
      some final) :
    ((∀ visited, Runs.Visits ReceiverEngine.step
        (ReceiverEngine.init (TcpReceiver.init config srcs streams) cfg files) actions visited →
        visited.DropsNothing) ↔
      Runs.Each ReceiverEngine.step ReceiverEngine.FindsRoom
        (ReceiverEngine.init (TcpReceiver.init config srcs streams) cfg files) actions) ∧
    (cfg.queueHighWatermarkBytes + P * (config.readChunkBytes + config.maxRecordBytes) ≤
        cfg.queueMaxBytes + 1 →
      ∀ visited, Runs.Visits ReceiverEngine.step
        (ReceiverEngine.init (TcpReceiver.init config srcs streams) cfg files) actions visited →
        visited.DropsNothing) := by
  have start : (ReceiverEngine.init (TcpReceiver.init config srcs streams) cfg files).Accounted
      config cfg := ⟨ReceiverEngine.init_bounded config srcs streams cfg files, rfl⟩
  constructor
  · exact Runs.stays_iff_each EngineAction.FixesConfig
      (fun state : ReceiverEngine P => state.Accounted config cfg) ReceiverEngine.DropsNothing
      ReceiverEngine.FindsRoom
      (fun _ _ _ allowed held taken => ReceiverEngine.accounted_step allowed held taken)
      (fun _ _ _ allowed held good taken =>
        ReceiverEngine.dropsNothing_step_iff allowed held taken good)
      start ⟨rfl, rfl⟩ fixes ran
  · intro large visited visits
    refine (Runs.visits_invariant_of EngineAction.FixesConfig
      (fun state : ReceiverEngine P => state.Accounted config cfg ∧ state.DropsNothing)
      ?_ ⟨start, rfl, rfl⟩ fixes visits).2
    intro state action next allowed held taken
    obtain ⟨accounted, good⟩ := held
    exact ⟨ReceiverEngine.accounted_step allowed accounted taken,
      (ReceiverEngine.dropsNothing_step_iff allowed accounted taken good).mpr
        (accounted.1.findsRoom large taken)⟩

/-- With a cap of 8 above a watermark of 2, one peer with chunks of 3 and records of 2. -/
theorem reception_drops_nothing_small :
    ∃ final : ReceiverEngine 1, Runs.run ReceiverEngine.step
        (ReceiverEngine.init
          (TcpReceiver.init { readChunkBytes := 3, maxRecordBytes := 2 } (fun _ => "a:1")
            fun _ => [0x61, 0x62, 0x0A, 0x63])
          { enabled := true, path := some "sink.log", queueHighWatermarkBytes := 2,
            queueLowWatermarkBytes := 1, queueMaxBytes := 8 } fun _ => none)
        [.sink .start, .sink (.begin []), .connect 0, .read 0 3] = some final ∧
      final.DropsNothing := by
  have ran := (Option.some_get (by decide +kernel : (Runs.run ReceiverEngine.step
    (ReceiverEngine.init
      (TcpReceiver.init { readChunkBytes := 3, maxRecordBytes := 2 } (fun _ : Fin 1 => "a:1")
        fun _ => [0x61, 0x62, 0x0A, 0x63])
      { enabled := true, path := some "sink.log", queueHighWatermarkBytes := 2,
        queueLowWatermarkBytes := 1, queueMaxBytes := 8 } fun _ => none)
    [.sink .start, .sink (.begin []), .connect 0, .read 0 3]).isSome = true)).symm
  have held := reception_drops_nothing_iff { readChunkBytes := 3, maxRecordBytes := 2 }
    (fun _ : Fin 1 => "a:1") (fun _ => [0x61, 0x62, 0x0A, 0x63]) _ _
    (by simp [EngineAction.FixesConfig, SinkAction.FixesConfig]) ran
  exact ⟨_, ran, held.2 (by decide) _ ⟨_, List.prefix_rfl, ran⟩⟩

/-- A cap equal to the watermark: the first record of two bytes is dropped. -/
theorem reception_drops_record :
    ∃ final : ReceiverEngine 1, Runs.run ReceiverEngine.step
        (ReceiverEngine.init
          (TcpReceiver.init {} (fun _ => "a:1") fun _ => [0x61, 0x62, 0x0A])
          { enabled := true, path := some "sink.log", queueHighWatermarkBytes := 1,
            queueLowWatermarkBytes := 0, queueMaxBytes := 1 } fun _ => none)
        [.sink .start, .sink (.begin []), .connect 0, .read 0 3] = some final ∧
      ¬final.DropsNothing := by
  have ran := (Option.some_get (by decide +kernel : (Runs.run ReceiverEngine.step
    (ReceiverEngine.init
      (TcpReceiver.init {} (fun _ : Fin 1 => "a:1") fun _ => [0x61, 0x62, 0x0A])
      { enabled := true, path := some "sink.log", queueHighWatermarkBytes := 1,
        queueLowWatermarkBytes := 0, queueMaxBytes := 1 } fun _ => none)
    [.sink .start, .sink (.begin []), .connect 0, .read 0 3]).isSome = true)).symm
  refine ⟨_, ran, ?_⟩
  intro nothing
  revert nothing
  unfold ReceiverEngine.DropsNothing
  decide +kernel

end TcpSim.Engine
