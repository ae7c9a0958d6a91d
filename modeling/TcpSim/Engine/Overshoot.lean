import TcpSim.Engine.Regulation
import TcpSim.Transport.ReceiverVolume

/-! How far the queue grows past the high watermark: a paused peer finishes the read
it is in, so each adds at most one chunk and what its framer held back. -/

set_option autoImplicit false

namespace TcpSim.Engine

open Transport

variable {P : Nat}

/-! ## The framers stay sound -/

section Engine

variable {engine : ReceiverEngine P} {config : ReceiverConfig}
  (sound : engine.transport.Sound config)

include sound

theorem ReceiverEngine.sound_chunkRead (i : Fin P) (n : Nat) :
    (engine.chunkRead i n).transport.Sound config := by
  let fed : ReceiverEngine P := { engine with transport := (engine.transport.takeChunk i n).2 }
  exact (sound.takeChunk i n).similar (fed.deliverAll_similar _ _)

theorem ReceiverEngine.sound_finishPeer (i : Fin P) (reason : CloseReason) :
    (engine.finishPeer i reason).transport.Sound config := by
  let fed : ReceiverEngine P := { engine with transport := (engine.transport.takeTrailing i).2 }
  exact ((sound.takeTrailing i).similar (fed.deliverAll_similar _ _)).disconnect i reason

theorem ReceiverEngine.sound_turnPeer (i : Fin P) :
    (engine.turnPeer i).transport.Sound config := by
  unfold ReceiverEngine.turnPeer
  split
  · exact sound.setPoint i _
  · exact ReceiverEngine.sound_finishPeer sound i .eof

theorem ReceiverEngine.sound_step {next : ReceiverEngine P} {action : EngineAction P}
    (taken : engine.step action = some next) : next.transport.Sound config := by
  cases ReceiverEngine.steps_of_step taken with
  | sink => exact sound.similar (engine.takeSink_similar _)
  | connects i =>
      let transport := engine.transport.emit (.peerConnected (engine.transport.peers i).src)
      have greeted : transport.Sound config := ⟨sound.configured, sound.framers⟩
      exact @ReceiverEngine.sound_turnPeer P { engine with transport } config greeted i
  | wakes i => exact sound.setPoint i .reading
  | reads i n => exact ReceiverEngine.sound_turnPeer (ReceiverEngine.sound_chunkRead sound i n) i
  | ends i => exact ReceiverEngine.sound_finishPeer sound i .eof
  | fails i name => exact ReceiverEngine.sound_finishPeer sound i (.error name)
  | stopsTransport => exact ⟨sound.configured, sound.framers⟩
  | cancels i => exact sound.disconnect i .cancelled
  | reconnects i stream =>
      refine sound.setPeer ?_
      rw [sound.configured]
      exact Framer.fresh_sound _ _ config.max_pos

end Engine

/-! ## What a handler adds -/

section Handler

variable {engine : ReceiverEngine P} {config : ReceiverConfig} {cfg : SinkConfig}
  (regulated : engine.Regulated cfg) (sound : engine.transport.Sound config)

include regulated sound

theorem ReceiverEngine.finishPeer_grows {i : Fin P} (reason : CloseReason)
    (busy : (engine.transport.peers i).point ≠ .waiting) :
    (∃ amount ≤ (engine.transport.peers i).framer.held,
        engine.Grows (engine.finishPeer i reason) i amount) ∧
      ((engine.finishPeer i reason).transport.peers i).Idle := by
  have flushed := (Framer.flush_volume (sound.framers i)).2
  refine ⟨⟨_, ?_, regulated.finishPeer i reason⟩, .inr ⟨reason, ?_⟩⟩
  · exact (Nat.le_add_right _ _).trans flushed
  · rw [(engine.finishPeer_peers reason busy).1]

/-- At the top of its loop a handler adds at most what its framer held back, and does
not read if the flag is set. -/
theorem ReceiverEngine.turnPeer_grows {i : Fin P}
    (busy : (engine.transport.peers i).point ≠ .waiting) :
    (∃ amount ≤ (engine.transport.peers i).framer.held,
        engine.Grows (engine.turnPeer i) i amount) ∧
      ((engine.turnPeer i).sink.backpressured = true →
        ((engine.turnPeer i).transport.peers i).Idle) := by
  unfold ReceiverEngine.turnPeer
  split
  · constructor
    · exact ⟨0, Nat.zero_le _, .of_transport fun j other =>
        engine.transport.setPoint_other other _⟩
    · intro flag
      have paused : engine.transport.paused = true := regulated.paused.trans flag
      refine .inl ?_
      simp only [TcpReceiver.nextRead, TcpReceiver.setPoint_self, paused, if_true]
  · obtain ⟨grows, idle⟩ := ReceiverEngine.finishPeer_grows regulated sound .eof busy
    exact ⟨grows, fun _ => idle⟩

/-- A read of `n` bytes adds at most these and what the framer held back. -/
theorem ReceiverEngine.readPeer_grows {i : Fin P} (n : Nat)
    (reading : (engine.transport.peers i).point = .reading) :
    (∃ amount ≤ (engine.transport.peers i).framer.held + n,
        engine.Grows (engine.readPeer i n) i amount) ∧
      ((engine.readPeer i n).sink.backpressured = true →
        ((engine.readPeer i n).transport.peers i).Idle) := by
  have own := (engine.chunkRead_peers n (by simp [reading] :
    (engine.transport.peers i).point ≠ .waiting)).1
  have delivered : (engine.chunkRead i n).Regulated cfg :=
    (ReceiverEngine.regulated_closed cfg).chunkRead (fun _ => trivial) regulated i n
  have chunk := regulated.chunkRead i n
  obtain ⟨⟨amount, held, turned⟩, idle⟩ := ReceiverEngine.turnPeer_grows delivered
    (ReceiverEngine.sound_chunkRead sound i n) (by rw [own]; simp [Peer.afterChunk, reading])
  have fed := (Framer.feed_volume (sound.framers i)
    ((engine.transport.peers i).incoming.take n)).2
  refine ⟨⟨_, ?_, chunk.trans turned⟩, idle⟩
  rw [own] at held
  have short : ((engine.transport.peers i).incoming.take n).length ≤ n := by simp
  have emitted : (engine.transport.takeChunk i n).1 =
    ((engine.transport.peers i).framer.feed ((engine.transport.peers i).incoming.take n)).1 := rfl
  rw [emitted]
  simp only [Peer.afterChunk] at held
  omega

end Handler

/-! ## Steps of a handler -/

def EngineAction.peer : EngineAction P → Option (Fin P)
  | .connect i | .wake i | .read i _ | .eof i | .readError i _ | .cancel i | .reconnect i _ =>
      some i
  | .sink _ | .stopTransport => none

/-- The step completes a `reader.read()` of peer `i`. -/
def EngineAction.completesRead (i : Fin P) : EngineAction P → Bool
  | .read j _ | .eof j | .readError j _ => decide (j = i)
  | _ => false

theorem EngineAction.peer_of_completesRead {action : EngineAction P} {i : Fin P}
    (completes : action.completesRead i = true) : action.peer = some i := by
  cases action with
  | read j n => exact congrArg some (of_decide_eq_true completes)
  | eof j => exact congrArg some (of_decide_eq_true completes)
  | readError j name => exact congrArg some (of_decide_eq_true completes)
  | _ => cases completes

/-- A step of peer `i`: it delivers within its allowance and then does not read while
the flag is set, or it delivers nothing and gains nothing. -/
inductive ReceiverEngine.HandlerStep (engine next : ReceiverEngine P) (action : EngineAction P)
    (i : Fin P) (chunk : Nat) : Prop where
  | delivers (amount : Nat) (covered : amount ≤ (engine.transport.peers i).allowance chunk)
      (grows : engine.Grows next i amount)
      (idle : next.sink.backpressured = true → (next.transport.peers i).Idle)
      (reads : action.completesRead i = true → (engine.transport.peers i).point = .reading)
  | moves (grows : engine.Grows next i 0) (quiet : action.completesRead i = false)
      (less : (next.transport.peers i).allowance chunk ≤ (engine.transport.peers i).allowance chunk)
      (reading : (next.transport.peers i).point = .reading →
        (engine.transport.peers i).point = .woken)
      (woken : (next.transport.peers i).point ≠ .woken)

theorem ReceiverEngine.handler_step {engine next : ReceiverEngine P} {action : EngineAction P}
    {config : ReceiverConfig} {cfg : SinkConfig} {i : Fin P} (regulated : engine.Regulated cfg)
    (sound : engine.transport.Sound config) (own : action.peer = some i)
    (taken : engine.step action = some next) :
    engine.HandlerStep next action i config.readChunkBytes := by
  cases ReceiverEngine.steps_of_step taken with
  | sink => cases own
  | connects j connected =>
      cases own
      let transport := engine.transport.emit (.peerConnected (engine.transport.peers i).src)
      have start : { engine with transport }.Regulated cfg :=
        (ReceiverEngine.regulated_closed cfg).transport _ _ regulated rfl
      have greeted : transport.Sound config := ⟨sound.configured, sound.framers⟩
      have point : (transport.peers i).point = .connected := connected
      have moved : engine.Grows { engine with transport } i 0 :=
        .of_transport fun _ _ => rfl
      obtain ⟨⟨amount, held, grows⟩, idle⟩ :=
        ReceiverEngine.turnPeer_grows start greeted (by rw [point]; simp)
      refine .delivers (0 + amount) ?_ (moved.trans grows) idle (by simp [EngineAction.completesRead])
      rw [Nat.zero_add, Peer.allowance, connected]
      exact held
  | wakes j woken =>
      cases own
      refine .moves (.of_transport fun j other => engine.transport.setPoint_other other _)
        rfl ?_ (fun _ => woken) ?_
      · simp [TcpReceiver.setPoint_self, Peer.allowance, woken]
      · simp [TcpReceiver.setPoint_self]
  | reads j n reading _ small =>
      cases own
      rw [sound.configured] at small
      obtain ⟨⟨amount, held, grows⟩, idle⟩ :=
        ReceiverEngine.readPeer_grows regulated sound n reading
      refine .delivers amount ?_ grows idle fun _ => reading
      rw [Peer.allowance, reading]
      dsimp only
      omega
  | ends j reading =>
      cases own
      obtain ⟨⟨amount, held, grows⟩, idle⟩ :=
        ReceiverEngine.finishPeer_grows regulated sound .eof (by rw [reading]; simp)
      refine .delivers amount ?_ grows (fun _ => idle) fun _ => reading
      rw [Peer.allowance, reading]
      exact held.trans (Nat.le_add_right _ _)
  | fails j name reading =>
      cases own
      obtain ⟨⟨amount, held, grows⟩, idle⟩ :=
        ReceiverEngine.finishPeer_grows regulated sound (.error name) (by rw [reading]; simp)
      refine .delivers amount ?_ grows (fun _ => idle) fun _ => reading
      rw [Peer.allowance, reading]
      exact held.trans (Nat.le_add_right _ _)
  | stopsTransport => cases own
  | cancels j =>
      cases own
      refine .delivers 0 (Nat.zero_le _)
        (.of_transport fun j other => engine.transport.disconnect_other other _) ?_
        (by simp [EngineAction.completesRead])
      intro _
      exact .inr ⟨.cancelled, by simp [TcpReceiver.disconnect_self]⟩
  | reconnects j stream =>
      cases own
      refine .moves (.of_transport fun j other => engine.transport.setPeer_other other _)
        rfl ?_ ?_ ?_
      · simp [TcpReceiver.setPeer_self, Peer.allowance, Peer.connect, Framer.held, Framer.fresh]
      · simp [TcpReceiver.setPeer_self, Peer.connect]
      · simp [TcpReceiver.setPeer_self, Peer.connect]

/-! ## The bound -/

/-- Only the handlers submit, and the configuration is not changed. -/
def EngineAction.FixesConfig : EngineAction P → Prop
  | .sink (.submit _ _) => False
  | .sink action => action.FixesConfig
  | _ => True

theorem EngineAction.FixesConfig.sink {action : SinkAction}
    (fixes : (EngineAction.sink action : EngineAction P).FixesConfig) :
    action.FixesConfig ∧ ∀ record src, action ≠ .submit record src := by
  cases action with
  | submit => exact fixes.elim
  | _ => exact ⟨fixes, by simp⟩

/-- The high watermark and, for each peer, a chunk and a record. -/
def queueBound (P : Nat) (config : ReceiverConfig) (cfg : SinkConfig) : Nat :=
  cfg.queueHighWatermarkBytes + P * (config.readChunkBytes + config.maxRecordBytes)

/-- While the flag is set, the queue together with what the peers may still deliver
stays below the bound. -/
structure ReceiverEngine.Bounded (engine : ReceiverEngine P) (config : ReceiverConfig)
    (cfg : SinkConfig) : Prop where
  regulated : engine.Regulated cfg
  sound : engine.transport.Sound config
  queued : engine.sink.backpressured = true →
    engine.sink.queuedBytes + engine.transport.overhang config.readChunkBytes <
      queueBound P config cfg

theorem ReceiverEngine.Bounded.queued_lt {engine : ReceiverEngine P} {config : ReceiverConfig}
    {cfg : SinkConfig} (bounded : engine.Bounded config cfg) :
    engine.sink.queuedBytes < queueBound P config cfg := by
  cases flag : engine.sink.backpressured with
  | true =>
      have queued := bounded.queued flag
      omega
  | false =>
      have below : engine.sink.queuedBytes < cfg.queueHighWatermarkBytes :=
        bounded.regulated.level.below flag
      unfold queueBound
      push_cast
      have more : 0 ≤ (P : Int) * (config.readChunkBytes + config.maxRecordBytes) := by positivity
      omega

theorem ReceiverEngine.Bounded.handler_step {engine next : ReceiverEngine P}
    {action : EngineAction P} {config : ReceiverConfig} {cfg : SinkConfig} {i : Fin P}
    (bounded : engine.Bounded config cfg) (sound : next.transport.Sound config)
    (step : engine.HandlerStep next action i config.readChunkBytes)
    (flag : next.sink.backpressured = true) :
    next.sink.queuedBytes + next.transport.overhang config.readChunkBytes <
      queueBound P config cfg := by
  cases before : engine.sink.backpressured with
  | true =>
      have queued := bounded.queued before
      cases step with
      | delivers amount covered grows idle =>
          have grown := grows.queued
          have moved := TcpReceiver.overhang_add (grows.others before) config.readChunkBytes
          rw [(idle flag).allowance_eq] at moved
          omega
      | moves grows _ less =>
          have grown := grows.queued
          have moved := TcpReceiver.overhang_add (grows.others before) config.readChunkBytes
          omega
  | false =>
      have below : engine.sink.queuedBytes < cfg.queueHighWatermarkBytes :=
        bounded.regulated.level.below before
      have limit : queueBound P config cfg = cfg.queueHighWatermarkBytes +
        P * (config.readChunkBytes + config.maxRecordBytes) := rfl
      cases step with
      | delivers amount covered grows idle =>
          have grown := grows.queued
          have own := Peer.allowance_le (bounded.sound.framers i) config.readChunkBytes
          have others := TcpReceiver.overhang_le_of_idle sound (idle flag) config.readChunkBytes
          omega
      | moves grows _ less =>
          have grown := grows.queued
          have others := TcpReceiver.overhang_le sound config.readChunkBytes
          omega

theorem ReceiverEngine.Bounded.sink_step {engine : ReceiverEngine P} {sink : SinkWriter}
    {action : SinkAction} {config : ReceiverConfig} {cfg : SinkConfig}
    (bounded : engine.Bounded config cfg) (other : ∀ record src, action ≠ .submit record src)
    (taken : engine.sink.step action = some sink) (flag : sink.backpressured = true) :
    sink.queuedBytes + (engine.takeSink sink).transport.overhang config.readChunkBytes <
      queueBound P config cfg := by
  have fewer := SinkWriter.queued_step_le other taken
  cases before : engine.sink.backpressured with
  | true =>
      have queued := bounded.queued before
      rw [ReceiverEngine.takeSink_silent bounded.regulated.handled
        (SinkWriter.signals_step taken) (flag.trans before.symm)]
      omega
  | false =>
      have below : engine.sink.queuedBytes < cfg.queueHighWatermarkBytes :=
        bounded.regulated.level.below before
      have others := TcpReceiver.overhang_le
        (bounded.sound.similar (engine.takeSink_similar sink)) config.readChunkBytes
      have limit : queueBound P config cfg = cfg.queueHighWatermarkBytes +
        P * (config.readChunkBytes + config.maxRecordBytes) := rfl
      omega

theorem ReceiverEngine.bounded_step {engine next : ReceiverEngine P} {action : EngineAction P}
    {config : ReceiverConfig} {cfg : SinkConfig} (fixes : action.FixesConfig)
    (bounded : engine.Bounded config cfg) (taken : engine.step action = some next) :
    next.Bounded config cfg := by
  have sound := ReceiverEngine.sound_step bounded.sound taken
  have regulated : next.Regulated cfg := by
    refine (ReceiverEngine.regulated_closed cfg).step (fun _ => trivial) bounded.regulated ?_ taken
    intro sink same
    subst same
    exact fixes.sink.1
  refine ⟨regulated, sound, ?_⟩
  intro flag
  cases own : action.peer with
  | some i =>
      exact bounded.handler_step sound
        (ReceiverEngine.handler_step bounded.regulated bounded.sound own taken) flag
  | none =>
      cases action with
      | sink action =>
          obtain ⟨sink, sinkTaken, rfl⟩ := Option.map_eq_some_iff.mp taken
          have queued := bounded.sink_step fixes.sink.2 sinkTaken flag
          exact queued
      | stopTransport =>
          cases taken
          exact bounded.queued flag
      | _ => cases own

theorem ReceiverEngine.init_bounded (config : ReceiverConfig) (srcs : Fin P → String)
    (streams : Fin P → Bytes) (cfg : SinkConfig) (files : String → Option Bytes) :
    (ReceiverEngine.init (TcpReceiver.init config srcs streams) cfg files).Bounded config cfg where
  regulated := ReceiverEngine.init_regulated config srcs streams cfg files
  sound := ⟨rfl, fun _ => Framer.fresh_sound _ _ config.max_pos⟩
  queued := fun flag => by cases flag

/-! ## Reads while paused -/

/-- From one paused state to the next a completed read uses up the peer's only one. -/
theorem ReceiverEngine.reads_step {engine next : ReceiverEngine P} {action : EngineAction P}
    {config : ReceiverConfig} {cfg : SinkConfig} (i : Fin P)
    (bounded : engine.Bounded config cfg) (paused : engine.transport.paused = true)
    (still : next.transport.paused = true) (nextBounded : next.Bounded config cfg)
    (taken : engine.step action = some next) :
    (action.completesRead i).toNat + (next.transport.peers i).pendingReads ≤
      (engine.transport.peers i).pendingReads := by
  have flag : engine.sink.backpressured = true := bounded.regulated.paused.symm.trans paused
  have nextFlag : next.sink.backpressured = true :=
    nextBounded.regulated.paused.symm.trans still
  cases own : action.peer with
  | none =>
      cases action with
      | sink action =>
          obtain ⟨sink, sinkTaken, rfl⟩ := Option.map_eq_some_iff.mp taken
          rw [ReceiverEngine.takeSink_silent bounded.regulated.handled
            (SinkWriter.signals_step sinkTaken) (nextFlag.trans flag.symm)]
          simp [EngineAction.completesRead]
      | stopTransport =>
          cases taken
          simp [EngineAction.completesRead]
      | _ => cases own
  | some k =>
      have step := ReceiverEngine.handler_step bounded.regulated bounded.sound own taken
      by_cases this : i = k
      · subst this
        cases step with
        | delivers amount covered grows idle reads =>
            rw [(idle nextFlag).pendingReads_eq]
            cases completes : action.completesRead i with
            | true => simp [Peer.pendingReads, reads completes]
            | false => simp
        | moves grows quiet less reading woken =>
            simp only [quiet, Bool.toNat_false, Nat.zero_add]
            exact Peer.pendingReads_le_of_moved reading woken
      · have others : (next.transport.peers i) = engine.transport.peers i := by
          cases step with
          | delivers amount covered grows => exact grows.others flag i this
          | moves grows => exact grows.others flag i this
        have quiet : action.completesRead i = false := by
          cases completes : action.completesRead i with
          | false => rfl
          | true =>
              rw [EngineAction.peer_of_completesRead completes] at own
              exact absurd (Option.some.inj own) this
        simp [others, quiet]

/-- In every run under a fixed configuration the queue stays below the high watermark
plus a chunk and a record for each peer; and while the transport is paused, no peer
completes more than one read. -/
theorem pause_overshoot_bounded (config : ReceiverConfig) (srcs : Fin P → String)
    (streams : Fin P → Bytes) (cfg : SinkConfig) (files : String → Option Bytes)
    {actions : List (EngineAction P)} {final : ReceiverEngine P}
    (fixes : ∀ action ∈ actions, action.FixesConfig)
    (ran : Runs.run ReceiverEngine.step
      (ReceiverEngine.init (TcpReceiver.init config srcs streams) cfg files) actions =
      some final) :
    final.sink.queuedBytes ≤ cfg.queueHighWatermarkBytes +
        P * (config.readChunkBytes + config.maxRecordBytes) ∧
      ∀ before paused since, actions = before ++ since →
        Runs.run ReceiverEngine.step
          (ReceiverEngine.init (TcpReceiver.init config srcs streams) cfg files) before =
          some paused →
        (∀ visited, Runs.Visits ReceiverEngine.step paused since visited →
          visited.transport.paused = true) →
        ∀ i, since.countP (EngineAction.completesRead i) ≤ 1 := by
  have start := ReceiverEngine.init_bounded config srcs streams cfg files
  constructor
  · have bounded : final.Bounded config cfg :=
      Runs.run_invariant_of EngineAction.FixesConfig
        (fun state : ReceiverEngine P => state.Bounded config cfg)
        (fun _ _ _ allowed held taken => ReceiverEngine.bounded_step allowed held taken)
        start fixes ran
    have queued := bounded.queued_lt
    unfold queueBound at queued
    push_cast at queued
    exact queued.le
  · intro before paused since split reached pausedThroughout i
    obtain rfl := split
    obtain ⟨middle, beforeRan, sinceRan⟩ := Runs.run_append_eq_some.mp ran
    obtain rfl := Option.some.inj (reached.symm.trans beforeRan)
    have middle : paused.Bounded config cfg :=
      Runs.run_invariant_of EngineAction.FixesConfig
        (fun state : ReceiverEngine P => state.Bounded config cfg)
        (fun _ _ _ allowed held taken => ReceiverEngine.bounded_step allowed held taken)
        start (fun action member => fixes action (by simp [member])) beforeRan
    have counted := Runs.countP_add_le EngineAction.FixesConfig
      (fun state : ReceiverEngine P => state.Bounded config cfg)
      (fun state => state.transport.paused = true) (EngineAction.completesRead i)
      (fun state => (state.transport.peers i).pendingReads)
      (fun _ _ _ allowed held taken => ReceiverEngine.bounded_step allowed held taken)
      (fun _ _ _ allowed held before after taken => ReceiverEngine.reads_step i held before after
        (ReceiverEngine.bounded_step allowed held taken) taken)
      middle (fun action member => fixes action (by simp [member])) pausedThroughout sinceRan
    have one := (paused.transport.peers i).pendingReads_le_one
    omega

/-- Peer 0 pauses both; the read that peer 1 is in goes one record past the watermark. -/
theorem pause_overshoot_bounded_two_peers :
    ∃ final : ReceiverEngine 2, Runs.run ReceiverEngine.step
        (ReceiverEngine.init
          (TcpReceiver.init { readChunkBytes := 3, maxRecordBytes := 2 }
            (fun i => if i = 0 then "a:1" else "b:2") fun _ => [0x61, 0x62, 0x0A, 0x63])
          { enabled := true, path := some "sink.log", queueHighWatermarkBytes := 2,
            queueLowWatermarkBytes := 1 } fun _ => none)
        ([.sink .start, .sink (.begin []), .connect 0, .connect 1, .read 0 3] ++ [.read 1 3]) =
        some final ∧
      final.sink.queuedBytes = 4 ∧ final.sink.queuedBytes ≤ 2 + 2 * (3 + 2) ∧
      [(.read 1 3 : EngineAction 2)].countP (EngineAction.completesRead 1) ≤ 1 := by
  let start : ReceiverEngine 2 := ReceiverEngine.init
    (TcpReceiver.init { readChunkBytes := 3, maxRecordBytes := 2 }
      (fun i => if i = 0 then "a:1" else "b:2") fun _ => [0x61, 0x62, 0x0A, 0x63])
    { enabled := true, path := some "sink.log", queueHighWatermarkBytes := 2,
      queueLowWatermarkBytes := 1 } fun _ => none
  let before : List (EngineAction 2) :=
    [.sink .start, .sink (.begin []), .connect 0, .connect 1, .read 0 3]
  have ran := (Option.some_get (by decide +kernel :
    (Runs.run ReceiverEngine.step start (before ++ [.read 1 3])).isSome = true)).symm
  have reached := (Option.some_get (by decide +kernel :
    (Runs.run ReceiverEngine.step start before).isSome = true)).symm
  have held := pause_overshoot_bounded { readChunkBytes := 3, maxRecordBytes := 2 }
    (fun i : Fin 2 => if i = 0 then "a:1" else "b:2") (fun _ => [0x61, 0x62, 0x0A, 0x63])
    { enabled := true, path := some "sink.log", queueHighWatermarkBytes := 2,
      queueLowWatermarkBytes := 1 } (fun _ => none)
    (by simp [before, EngineAction.FixesConfig, SinkAction.FixesConfig]) ran
  refine ⟨_, ran, by decide +kernel, held.1, held.2 before _ [.read 1 3] rfl reached ?_ 1⟩
  intro visited visits
  obtain ⟨done, initialPart, visitedRan⟩ := visits
  rcases List.prefix_cons_iff.mp initialPart with rfl | ⟨rest, rfl, short⟩
  · cases visitedRan
    decide +kernel
  · obtain rfl := List.prefix_nil.mp short
    have last := Runs.run_append_eq_some.mpr ⟨_, reached, visitedRan⟩
    obtain rfl := Option.some.inj (last.symm.trans ran)
    decide +kernel

end TcpSim.Engine
