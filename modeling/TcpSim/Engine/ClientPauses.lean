import TcpSim.Engine.Backpressure
import TcpSim.Engine.ClientReception

/-! Back pressure from the sink to the receiving TCP client. -/

set_option autoImplicit false

namespace TcpSim.Engine.ClientEngine

open Transport

variable {python : Interpreter} {engine next : ClientEngine}

/-! ## The transport follows the sink -/

/-- The transport's pause is the sink's flag. -/
structure Synced (engine : ClientEngine) : Prop where
  handled : engine.sink.file.events = []
  paused : engine.transport.paused = engine.sink.backpressured

theorem setPaused_paused (transport : TcpClientReceiver) (paused : Bool) :
    (transport.setPaused paused).paused = paused := by
  unfold TcpClientReceiver.setPaused
  cases paused with
  | true =>
      rw [if_pos rfl]
      split
      next already => exact already
      next => rfl
  | false =>
      rw [if_neg Bool.false_ne_true]
      split
      next => rfl
      next going => exact Bool.eq_false_of_not_eq_true going

theorem handleSinkEvents_watermarks (events : List SinkEvent) (transport : TcpClientReceiver) :
    events.foldl handleSinkEvent transport =
      (events.filter SinkEvent.isWatermark).foldl handleSinkEvent transport := by
  induction events generalizing transport with
  | nil => rfl
  | cons event rest ih =>
      cases event with
      | highWatermark => exact ih _
      | lowWatermark => exact ih _
      | _ => exact ih _

/-- What the watermarks of one operation on the sink do to the transport. -/
theorem takeSink_transport {sink : SinkWriter} (synced : engine.Synced)
    (signals : engine.sink.books.Signals sink.books) :
    (sink.backpressured = engine.sink.backpressured ∧
        (engine.takeSink sink).transport = engine.transport) ∨
      ((engine.takeSink sink).transport = engine.transport.setPaused sink.backpressured ∧
        sink.backpressured ≠ engine.sink.backpressured) := by
  have none : engine.sink.books.watermarks = [] := by
    simp [SinkWriter.books, SinkFile.watermarks, synced.handled]
  have transport : (engine.takeSink sink).transport =
      sink.books.watermarks.foldl handleSinkEvent engine.transport :=
    handleSinkEvents_watermarks sink.file.events engine.transport
  rw [transport]
  cases signals with
  | silent same watermarks =>
      rw [watermarks, none]
      exact .inl ⟨same, rfl⟩
  | high bytes low set watermarks =>
      have flag : sink.backpressured = true := set
      have before : engine.sink.backpressured = false := low
      rw [watermarks, none, flag, before]
      exact .inr ⟨rfl, by decide⟩
  | low bytes high cleared watermarks =>
      have flag : sink.backpressured = false := cleared
      have before : engine.sink.backpressured = true := high
      rw [watermarks, none, flag, before]
      exact .inr ⟨rfl, by decide⟩

theorem Synced.takeSink (synced : engine.Synced) {action : SinkAction} {sink : SinkWriter}
    (taken : engine.sink.step action = some sink) : (engine.takeSink sink).Synced := by
  refine ⟨rfl, ?_⟩
  rcases takeSink_transport synced (SinkWriter.signals_step taken) with ⟨flag, same⟩ | ⟨same, _⟩
  · rw [same]
    exact synced.paused.trans flag.symm
  · rw [same]
    exact setPaused_paused engine.transport _

theorem Synced.with_transport (synced : engine.Synced) {transport : TcpClientReceiver}
    (same : transport.paused = engine.transport.paused) (running stopping : Bool) :
    Synced { engine with transport, running, stopping } :=
  ⟨synced.handled, same.trans synced.paused⟩

theorem deliver_paused (transport : TcpClientReceiver) (record : FramedRecord) :
    (transport.deliver record).paused = transport.paused := by
  unfold TcpClientReceiver.deliver
  split <;> rfl

theorem Synced.deliverAll (synced : engine.Synced) (records : List FramedRecord) :
    (engine.deliverAll records).Synced := by
  induction records generalizing engine with
  | nil => exact synced
  | cons record rest ih =>
      have counted : Synced { engine with transport := engine.transport.deliver record } :=
        synced.with_transport (deliver_paused engine.transport record) _ _
      have submits : engine.sink.step (.submit record engine.transport.src) =
          some (engine.sink.submit record engine.transport.src).2 := rfl
      exact ih (counted.takeSink submits)

theorem Synced.disconnected (synced : engine.Synced) (reason : String) :
    (engine.disconnected reason).Synced := by
  have flushed : Synced { engine with
      transport := { engine.transport with framer := engine.transport.framer.flush.2 } } :=
    ⟨synced.handled, synced.paused⟩
  have delivered := flushed.deliverAll engine.transport.framer.flush.1.toList
  exact ⟨delivered.handled, delivered.paused⟩

theorem Synced.received (synced : engine.Synced) (chunk : Bytes) :
    (engine.received chunk).Synced := by
  unfold ClientEngine.received
  split
  · exact synced.disconnected "eof"
  · have fed : Synced { engine with transport := { engine.transport with
        bytesReceived := engine.transport.bytesReceived + chunk.length
        framer := (engine.transport.framer.feed chunk).2 } } :=
      ⟨synced.handled, synced.paused⟩
    have delivered := fed.deliverAll (engine.transport.framer.feed chunk).1
    exact ⟨delivered.handled, delivered.paused⟩

/-! ## What is left to read -/

/-- The task will return from a read before it looks at the pause again. -/
def readAhead (engine : ClientEngine) : Nat :=
  match engine.transport.point with
  | .woken => 1
  | .reading => 1
  | _ => 0

def reads : ClientEngineAction → Bool
  | .read _ => true
  | .readFails _ => true
  | _ => false

/-- After a read, or at the start of a connection, a paused task waits. -/
theorem nextRead_readAhead (engine : ClientEngine) (paused : engine.transport.paused = true) :
    readAhead { engine with transport := engine.transport.nextRead } = 0 := by
  simp [readAhead, TcpClientReceiver.nextRead, paused]

theorem received_readAhead (synced : engine.Synced) (chunk : Bytes)
    (flag : (engine.received chunk).sink.backpressured = true) :
    (engine.received chunk).readAhead = 0 := by
  have paused := (synced.received chunk).paused.trans flag
  unfold ClientEngine.received at paused ⊢
  split
  · rfl
  · rename_i nonempty
    rw [if_neg nonempty] at paused
    exact nextRead_readAhead _ paused

/-- What a step does to the pause, and to the reads ahead if the sink's flag stays set. -/
structure Holds (engine : ClientEngine) (action : ClientEngineAction) (next : ClientEngine) :
    Prop where
  synced : next.Synced
  spends : engine.sink.backpressured = true → next.sink.backpressured = true →
    (reads action).toNat + next.readAhead ≤ engine.readAhead

theorem holds_turn (synced : engine.Synced) {action : ClientEngineAction}
    (taken : engine.turn python action = some next) : Holds engine action next := by
  cases action with
  | connect raises =>
      simp only [ClientEngine.turn] at taken
      split at taken
      next at_ =>
          cases taken
          have after : Synced { engine with transport := engine.transport.connected } :=
            ⟨synced.handled, synced.paused⟩
          refine ⟨after, fun flag _ => ?_⟩
          have none : readAhead { engine with transport := engine.transport.connected } = 0 :=
            nextRead_readAhead { engine with transport := { engine.transport with
              backoff := engine.transport.backoff.reset
              connectedEvent := true
              framer := Framer.fresh engine.transport.config.framingMode
                engine.transport.config.maxRecordBytes engine.transport.config.max_pos
              events := engine.transport.events ++
                [.receiverConnected engine.transport.src] } } (synced.paused.trans flag)
          rw [none]
          exact Nat.zero_le _
      next error at_ =>
          cases taken
          unfold TcpClientReceiver.connectFailed
          split
          · exact ⟨⟨synced.handled, synced.paused⟩, fun _ _ => Nat.zero_le _⟩
          · exact ⟨⟨synced.handled, synced.paused⟩, fun _ _ => Nat.zero_le _⟩
      next => cases taken
  | wake =>
      simp only [ClientEngine.turn] at taken
      split at taken
      next at_ =>
          cases taken
          refine ⟨⟨synced.handled, synced.paused⟩, fun _ _ => ?_⟩
          simp [readAhead, at_, reads]
      next => cases taken
  | read chunk =>
      simp only [ClientEngine.turn] at taken
      split at taken
      next at_ =>
          cases taken
          refine ⟨synced.received chunk, fun _ flag => ?_⟩
          rw [received_readAhead synced chunk flag]
          simp [readAhead, at_, reads]
      next => cases taken
  | readFails error =>
      simp only [ClientEngine.turn] at taken
      split at taken
      next at_ =>
          cases taken
          refine ⟨synced.disconnected _, fun _ _ => ?_⟩
          have none : (engine.disconnected ("error:" ++ error.className)).readAhead = 0 := rfl
          rw [none]
          simp [readAhead, at_, reads]
      next => cases taken
  | slept =>
      simp only [ClientEngine.turn] at taken
      split at taken
      next at_ =>
          cases taken
          exact ⟨⟨synced.handled, synced.paused⟩, fun _ _ => Nat.zero_le _⟩
      next => cases taken
  | _ => cases taken

theorem enterRun_holds (transport : TcpClientReceiver) (loads : Option String) :
    (transport.enterRun loads).paused = transport.paused ∧
      ∀ running stopping sink sinkEvents, readAhead
        { transport := transport.enterRun loads, running, stopping, sink, sinkEvents } = 0 := by
  unfold TcpClientReceiver.enterRun
  split
  · exact ⟨rfl, fun _ _ _ _ => rfl⟩
  · split
    · exact ⟨rfl, fun _ _ _ _ => rfl⟩
    · exact ⟨rfl, fun _ _ _ _ => rfl⟩

theorem holds_step (synced : engine.Synced) {action : ClientEngineAction}
    (taken : engine.step python action = some next) : Holds engine action next := by
  cases action with
  | sink action =>
      simp only [ClientEngine.step] at taken
      split at taken
      · cases taken
      · obtain ⟨sink, sinkTaken, rfl⟩ := Option.map_eq_some_iff.mp taken
        refine ⟨synced.takeSink sinkTaken, fun flag still => ?_⟩
        rcases takeSink_transport synced (SinkWriter.signals_step sinkTaken) with same | changed
        · rw [readAhead, same.2]
          exact (Nat.zero_add _).le
        · exact absurd (still.trans flag.symm) changed.2
  | start loads =>
      simp only [ClientEngine.step] at taken
      split at taken
      · cases taken
      · split at taken
        · cases taken
          exact ⟨synced, fun _ _ => (Nat.zero_add _).le⟩
        · cases taken
          obtain ⟨paused, none⟩ := enterRun_holds engine.transport loads
          refine ⟨synced.with_transport paused true engine.stopping, fun _ _ => ?_⟩
          rw [none]
          exact Nat.zero_le _
  | stop =>
      cases taken
      unfold ClientEngine.stop
      split
      · split
        · exact ⟨⟨synced.handled, synced.paused⟩, fun _ _ => (Nat.zero_add _).le⟩
        · exact ⟨⟨synced.handled, synced.paused⟩, fun _ _ => (Nat.zero_add _).le⟩
        · exact ⟨⟨synced.handled, synced.paused⟩, fun _ _ => (Nat.zero_add _).le⟩
      · exact ⟨synced, fun _ _ => (Nat.zero_add _).le⟩
  | cancelled =>
      simp only [ClientEngine.step] at taken
      split at taken
      · cases taken
        unfold ClientEngine.cancel
        dsimp only
        split
        · exact ⟨⟨synced.handled, synced.paused⟩, fun _ _ => Nat.zero_le _⟩
        · exact ⟨⟨synced.handled, synced.paused⟩, fun _ _ => Nat.zero_le _⟩
      · cases taken
  | _ =>
      simp only [ClientEngine.step] at taken
      split at taken
      · cases taken
      · exact holds_turn synced taken

/-! ## Runs -/

theorem synced_run {config : TcpClientReceiverConfig} {cfg : SinkConfig}
    {files : String → Option Bytes} {actions : List ClientEngineAction} {final : ClientEngine}
    (ran : Runs.run (step python) (init config cfg files) actions = some final) : final.Synced :=
  Runs.run_invariant Synced (fun _ _ _ synced taken => (holds_step synced taken).synced)
    (show Synced (init config cfg files) from ⟨rfl, rfl⟩) ran

/-- The transport is paused exactly when the sink's flag is set. As long as the flag stays set,
across lost connections, reconnects, stops and restarts, one more read returns at most. -/
theorem full_sink_stops_reading {config : TcpClientReceiverConfig} {cfg : SinkConfig}
    {files : String → Option Bytes} {before during : List ClientEngineAction}
    {middle final : ClientEngine}
    (ran : Runs.run (step python) (init config cfg files) before = some middle)
    (goesOn : Runs.run (step python) middle during = some final) :
    middle.transport.paused = middle.sink.backpressured ∧
      ((∀ visited, Runs.Visits (step python) middle during visited →
          visited.sink.backpressured = true) → during.countP reads ≤ 1) := by
  have synced := synced_run ran
  refine ⟨synced.paused, fun full => ?_⟩
  have spent := Runs.countP_add_le (fun _ => True) Synced
    (fun engine => engine.sink.backpressured = true) reads readAhead
    (fun _ _ _ _ synced taken => (holds_step synced taken).synced)
    (fun _ _ _ _ synced flag still taken => (holds_step synced taken).spends flag still)
    synced (fun _ _ => trivial) full goesOn
  have one : middle.readAhead ≤ 1 := by
    unfold readAhead
    split <;> omega
  omega

def oneServer : TcpClientReceiverConfig where
  host := "10.0.0.1"
  port := 9000

/-- A refused connection, then one whose first record fills the sink's queue. -/
def untilFull : List ClientEngineAction :=
  [.sink .start, .sink (.begin []), .start none,
    .connect (some (.osError ⟨"ConnectionRefusedError", "refused"⟩)), .slept, .connect none,
    .read [0x61, 0x62, 0x0A, 0x63]]

/-- A restart in the meantime. -/
def whileFull : List ClientEngineAction := [.stop, .cancelled, .start none, .connect none]

theorem full_sink_stops_reading_restart : ∃ middle final,
    Runs.run (step { minor := 10 }) (init oneServer twoByteQueue fun _ => none) untilFull =
        some middle ∧
      Runs.run (step { minor := 10 }) middle whileFull = some final ∧
      middle.sink.backpressured = true ∧
      middle.transport.paused = middle.sink.backpressured ∧
      ((∀ visited, Runs.Visits (step { minor := 10 }) middle whileFull visited →
          visited.sink.backpressured = true) → whileFull.countP reads ≤ 1) := by
  have reached : ((Runs.run (step { minor := 10 }) (init oneServer twoByteQueue fun _ => none)
      untilFull).bind fun middle => (Runs.run (step { minor := 10 }) middle whileFull).map
        fun _ => middle.sink.backpressured) = some true := by decide +kernel
  obtain ⟨middle, ran, reached⟩ := Option.bind_eq_some_iff.mp reached
  obtain ⟨final, goesOn, flag⟩ := Option.map_eq_some_iff.mp reached
  obtain ⟨paused, once⟩ := full_sink_stops_reading ran goesOn
  exact ⟨middle, final, ran, goesOn, flag, paused, once⟩

end TcpSim.Engine.ClientEngine
