import TcpSim.Engine.Backpressure
import TcpSim.Engine.FramerVolume
import TcpSim.Engine.SinkLog

/-! The engine under a configuration that does not change: the sink's flag tells on
which side of the watermarks it is, and how much the delivery of records adds. -/

set_option autoImplicit false

namespace TcpSim.Engine

open Transport

variable {P : Nat}

/-! ## A fixed configuration -/

def SinkAction.FixesConfig : SinkAction → Prop
  | .configure _ => False
  | _ => True

theorem SinkWriter.fixed_turn {sink : SinkWriter} (settled : sink.pendingConfig = none)
    (item : QueueItem) (now : String) (opening writing : List Bool) :
    (sink.turn item now opening writing).cfg = sink.cfg ∧
      (sink.turn item now opening writing).pendingConfig = none := by
  obtain ⟨file, view⟩ := SinkWriter.handleRecord_logView sink item now writing
  have cfg := congrArg LogView.cfg view
  have pending := congrArg LogView.pending view
  simp only [SinkWriter.logView, settled, Option.map_none, Option.map_eq_none_iff] at cfg pending
  simp only [SinkWriter.turn, SinkWriter.applyPendingConfig, settled]
  split
  · exact ⟨rfl, rfl⟩
  · split
    · exact ⟨rfl, settled⟩
    · exact ⟨cfg, pending⟩

theorem SinkWriter.fixed_step {sink next : SinkWriter} {action : SinkAction}
    (fixes : action.FixesConfig) (settled : sink.pendingConfig = none)
    (taken : sink.step action = some next) :
    next.cfg = sink.cfg ∧ next.pendingConfig = none := by
  cases SinkWriter.steps_of_step taken with
  | begins opening =>
      unfold SinkWriter.begin
      split
      · exact ⟨rfl, settled⟩
      · dsimp only
        split
        · exact ⟨rfl, settled⟩
        · exact ⟨rfl, settled⟩
  | submits record src =>
      have pending_of {view : LogView} (same : (sink.submit record src).2.logView = view)
          (kept : view.pending = sink.logView.pending) :
          (sink.submit record src).2.pendingConfig = none := by
        have pending := (congrArg LogView.pending same).trans kept
        simpa only [SinkWriter.logView, settled, Option.map_none, Option.map_eq_none_iff] using pending
      rcases SinkWriter.submit_logView sink record src with view | view
      · exact ⟨congrArg LogView.cfg view, pending_of view rfl⟩
      · exact ⟨congrArg LogView.cfg view, pending_of view rfl⟩
  | configures cfg => exact fixes.elim
  | @turns now opening writing item queue =>
      exact @SinkWriter.fixed_turn { sink with queue } settled item now opening writing
  | _ => exact ⟨rfl, settled⟩

/-! ## The account and its flag -/

/-- The flag tells on which side of the watermarks the account is. -/
structure Books.Leveled (books : Books) (cfg : SinkConfig) : Prop where
  below : books.backpressured = false → books.queuedBytes < cfg.queueHighWatermarkBytes
  above : books.backpressured = true → cfg.queueLowWatermarkBytes < books.queuedBytes

theorem Books.updateBackpressure_leveled (cfg : SinkConfig) (books : Books) :
    (books.updateBackpressure cfg).Leveled cfg := by
  have apart := cfg.low_lt_high
  unfold Books.updateBackpressure
  split
  next crossed =>
      simp only [Bool.and_eq_true, decide_eq_true_eq] at crossed
      constructor
      · intro clear
        cases clear
      · intro _
        dsimp only
        omega
  next low =>
      split
      next cleared =>
          simp only [Bool.and_eq_true, decide_eq_true_eq] at cleared
          constructor
          · intro _
            dsimp only
            omega
          · intro set
            cases set
      next high =>
          constructor
          · intro clear
            simpa [clear] using low
          · intro set
            simpa [set] using high

theorem Books.updateBackpressure_stays {cfg : SinkConfig} {books : Books}
    (flag : books.backpressured = true)
    (above : cfg.queueLowWatermarkBytes < books.queuedBytes) :
    books.updateBackpressure cfg = books := by
  unfold Books.updateBackpressure
  rw [if_neg (by simp [flag]), if_neg (by simp; omega)]

theorem SinkWriter.leveled_step {sink next : SinkWriter} {action : SinkAction}
    (settled : sink.pendingConfig = none) (level : sink.books.Leveled sink.cfg)
    (taken : sink.step action = some next) : next.books.Leveled sink.cfg := by
  have entry := SinkWriter.step_entry taken
  generalize next.books = books at entry
  cases entry with
  | idle => exact level
  | enqueue => exact ⟨level.below, level.above⟩
  | submit record src =>
      unfold Books.submit
      split
      · exact level
      · split
        · exact ⟨level.below, level.above⟩
        · exact Books.updateBackpressure_leveled _ _
  | @drain item queue now opening writing _ head turn =>
      have same : { sink with queue }.nextCfg = sink.cfg := by
        simp [SinkWriter.nextCfg, settled]
      cases turn with
      | lost => exact ⟨level.below, level.above⟩
      | control => exact ⟨level.below, level.above⟩
      | discarded =>
          rw [same]
          exact Books.updateBackpressure_leveled _ _
      | stored =>
          rw [same]
          exact Books.updateBackpressure_leveled _ _

/-! ## Growth of the account -/

theorem SinkWriter.submit_queued_le (sink : SinkWriter) (record : FramedRecord) (src : String) :
    (sink.submit record src).2.queuedBytes ≤ sink.queuedBytes + record.payload.length := by
  have books := congrArg Books.queuedBytes (SinkWriter.submit_books sink record src)
  have same : (sink.submit record src).2.queuedBytes = _ := books
  rw [same]
  unfold Books.submit
  split
  · exact Int.le_add_of_nonneg_right (Int.natCast_nonneg _)
  · split
    · exact Int.le_add_of_nonneg_right (Int.natCast_nonneg _)
    · simp [Books.accept, SinkWriter.books, QueueItem.size]

theorem SinkWriter.submit_stays {sink : SinkWriter} (level : sink.books.Leveled sink.cfg)
    (flag : sink.backpressured = true) (record : FramedRecord) (src : String) :
    (sink.submit record src).2.backpressured = true := by
  have above := level.above flag
  have books := congrArg Books.backpressured (SinkWriter.submit_books sink record src)
  have same : (sink.submit record src).2.backpressured = _ := books
  rw [same]
  unfold Books.submit
  split
  · exact flag
  · split
    · exact flag
    · rw [Books.accept, Books.updateBackpressure_stays flag]
      · exact flag
      · dsimp only
        omega

/-! ## The engine -/

/-- Sink and transport agree, and the flag is where the watermarks of `cfg` put it. -/
structure ReceiverEngine.Regulated (engine : ReceiverEngine P) (cfg : SinkConfig) : Prop where
  handled : engine.sink.file.events = []
  paused : engine.transport.paused = engine.sink.backpressured
  configured : engine.sink.cfg = cfg
  settled : engine.sink.pendingConfig = none
  level : engine.sink.books.Leveled cfg

theorem ReceiverEngine.regulated_closed (cfg : SinkConfig) :
    ReceiverEngine.Closed (fun _ => True) SinkAction.FixesConfig
      (fun engine : ReceiverEngine P => engine.Regulated cfg) where
  submit := fun _ _ _ => trivial
  sink := by
    intro engine action sink fixes regulated taken
    obtain ⟨same, settled⟩ := SinkWriter.fixed_step fixes regulated.settled taken
    have before : engine.sink.books.Leveled engine.sink.cfg := regulated.configured ▸ regulated.level
    have level := SinkWriter.leveled_step regulated.settled before taken
    rw [regulated.configured] at same level
    exact ⟨rfl, engine.takeSink_paused regulated.handled regulated.paused
      (SinkWriter.signals_step taken), same, settled, level.below, level.above⟩
  transport := fun _ _ regulated same =>
    { regulated with paused := same.trans regulated.paused }

theorem ReceiverEngine.init_regulated (config : ReceiverConfig) (srcs : Fin P → String)
    (streams : Fin P → Bytes) (cfg : SinkConfig) (files : String → Option Bytes) :
    (ReceiverEngine.init (TcpReceiver.init config srcs streams) cfg files).Regulated cfg where
  handled := rfl
  paused := rfl
  configured := rfl
  settled := rfl
  level := by
    have apart := cfg.low_lt_high
    constructor
    · intro _
      simp only [ReceiverEngine.init, SinkWriter.init, SinkWriter.books]
      omega
    · intro flag
      cases flag

theorem ReceiverEngine.takeSink_silent {engine : ReceiverEngine P} {sink : SinkWriter}
    (handled : engine.sink.file.events = [])
    (signals : engine.sink.books.Signals sink.books)
    (flag : sink.backpressured = engine.sink.backpressured) :
    (engine.takeSink sink).transport = engine.transport := by
  have none : engine.sink.books.watermarks = [] := by
    simp [SinkWriter.books, SinkFile.watermarks, handled]
  have transport : (engine.takeSink sink).transport =
      sink.books.watermarks.foldl handleSinkEvent engine.transport :=
    handleSinkEvents_filter sink.file.events engine.transport
  have same : sink.books.backpressured = engine.sink.books.backpressured := flag
  rw [transport]
  cases signals with
  | silent _ watermarks =>
      rw [watermarks, none]
      rfl
  | high _ low set =>
      rw [set, low] at same
      cases same
  | low _ high cleared =>
      rw [cleared, high] at same
      cases same

/-- From `before` to `after` the account grows by `amount` at most, and while the flag
is set it stays set and moves no peer but `i`. -/
structure ReceiverEngine.Grows (before after : ReceiverEngine P) (i : Fin P) (amount : Nat) :
    Prop where
  queued : after.sink.queuedBytes ≤ before.sink.queuedBytes + amount
  flag : before.sink.backpressured = true → after.sink.backpressured = true
  others : before.sink.backpressured = true →
    ∀ j, j ≠ i → after.transport.peers j = before.transport.peers j

theorem ReceiverEngine.Grows.trans {first second third : ReceiverEngine P} {i : Fin P}
    {left right : Nat} (earlier : first.Grows second i left) (later : second.Grows third i right) :
    first.Grows third i (left + right) where
  queued := by
    have one := earlier.queued
    have two := later.queued
    push_cast
    omega
  flag := fun set => later.flag (earlier.flag set)
  others := fun set j other =>
    (later.others (earlier.flag set) j other).trans (earlier.others set j other)

/-- Changes of peer `i` alone. -/
theorem ReceiverEngine.Grows.of_transport {engine : ReceiverEngine P} {i : Fin P}
    {transport : TcpReceiver P}
    (others : ∀ j, j ≠ i → transport.peers j = engine.transport.peers j) :
    engine.Grows { engine with transport } i 0 :=
  ⟨by simp, id, fun _ => others⟩

theorem ReceiverEngine.Regulated.deliver {engine : ReceiverEngine P} {cfg : SinkConfig}
    (regulated : engine.Regulated cfg) (i : Fin P) (src : String) (record : FramedRecord) :
    engine.Grows (engine.deliver src record) i record.payload.length where
  queued := SinkWriter.submit_queued_le engine.sink record src
  flag := fun set =>
    SinkWriter.submit_stays (regulated.configured ▸ regulated.level) set record src
  others := by
    intro set j _
    have stays := SinkWriter.submit_stays (regulated.configured ▸ regulated.level) set record src
    let counted : ReceiverEngine P :=
      { engine with transport := engine.transport.countRecord src record }
    have silent : (counted.takeSink (engine.sink.submit record src).2).transport =
        counted.transport :=
      ReceiverEngine.takeSink_silent regulated.handled
        (@SinkWriter.signals_step engine.sink _ (.submit record src) rfl) (stays.trans set.symm)
    have peers := congrArg TcpReceiver.peers silent
    rw [TcpReceiver.countRecord_peers] at peers
    exact congrFun peers j

theorem ReceiverEngine.Regulated.deliverAll {cfg : SinkConfig} (i : Fin P) (src : String)
    (records : List FramedRecord) {engine : ReceiverEngine P} (regulated : engine.Regulated cfg) :
    engine.Grows (engine.deliverAll src records) i (volume records) := by
  induction records generalizing engine with
  | nil => exact ⟨by simp [ReceiverEngine.deliverAll], id, fun _ _ _ => rfl⟩
  | cons record rest ih =>
      have delivered : (engine.deliver src record).Regulated cfg :=
        (ReceiverEngine.regulated_closed cfg).deliver trivial regulated record
      rw [volume_cons]
      exact (regulated.deliver i src record).trans (ih delivered)

theorem ReceiverEngine.Regulated.chunkRead {engine : ReceiverEngine P} {cfg : SinkConfig}
    (regulated : engine.Regulated cfg) (i : Fin P) (n : Nat) :
    engine.Grows (engine.chunkRead i n) i (volume (engine.transport.takeChunk i n).1) := by
  let fed : ReceiverEngine P := { engine with transport := (engine.transport.takeChunk i n).2 }
  have start : fed.Regulated cfg := (ReceiverEngine.regulated_closed cfg).transport _ _ regulated rfl
  have moved : engine.Grows fed i 0 :=
    .of_transport fun j other => engine.transport.takeChunk_other other n
  have grown := moved.trans (start.deliverAll i (engine.transport.peers i).src
    (engine.transport.takeChunk i n).1)
  rw [Nat.zero_add] at grown
  exact grown

theorem ReceiverEngine.Regulated.finishPeer {engine : ReceiverEngine P} {cfg : SinkConfig}
    (regulated : engine.Regulated cfg) (i : Fin P) (reason : CloseReason) :
    engine.Grows (engine.finishPeer i reason) i
      (volume (engine.transport.takeTrailing i).1.toList) := by
  let fed : ReceiverEngine P := { engine with transport := (engine.transport.takeTrailing i).2 }
  have start : fed.Regulated cfg := (ReceiverEngine.regulated_closed cfg).transport _ _ regulated rfl
  have moved : engine.Grows fed i 0 :=
    .of_transport fun j other => engine.transport.takeTrailing_other other
  have grown := moved.trans (start.deliverAll i (engine.transport.peers i).src
    (engine.transport.takeTrailing i).1.toList)
  have closed := grown.trans (.of_transport fun j other =>
    TcpReceiver.disconnect_other _ other reason)
  rw [Nat.zero_add, Nat.add_zero] at closed
  exact closed

end TcpSim.Engine
