import TcpSim.Engine.ReceiverProperties
import TcpSim.Engine.SinkBalance
import TcpSim.Lib.Runs

/-! Back pressure from sink to transport: after every step the transport is paused
exactly when the sink's flag is set, and then payload is still queued. -/

set_option autoImplicit false

namespace TcpSim.Engine

open Transport

variable {P : Nat}

/-- High and low watermarks in turn, high first; the flag is set after a high one. -/
inductive Alternating : Bool → List SinkEvent → Prop where
  | none : Alternating false []
  | high {events : List SinkEvent} (bytes : Int) :
      Alternating false events → Alternating true (events ++ [.highWatermark bytes])
  | low {events : List SinkEvent} (bytes : Int) :
      Alternating true events → Alternating false (events ++ [.lowWatermark bytes])

def ReceiverEngine.watermarks (self : ReceiverEngine P) : List SinkEvent :=
  self.sinkEvents.filter SinkEvent.isWatermark

/-- Sink and transport agree, and the byte account is balanced. -/
structure ReceiverEngine.Synced (engine : ReceiverEngine P) : Prop where
  handled : engine.sink.file.events = []
  paused : engine.transport.paused = engine.sink.backpressured
  alternating : Alternating engine.sink.backpressured engine.watermarks
  balanced : engine.sink.books.Balanced

theorem ReceiverEngine.Synced.with_transport {engine : ReceiverEngine P}
    (synced : engine.Synced) {transport : TcpReceiver P}
    (same : transport.paused = engine.transport.paused) :
    { engine with transport }.Synced :=
  { synced with paused := same.trans synced.paused }

theorem ReceiverEngine.takeSink_paused {engine : ReceiverEngine P} {sink : SinkWriter}
    (handled : engine.sink.file.events = [])
    (paused : engine.transport.paused = engine.sink.backpressured)
    (signals : engine.sink.books.Signals sink.books) :
    (engine.takeSink sink).transport.paused = sink.backpressured := by
  have none : engine.sink.books.watermarks = [] := by
    simp [SinkWriter.books, SinkFile.watermarks, handled]
  have transport : (engine.takeSink sink).transport =
      sink.books.watermarks.foldl handleSinkEvent engine.transport :=
    handleSinkEvents_filter sink.file.events engine.transport
  have flag : sink.backpressured = sink.books.backpressured := rfl
  rw [transport, flag]
  cases signals with
  | silent same watermarks =>
      rw [watermarks, none, same]
      exact paused
  | high bytes low set watermarks =>
      rw [watermarks, none, set]
      exact TcpReceiver.setPaused_paused engine.transport true
  | low bytes high cleared watermarks =>
      rw [watermarks, none, cleared]
      exact TcpReceiver.setPaused_paused engine.transport false

theorem ReceiverEngine.Synced.takeSink {engine : ReceiverEngine P} {sink : SinkWriter}
    (synced : engine.Synced) (balanced : sink.books.Balanced)
    (signals : engine.sink.books.Signals sink.books) : (engine.takeSink sink).Synced := by
  have none : engine.sink.books.watermarks = [] := by
    simp [SinkWriter.books, SinkFile.watermarks, synced.handled]
  have emitted : (engine.takeSink sink).watermarks =
      engine.watermarks ++ sink.books.watermarks := by
    simp [ReceiverEngine.watermarks, ReceiverEngine.takeSink, SinkWriter.books,
      SinkFile.watermarks]
  have flag : (engine.takeSink sink).sink.backpressured = sink.books.backpressured := rfl
  refine ⟨rfl, engine.takeSink_paused synced.handled synced.paused signals, ?_,
    balanced.bytes, balanced.markers, balanced.pending⟩
  rw [emitted, flag]
  have before := synced.alternating
  cases signals with
  | silent same watermarks =>
      rw [watermarks, none, same, List.append_nil]
      exact before
  | high bytes low set watermarks =>
      rw [watermarks, none, set]
      exact .high bytes (low ▸ before)
  | low bytes high cleared watermarks =>
      rw [watermarks, none, cleared]
      exact .low bytes (high ▸ before)

/-! ## Runs -/

/-- Reopening and opening the sink's file do not raise. -/
def EngineAction.OpensFiles : EngineAction P → Prop
  | .sink action => action.OpensFiles
  | _ => True

theorem ReceiverEngine.synced_closed :
    ReceiverEngine.Closed (fun _ => True) SinkAction.OpensFiles
      (ReceiverEngine.Synced : ReceiverEngine P → Prop) where
  submit := fun _ _ _ => trivial
  sink := by
    intro engine action sink opens synced taken
    exact synced.takeSink (SinkWriter.balanced_step opens synced.balanced taken)
      (SinkWriter.signals_step taken)
  transport := fun _ _ synced same => synced.with_transport same

theorem ReceiverEngine.synced_step {engine next : ReceiverEngine P} {action : EngineAction P}
    (opens : action.OpensFiles) (synced : engine.Synced)
    (taken : engine.step action = some next) : next.Synced :=
  ReceiverEngine.synced_closed.step (fun _ => trivial) synced
    (fun _ same => by subst same; exact opens) taken

theorem ReceiverEngine.init_synced (config : ReceiverConfig) (srcs : Fin P → String)
    (streams : Fin P → Bytes) (cfg : SinkConfig) (files : String → Option Bytes) :
    (ReceiverEngine.init (TcpReceiver.init config srcs streams) cfg files).Synced where
  handled := rfl
  paused := rfl
  alternating := .none
  balanced := ⟨rfl, by simp [ReceiverEngine.init, SinkWriter.init, SinkWriter.books],
    fun flag => by cases flag⟩

private theorem exists_payload_of_sum (queue : List QueueItem)
    (positive : 0 < (queue.map QueueItem.size).sum) :
    ∃ item ∈ queue, item.record.payload ≠ [] := by
  induction queue with
  | nil => simp at positive
  | cons item rest ih =>
      cases payload : item.record.payload with
      | nil =>
          have size : item.size = 0 := by simp [QueueItem.size, payload]
          rw [List.map_cons, List.sum_cons, size, Nat.zero_add] at positive
          obtain ⟨other, member, full⟩ := ih positive
          exact ⟨other, by simp [member], full⟩
      | cons byte bytes => exact ⟨item, by simp, by simp [payload]⟩

theorem Books.Balanced.exists_payload {books : Books} (balanced : books.Balanced)
    (positive : 0 < books.queuedBytes) : ∃ item ∈ books.queue, item.record.payload ≠ [] := by
  rw [balanced.bytes] at positive
  exact exists_payload_of_sum books.queue (by omega)

/-- After every run in which the sink's file can be opened, whatever the writes do:
the transport is paused exactly when the sink's flag is set; then payload is queued;
without queued payload it is not paused; and the watermark events alternate. -/
theorem pause_follows_backpressure (config : ReceiverConfig) (srcs : Fin P → String)
    (streams : Fin P → Bytes) (cfg : SinkConfig) (files : String → Option Bytes)
    {actions : List (EngineAction P)} {final : ReceiverEngine P}
    (opens : ∀ action ∈ actions, action.OpensFiles)
    (ran : Runs.run ReceiverEngine.step
      (ReceiverEngine.init (TcpReceiver.init config srcs streams) cfg files) actions =
      some final) :
    final.transport.paused = final.sink.backpressured ∧
      (final.sink.backpressured = true →
        ∃ item ∈ final.sink.queue, item.record.payload ≠ []) ∧
      ((∀ item ∈ final.sink.queue, item.record.payload = []) →
        final.transport.paused = false) ∧
      Alternating final.sink.backpressured final.watermarks := by
  have synced : final.Synced :=
    Runs.run_invariant_of EngineAction.OpensFiles ReceiverEngine.Synced
      (fun _ _ _ allowed valid taken => ReceiverEngine.synced_step allowed valid taken)
      (ReceiverEngine.init_synced config srcs streams cfg files) opens ran
  have pending (flag : final.sink.backpressured = true) :
      ∃ item ∈ final.sink.queue, item.record.payload ≠ [] :=
    synced.balanced.exists_payload (synced.balanced.pending flag)
  refine ⟨synced.paused, pending, ?_, synced.alternating⟩
  intro drained
  rw [synced.paused]
  cases flag : final.sink.backpressured with
  | false => rfl
  | true =>
      obtain ⟨item, member, full⟩ := pending flag
      exact absurd (drained item member) full

/-- One record of two bytes reaches a high watermark of two. -/
theorem pause_follows_backpressure_one_record :
    ∃ final : ReceiverEngine 1, Runs.run ReceiverEngine.step
        (ReceiverEngine.init (TcpReceiver.init {} (fun _ => "a:1") fun _ => [0x61, 0x62, 0x0A])
          { enabled := true, path := some "sink.log", queueHighWatermarkBytes := 2,
            queueLowWatermarkBytes := 1 } fun _ => none)
        [.sink .start, .sink (.begin []), .connect 0, .read 0 3] = some final ∧
      final.transport.paused = final.sink.backpressured ∧
      Alternating final.sink.backpressured final.watermarks := by
  have ran := (Option.some_get (by decide +kernel : (Runs.run ReceiverEngine.step
    (ReceiverEngine.init (TcpReceiver.init {} (fun _ : Fin 1 => "a:1")
      fun _ => [0x61, 0x62, 0x0A])
      { enabled := true, path := some "sink.log", queueHighWatermarkBytes := 2,
        queueLowWatermarkBytes := 1 } fun _ => none)
    [.sink .start, .sink (.begin []), .connect 0, .read 0 3]).isSome = true)).symm
  have held := pause_follows_backpressure {} (fun _ : Fin 1 => "a:1")
    (fun _ => [0x61, 0x62, 0x0A]) _ _
    (by simp [EngineAction.OpensFiles, SinkAction.OpensFiles]) ran
  exact ⟨_, ran, held.1, held.2.2.2⟩

end TcpSim.Engine
