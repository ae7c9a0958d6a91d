import TcpSim.Engine.Reception

/-! Runs of the receive path: what the sink has written of a peer once its stream
is at its end, and that stopping the sink drains what was accepted before. -/

set_option autoImplicit false

namespace TcpSim.Engine

open Transport Splitting

variable {P : Nat}

/-! ## Invariants of the sink within the engine -/

theorem SinkWriter.Flushing.handled {sink : SinkWriter} {accepted : List QueueItem}
    (flushing : sink.Flushing accepted) :
    { sink with file := { sink.file with events := [] } }.Flushing accepted := by
  cases flushing with
  | draining ahead behind sentinel queue isStop noStop task split =>
      exact .draining ahead behind sentinel queue isStop noStop task split
  | drained later split => exact .drained later split

section Sink

variable {base : String} {count : Nat} {initial : List Bytes} (named : base ≠ "")

include named

theorem ReceiverEngine.logging_closed :
    ReceiverEngine.Closed (· ≠ "") (SinkAction.KeepsLog base count)
      (fun engine : ReceiverEngine P => engine.sink.logView.Logging base count initial) where
  submit := fun _ _ sourced => sourced
  sink := by
    intro engine action sink keeps log taken
    have after : sink.logView.Logging base count initial :=
      SinkWriter.logging_step named keeps log taken
    exact after
  transport := fun _ _ log _ => log

theorem ReceiverEngine.unstopped_closed :
    ReceiverEngine.Closed (· ≠ "") (fun action => action.KeepsLog base count ∧ action ≠ .stop)
      (fun engine : ReceiverEngine P => engine.sink.logView.Logging base count initial ∧
        engine.sink.Unstopped) where
  submit := fun _ _ sourced => ⟨sourced, by simp⟩
  sink := by
    intro engine action sink allowed inv taken
    have after : sink.logView.Logging base count initial :=
      SinkWriter.logging_step named allowed.1 inv.1 taken
    obtain ⟨still, _⟩ := SinkWriter.unstopped_step allowed.2 inv.2 after.alive taken
    exact ⟨after, still.queue, still.waiting, still.task⟩
  transport := fun _ _ inv _ => inv

theorem ReceiverEngine.flushing_closed (accepted : List QueueItem) :
    ReceiverEngine.Closed (· ≠ "")
      (fun action => action.KeepsLog base count ∧ action ≠ .stop ∧ action ≠ .stopTimeout)
      (fun engine : ReceiverEngine P => engine.sink.logView.Logging base count initial ∧
        engine.sink.Flushing accepted) where
  submit := fun _ _ sourced => ⟨sourced, by simp, by simp⟩
  sink := by
    intro engine action sink allowed inv taken
    obtain ⟨keeps, other, inTime⟩ := allowed
    have after : sink.logView.Logging base count initial :=
      SinkWriter.logging_step named keeps inv.1 taken
    exact ⟨after, SinkWriter.Flushing.handled
      (SinkWriter.flushing_step other inTime keeps.sourced inv.2 after.alive taken)⟩
  transport := fun _ _ inv _ => inv

end Sink

/-! ## After the last peer -/

def ReceiverEngine.AllClosed (engine : ReceiverEngine P) : Prop :=
  ∀ i, ∃ reason, (engine.transport.peers i).point = .closed reason

theorem ReceiverEngine.allClosed_step {engine next : ReceiverEngine P} {action : EngineAction P}
    {base : String} {count : Nat} (receives : action.Receives base count)
    (closed : engine.AllClosed) (taken : engine.step action = some next) :
    next.AllClosed ∧ next.sink.accepted = engine.sink.accepted := by
  cases action with
  | sink action =>
      obtain ⟨sink, sinkTaken, rfl⟩ := Option.map_eq_some_iff.mp taken
      have accepted : sink.accepted = engine.sink.accepted :=
        (SinkWriter.step_submits receives.keepsLog.2 sinkTaken).1
      refine ⟨?_, accepted⟩
      intro i
      obtain ⟨reason, point⟩ := closed i
      rw [(engine.takeSink_similar sink).peer_of_not_waiting (by simp [point])]
      exact ⟨reason, point⟩
  | connect i =>
      obtain ⟨reason, point⟩ := closed i
      simp [ReceiverEngine.step, point] at taken
  | wake i =>
      obtain ⟨reason, point⟩ := closed i
      simp [ReceiverEngine.step, point] at taken
  | read i n =>
      obtain ⟨reason, point⟩ := closed i
      simp [ReceiverEngine.step, point] at taken
  | eof i =>
      obtain ⟨reason, point⟩ := closed i
      simp [ReceiverEngine.step, point] at taken
  | readError i name =>
      obtain ⟨reason, point⟩ := closed i
      simp [ReceiverEngine.step, point] at taken
  | stopTransport =>
      cases taken
      exact ⟨closed, rfl⟩
  | cancel i =>
      obtain ⟨reason, point⟩ := closed i
      cases running : engine.transport.running with
      | true => simp [ReceiverEngine.step, running] at taken
      | false => simp [ReceiverEngine.step, running, point] at taken
  | reconnect => exact receives.elim

theorem ReceiverEngine.allClosed_run {engine final : ReceiverEngine P}
    {actions : List (EngineAction P)} {base : String} {count : Nat}
    (receives : ∀ action ∈ actions, action.Receives base count) (closed : engine.AllClosed)
    (ran : Runs.run ReceiverEngine.step engine actions = some final) :
    final.AllClosed ∧ final.sink.accepted = engine.sink.accepted := by
  refine Runs.run_invariant_of (fun action : EngineAction P => action.Receives base count)
    (fun state : ReceiverEngine P =>
      state.AllClosed ∧ state.sink.accepted = engine.sink.accepted)
    ?_ ⟨closed, rfl⟩ receives ran
  intro state action next allowed held taken
  obtain ⟨nextClosed, same⟩ := ReceiverEngine.allClosed_step allowed held.1 taken
  exact ⟨nextClosed, same.trans held.2⟩

/-! ## Sources -/

theorem ReceiverEngine.sources_closed (srcs : Fin P → String) :
    ReceiverEngine.Closed (fun src => ∃ i, src = srcs i)
      (fun action => ∀ record src, action = .submit record src → ∃ i, src = srcs i)
      (fun engine : ReceiverEngine P => ∀ item ∈ engine.sink.accepted, ∃ i, item.src = srcs i) where
  submit := by
    intro record src source other from_ same
    cases same
    exact source
  sink := by
    intro engine action sink sources inv taken item member
    have entry := SinkWriter.step_entry taken
    have here : item ∈ sink.books.accepted := member
    generalize sink.books = books at entry here
    cases entry with
    | idle => exact inv item here
    | enqueue => exact inv item here
    | submit record src =>
        obtain ⟨i, rfl⟩ := sources record src rfl
        unfold Books.submit at here
        split at here
        · exact inv item here
        · split at here
          · exact inv item here
          · simp only [Books.accept, Books.updateBackpressure_accepted, List.mem_append,
              List.mem_singleton] at here
            rcases here with old | new
            · exact inv item old
            · exact ⟨i, by rw [new]⟩
    | drain head entry => exact inv item (entry.queue_accepted.2 ▸ here)
  transport := fun _ _ inv _ => inv

/-! ## Runs -/

theorem Progress.at_eof {config : ReceiverConfig} {stream : Bytes} {peer : Peer}
    {records : List FramedRecord} (progress : Progress config stream peer records)
    (framing : config.framingMode = .lf) (eof : peer.point = .closed .eof)
    (read : peer.incoming = []) :
    records = referenceFrame lfSeparator config.maxRecordBytes stream := by
  cases progress with
  | going _ _ _ isOpen => exact absurd eof (isOpen .eof)
  | flushed chunks consumed framed =>
      rw [read, List.append_nil] at consumed
      rw [← framed, ← consumed]
      exact (Framer.fresh_frame_eq_reference_iff (resumes_of_length_one lfSeparator_single)
        _ (by rw [framing]; rfl) config.maxRecordBytes config.max_pos chunks).mpr
        (separatorsKept_of_length_one lfSeparator_single config.maxRecordBytes [] chunks)
  | cancelled point =>
      rw [eof] at point
      cases point

theorem ReceiverEngine.init_recorded (config : ReceiverConfig) {srcs : Fin P → String}
    (distinct : Function.Injective srcs) (streams : Fin P → Bytes) {cfg : SinkConfig}
    (enabled : cfg.enabled = true) (files : String → Option Bytes) :
    (ReceiverEngine.init (TcpReceiver.init config srcs streams) cfg files).Recorded
      config streams where
  distinct := distinct
  enabled := enabled
  records := by
    intro i
    refine ⟨[], .going [] ?_ rfl ?_, rfl⟩
    · simp [ReceiverEngine.init, TcpReceiver.init, Peer.connect]
    · simp [ReceiverEngine.init, TcpReceiver.init, Peer.connect]

theorem ReceiverEngine.recorded_run {engine final : ReceiverEngine P}
    {actions : List (EngineAction P)} {config : ReceiverConfig} {streams : Fin P → Bytes}
    {base : String} {count : Nat} {initial : List Bytes} (named : base ≠ "")
    (receives : ∀ action ∈ actions, action.Receives base count)
    (sources : ∀ i, (engine.transport.peers i).src ≠ "")
    (log : engine.sink.logView.Logging base count initial)
    (recorded : engine.Recorded config streams)
    (ran : Runs.run ReceiverEngine.step engine actions = some final)
    (kept : final.sink.refused = 0) : final.Recorded config streams := by
  suffices (∀ i, (final.transport.peers i).src ≠ "") ∧
      final.sink.logView.Logging base count initial ∧
      (final.sink.refused = 0 → final.Recorded config streams) from this.2.2 kept
  refine Runs.run_invariant_of (fun action : EngineAction P => action.Receives base count)
    (fun state : ReceiverEngine P => (∀ i, (state.transport.peers i).src ≠ "") ∧
      state.sink.logView.Logging base count initial ∧
      (state.sink.refused = 0 → state.Recorded config streams))
    ?_ ⟨sources, log, fun _ => recorded⟩ receives ran
  intro state action next allowed held taken
  obtain ⟨names, logging, records⟩ := held
  have nextLog : next.sink.logView.Logging base count initial := by
    refine (ReceiverEngine.logging_closed named).step names logging ?_ taken
    intro sink same
    subst same
    exact allowed.keepsLog.1
  refine ⟨fun i => ReceiverEngine.step_src taken i ▸ names i, nextLog, ?_⟩
  intro none
  have fewer : state.sink.refused ≤ next.sink.refused :=
    (ReceiverEngine.refused_closed state.sink.refused).step (fun _ => trivial) le_rfl
      (fun _ _ => trivial) taken
  exact ReceiverEngine.recorded_step allowed nextLog.cfg.enabled (records (by omega)) taken
    (by omega)

/-- `stop` does not return before everything accepted is written, if every peer's
handler has ended when it is called. -/
theorem ReceiverEngine.stop_drains {engine atStop final : ReceiverEngine P}
    {before waiting : List (EngineAction P)} {base : String} {count : Nat}
    {initial : List Bytes} (named : base ≠ "")
    (receives : ∀ action ∈ before ++ .sink .stop :: (waiting ++ [.sink .stopReturn]),
      action.Receives base count)
    (noStop : ∀ action ∈ before, action ≠ .sink .stop)
    (waits : ∀ action ∈ waiting, action ≠ .sink .stop ∧ action ≠ .sink .stopTimeout)
    (sources : ∀ i, (engine.transport.peers i).src ≠ "")
    (log : engine.sink.logView.Logging base count initial) (fresh : engine.sink.Unstopped)
    (beforeRan : Runs.run ReceiverEngine.step engine before = some atStop)
    (started : atStop.sink.task ≠ none) (closed : atStop.AllClosed)
    (ran : Runs.run ReceiverEngine.step atStop
      (.sink .stop :: (waiting ++ [.sink .stopReturn])) = some final) :
    final.sink.queue.filter QueueItem.isData = [] := by
  have keeps (sink : SinkAction)
      (member : .sink sink ∈ before ++ .sink .stop :: (waiting ++ [.sink .stopReturn])) :
      sink.KeepsLog base count := (receives _ member).keepsLog.1
  obtain ⟨stopLog, unstopped⟩ := (ReceiverEngine.unstopped_closed named).run sources
    ⟨log, fresh⟩ (fun sink member => ⟨keeps sink (by simp [member]),
      fun same => noStop _ member (by rw [same])⟩) beforeRan
  obtain ⟨_, same⟩ := ReceiverEngine.allClosed_run
    (fun action member => receives action (by simp [List.mem_append.mpr (.inr member)])) closed ran
  obtain ⟨stopping, stopTaken, restRan⟩ := Runs.run_cons_eq_some.mp ran
  obtain ⟨waited, waitedRan, lastRan⟩ := Runs.run_append_eq_some.mp restRan
  obtain ⟨returned, returnTaken, endRan⟩ := Runs.run_cons_eq_some.mp lastRan
  cases endRan
  obtain ⟨stopSink, stopSinkTaken, rfl⟩ := Option.map_eq_some_iff.mp stopTaken
  obtain ⟨endSink, endSinkTaken, rfl⟩ := Option.map_eq_some_iff.mp returnTaken
  have stoppingLog : stopSink.logView.Logging base count initial :=
    SinkWriter.logging_step named (keeps .stop (by simp)) stopLog stopSinkTaken
  have stoppingSources (i : Fin P) :
      ((atStop.takeSink stopSink).transport.peers i).src ≠ "" := by
    rw [(atStop.takeSink_similar stopSink).src, ReceiverEngine.run_src beforeRan]
    exact sources i
  obtain ⟨waitedLog, flushed⟩ :=
    (ReceiverEngine.flushing_closed named atStop.sink.accepted).run stoppingSources
      ⟨stoppingLog, (SinkWriter.stop_flushing stopLog unstopped started stopSinkTaken).handled⟩
      (fun sink member => ⟨keeps sink (by simp [member]),
        fun stop => (waits _ member).1 (by rw [stop]),
        fun timeout => (waits _ member).2 (by rw [timeout])⟩) waitedRan
  have endLog : endSink.logView.Logging base count initial :=
    SinkWriter.logging_step named (keeps .stopReturn (by simp)) waitedLog endSinkTaken
  have fifo : endSink.accepted =
    endSink.file.written.map WrittenRecord.item ++ endSink.queue.filter QueueItem.isData :=
      endLog.fifo
  have written : endSink.accepted <+: endSink.file.written.map WrittenRecord.item := by
    have stopped : endSink.accepted = atStop.sink.accepted := same
    rw [stopped]
    exact SinkWriter.stopReturn_drained waitedLog flushed endSinkTaken
  have length := written.length_le
  rw [fifo, List.length_append] at length
  have drained : (endSink.queue.filter QueueItem.isData).length = 0 := by omega
  exact List.eq_nil_of_length_eq_zero drained

/-- The records the sink has written of one source, in order. -/
def ReceiverEngine.writtenFrom (self : ReceiverEngine P) (src : String) : List FramedRecord :=
  ((self.sink.file.written.map WrittenRecord.item).filter
    fun item => decide (item.src = src)).map QueueItem.record

def ReceiverEngine.AtEof (engine : ReceiverEngine P) : Prop :=
  ∀ i, (engine.transport.peers i).point = .closed .eof ∧ (engine.transport.peers i).incoming = []

/-- In a run without refused records and failing file operations, once every peer is at
its end and the sink's queue is drained, the records written of each source are the
split of its peer's stream, and no others are written. If the peers' handlers have
ended when the sink's `stop` is called, the queue is drained when it returns. -/
theorem receive_path_splits_streams {base : String} (named : base ≠ "")
    (config : ReceiverConfig) (framing : config.framingMode = .lf) {srcs : Fin P → String}
    (distinct : Function.Injective srcs) (sourced : ∀ i, srcs i ≠ "")
    (streams : Fin P → Bytes) {cfg : SinkConfig}
    (logs : cfg.LogsTo base cfg.rotationBackupCount) (files : String → Option Bytes)
    {actions : List (EngineAction P)} {final : ReceiverEngine P}
    (receives : ∀ action ∈ actions, action.Receives base cfg.rotationBackupCount)
    (ran : Runs.run ReceiverEngine.step
      (ReceiverEngine.init (TcpReceiver.init config srcs streams) cfg files) actions =
      some final) :
    (final.sink.refused = 0 → final.AtEof →
      final.sink.queue.filter QueueItem.isData = [] →
        (∀ i, final.writtenFrom (srcs i) =
          referenceFrame lfSeparator config.maxRecordBytes (streams i)) ∧
        ∀ entry ∈ final.sink.file.written, ∃ i, entry.item.src = srcs i) ∧
    ∀ before waiting atStop, actions = before ++ .sink .stop :: (waiting ++ [.sink .stopReturn]) →
      (∀ action ∈ before, action ≠ .sink .stop) →
      (∀ action ∈ waiting, action ≠ .sink .stop ∧ action ≠ .sink .stopTimeout) →
      Runs.run ReceiverEngine.step
        (ReceiverEngine.init (TcpReceiver.init config srcs streams) cfg files) before =
        some atStop →
      atStop.sink.task ≠ none → atStop.AllClosed →
      final.sink.queue.filter QueueItem.isData = [] := by
  let initial : ReceiverEngine P :=
    ReceiverEngine.init (TcpReceiver.init config srcs streams) cfg files
  have log : initial.sink.logView.Logging base cfg.rotationBackupCount _ :=
    SinkWriter.init_logging logs files
  have keeps (sink : SinkAction) (member : .sink sink ∈ actions) :
      sink.KeepsLog base cfg.rotationBackupCount := (receives _ member).keepsLog.1
  constructor
  · intro kept ended drained
    have recorded : final.Recorded config streams := ReceiverEngine.recorded_run named receives
      sourced log (ReceiverEngine.init_recorded config distinct streams logs.enabled files) ran kept
    have finalLog := (ReceiverEngine.logging_closed named).run sourced log keeps ran
    have accepted : final.sink.accepted = final.sink.file.written.map WrittenRecord.item := by
      have fifo : final.sink.accepted = final.sink.file.written.map WrittenRecord.item ++
        final.sink.queue.filter QueueItem.isData := finalLog.fifo
      rw [fifo, drained, List.append_nil]
    have names (i : Fin P) : (final.transport.peers i).src = srcs i :=
      ReceiverEngine.run_src ran i
    constructor
    · intro i
      obtain ⟨records, progress, delivered⟩ := recorded.records i
      rw [names i, accepted] at delivered
      rw [ReceiverEngine.writtenFrom, delivered, List.map_map,
        ← progress.at_eof framing (ended i).1 (ended i).2]
      exact List.map_id records
    · intro entry member
      have known := (ReceiverEngine.sources_closed srcs).run (fun i => ⟨i, rfl⟩)
        (fun item member => by cases member)
        (fun sink member record src same =>
          ((receives _ member).keepsLog.2 record src same).elim) ran
      apply known
      rw [accepted]
      exact List.mem_map_of_mem member
  · intro before waiting atStop split noStop waits beforeRan started closed
    obtain rfl := split
    obtain ⟨middle, reached, restRan⟩ := Runs.run_append_eq_some.mp ran
    obtain rfl := Option.some.inj (beforeRan.symm.trans reached)
    exact ReceiverEngine.stop_drains named receives noStop waits sourced log
      (SinkWriter.init_unstopped cfg files) beforeRan started closed restRan

/-- Two peers whose chunks interleave, one of them with an unterminated tail. -/
theorem receive_path_splits_streams_two_peers :
    ∃ final : ReceiverEngine 2, Runs.run ReceiverEngine.step
        (ReceiverEngine.init
          (TcpReceiver.init {} (fun i => if i = 0 then "a:1" else "b:2")
            fun i => if i = 0 then [0x61, 0x62, 0x0A, 0x63] else [0x78, 0x0A])
          { enabled := true, path := some "sink.log" } fun _ => none)
        ([.sink .start, .sink (.begin []), .connect 0, .connect 1, .read 0 1, .read 1 2,
            .read 0 3, .eof 1, .eof 0] ++
          .sink .stop :: ([.sink (.drain "t" [] []), .sink (.drain "t" [] []),
            .sink (.drain "t" [] []), .sink (.drain "t" [] [])] ++ [.sink .stopReturn])) =
        some final ∧
      final.writtenFrom "a:1" = referenceFrame lfSeparator (1 <<< 20) [0x61, 0x62, 0x0A, 0x63] ∧
      final.writtenFrom "b:2" = referenceFrame lfSeparator (1 <<< 20) [0x78, 0x0A] := by
  let start : ReceiverEngine 2 := ReceiverEngine.init
    (TcpReceiver.init {} (fun i => if i = 0 then "a:1" else "b:2")
      fun i => if i = 0 then [0x61, 0x62, 0x0A, 0x63] else [0x78, 0x0A])
    { enabled := true, path := some "sink.log" } fun _ => none
  let before : List (EngineAction 2) := [.sink .start, .sink (.begin []), .connect 0, .connect 1,
    .read 0 1, .read 1 2, .read 0 3, .eof 1, .eof 0]
  let waiting : List (EngineAction 2) := [.sink (.drain "t" [] []), .sink (.drain "t" [] []),
    .sink (.drain "t" [] []), .sink (.drain "t" [] [])]
  have ran := (Option.some_get (by decide +kernel : (Runs.run ReceiverEngine.step start
    (before ++ .sink .stop :: (waiting ++ [.sink .stopReturn]))).isSome = true)).symm
  have beforeRan := (Option.some_get (by decide +kernel :
    (Runs.run ReceiverEngine.step start before).isSome = true)).symm
  have distinct : Function.Injective fun i : Fin 2 => if i = 0 then "a:1" else "b:2" := by
    intro left right
    revert left right
    decide
  have held := receive_path_splits_streams (by decide : "sink.log" ≠ "") {} rfl distinct
    (by decide) (fun i => if i = 0 then [0x61, 0x62, 0x0A, 0x63] else [0x78, 0x0A])
    ⟨rfl, rfl, rfl⟩ (fun _ => none)
    (by simp [before, waiting, EngineAction.Receives, SinkAction.KeepsLog]) ran
  have drained := held.2 before waiting _ rfl (by simp [before]) (by simp [waiting]) beforeRan
    (by decide +kernel)
    (fun i => ⟨.eof, by revert i; decide +kernel⟩)
  have split := held.1 (by decide +kernel) (fun i => by revert i; decide +kernel) drained
  exact ⟨_, ran, split.1 0, split.1 1⟩

end TcpSim.Engine
