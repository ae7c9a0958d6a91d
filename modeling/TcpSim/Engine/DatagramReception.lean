import TcpSim.Engine.DatagramEngine
import Mathlib.Algebra.Ring.Nat

/-! What becomes of the datagrams: the receiver's counters are a function of what arrives, and
the sink gets the admitted datagrams in the order of their arrival. -/

set_option autoImplicit false

namespace TcpSim.Engine

open Transport

abbrev Arrival := Bytes × Address

def DatagramAction.arrival : DatagramAction → Option Arrival
  | .datagram data addr => some (data, addr)
  | _ => none

/-- The datagrams among the actions, in order. -/
def arrivals (actions : List DatagramAction) : List Arrival :=
  actions.filterMap DatagramAction.arrival

/-- What a receiver's configuration says about datagrams. -/
structure Admission where
  maxRecordBytes : Int
  /-- The only peer that is listened to. -/
  remote : Option Address
  deriving DecidableEq

def Admission.admits (self : Admission) (arrival : Arrival) : Bool :=
  match self.remote with
  | none => true
  | some remote => arrival.2 = remote

def Admission.item (self : Admission) (arrival : Arrival) : QueueItem where
  record := datagramRecord self.maxRecordBytes arrival.1
  src := arrival.2.src

def admissionOf : UdpReceiver → Admission
  | .server receiver => { maxRecordBytes := receiver.config.maxRecordBytes, remote := none }
  | .client receiver =>
      { maxRecordBytes := receiver.config.maxRecordBytes
        remote := if receiver.config.filterRemotePeer then some receiver.config.remote else none }

/-! ## The receiver -/

theorem datagramRecord_truncated (max : Int) (data : Bytes) :
    (datagramRecord max data).truncated = decide ((data.length : Int) > max) := by
  unfold datagramRecord
  split
  next long => simp [long]
  next short => simp [short]

theorem admits_client_iff (receiver : UdpClientReceiver) (arrival : Arrival) :
    (admissionOf (.client receiver)).admits arrival = true ↔
      ¬ (receiver.config.filterRemotePeer = true ∧ (arrival.2.host ≠ receiver.config.host ∨
        arrival.2.port ≠ receiver.config.port)) := by
  unfold admissionOf Admission.admits
  dsimp only
  split
  next anyone =>
      have off : ¬ receiver.config.filterRemotePeer = true := fun on => by simp [on] at anyone
      simp [off]
  next remote only =>
      split at only
      next on =>
          obtain rfl := Option.some.inj only
          simp [on, Address.ext_iff, UdpClientReceiverConfig.remote]
      next => cases only

/-- The configuration and the counters. -/
def tally (receiver : UdpReceiver) : Admission × DatagramCounts × Nat :=
  (admissionOf receiver, receiver.counts, receiver.packetsFiltered)

section Tally

variable (receiver : UdpReceiver)

theorem emit_tally (event : DatagramEvent) : tally (receiver.emit event) = tally receiver := by
  cases receiver <;> rfl

theorem sendHello_tally (client : UdpClientReceiver) :
    tally (.client client.sendHello) = tally (.client client) := by
  unfold UdpClientReceiver.sendHello
  split <;> rfl

theorem start_tally (endpoint : Except String (Option Int)) :
    tally (receiver.start endpoint) = tally receiver := by
  cases receiver with
  | server receiver =>
      simp only [UdpReceiver.start, UdpServerReceiver.start]
      split
      · rfl
      · split <;> rfl
  | client receiver =>
      simp only [UdpReceiver.start, UdpClientReceiver.start]
      split
      · rfl
      · split
        · rfl
        · unfold UdpClientReceiver.startHello
          split
          · dsimp only
            split
            · exact sendHello_tally _
            · exact sendHello_tally _
          · rfl

theorem stop_tally : tally receiver.stop = tally receiver := by
  cases receiver with
  | server receiver =>
      simp only [UdpReceiver.stop, UdpServerReceiver.stop]
      split <;> rfl
  | client receiver =>
      simp only [UdpReceiver.stop, UdpClientReceiver.stop]
      split
      · split <;> rfl
      · rfl

variable {receiver}

theorem stopReturns_tally {next : UdpReceiver} (returns : receiver.stopReturns = some next) :
    tally next = tally receiver := by
  cases receiver with
  | server receiver => cases returns
  | client receiver =>
      simp only [UdpReceiver.stopReturns] at returns
      split at returns
      · cases returns
        rfl
      · cases returns

theorem helloWakes_tally {next : UdpReceiver} (wakes : receiver.helloWakes = some next) :
    tally next = tally receiver := by
  cases receiver with
  | server receiver => cases wakes
  | client receiver =>
      simp only [UdpReceiver.helloWakes] at wakes
      split at wakes
      · cases wakes
        unfold UdpClientReceiver.helloWakes
        split
        · exact sendHello_tally receiver
        · rfl
      · cases wakes

end Tally

/-- What `_on_datagram` does with an arrival. -/
inductive Taken (receiver : UdpReceiver) (arrival : Arrival) :
    Option (String × FramedRecord) × UdpReceiver → Prop where
  | admitted {next : UdpReceiver} (admits : (admissionOf receiver).admits arrival = true)
      (counted : tally next = (admissionOf receiver, receiver.counts.count arrival.1
        ((admissionOf receiver).item arrival).record, receiver.packetsFiltered)) :
      Taken receiver arrival
        (some (arrival.2.src, ((admissionOf receiver).item arrival).record), next)
  | filtered {next : UdpReceiver} (rejects : (admissionOf receiver).admits arrival = false)
      (counted : tally next =
        (admissionOf receiver, receiver.counts, receiver.packetsFiltered + 1)) :
      Taken receiver arrival (none, next)

theorem onDatagram_taken (receiver : UdpReceiver) (arrival : Arrival) :
    Taken receiver arrival (receiver.onDatagram arrival.1 arrival.2) := by
  cases receiver with
  | server receiver => exact .admitted rfl rfl
  | client receiver =>
      have admits := admits_client_iff receiver arrival
      simp only [UdpReceiver.onDatagram, UdpClientReceiver.onDatagram]
      split
      next foreign =>
          refine .filtered ?_ rfl
          exact eq_false_of_ne_true fun admitted => admits.mp admitted foreign
      next wanted => exact .admitted (admits.mpr wanted) rfl

/-! ## Counters -/

/-- The counters after these arrivals; `recordDrops` is the engine's. -/
structure Counted (admission : Admission) (past : List Arrival) (receiver : UdpReceiver) :
    Prop where
  config : admissionOf receiver = admission
  records : receiver.counts.recordsReceived = (past.filter admission.admits).length
  bytes : receiver.counts.bytesReceived =
    ((past.filter admission.admits).map fun arrival => arrival.1.length).sum
  truncations : receiver.counts.truncations = (past.filter admission.admits).countP
    fun arrival => (arrival.1.length : Int) > admission.maxRecordBytes
  filtered : receiver.packetsFiltered + (past.filter admission.admits).length = past.length

theorem Counted.of_tally {admission : Admission} {past : List Arrival} {before after : UdpReceiver}
    (counted : Counted admission past before) (same : tally after = tally before) :
    Counted admission past after := by
  simp only [tally, Prod.mk.injEq] at same
  obtain ⟨config, counts, filtered⟩ := same
  constructor
  · rw [config, counted.config]
  · rw [counts, counted.records]
  · rw [counts, counted.bytes]
  · rw [counts, counted.truncations]
  · rw [filtered, counted.filtered]

theorem Counted.drop {admission : Admission} {past : List Arrival} {receiver : UdpReceiver}
    (counted : Counted admission past receiver) : Counted admission past receiver.countDrop := by
  obtain ⟨config, records, bytes, truncations, filtered⟩ := counted
  cases receiver <;> exact ⟨config, records, bytes, truncations, filtered⟩

theorem Counted.take {admission : Admission} {past : List Arrival} {before after : UdpReceiver}
    (counted : Counted admission past before) {arrival : Arrival}
    (admits : admission.admits arrival = true)
    (tallied : tally after = (admission, before.counts.count arrival.1
      (admission.item arrival).record, before.packetsFiltered)) :
    Counted admission (past ++ [arrival]) after := by
  simp only [tally, Prod.mk.injEq] at tallied
  obtain ⟨config, counts, filtered⟩ := tallied
  have kept : (past ++ [arrival]).filter admission.admits =
      past.filter admission.admits ++ [arrival] := by simp [admits]
  constructor
  · exact config
  · rw [counts, kept, List.length_append, ← counted.records]
    rfl
  · rw [counts, kept, List.map_append, List.sum_append, ← counted.bytes]
    simp [DatagramCounts.count]
  · rw [counts, kept, List.countP_append, ← counted.truncations]
    simp [DatagramCounts.count, Admission.item, datagramRecord_truncated, List.countP_cons]
    split <;> simp_all
  · rw [filtered, kept, List.length_append, List.length_append, ← counted.filtered]
    exact (Nat.add_assoc _ _ _).symm

theorem Counted.skip {admission : Admission} {past : List Arrival} {before after : UdpReceiver}
    (counted : Counted admission past before) {arrival : Arrival}
    (rejects : admission.admits arrival = false)
    (tallied : tally after = (admission, before.counts, before.packetsFiltered + 1)) :
    Counted admission (past ++ [arrival]) after := by
  simp only [tally, Prod.mk.injEq] at tallied
  obtain ⟨config, counts, filtered⟩ := tallied
  have kept : (past ++ [arrival]).filter admission.admits = past.filter admission.admits := by
    simp [rejects]
  constructor
  · exact config
  · rw [counts, kept, counted.records]
  · rw [counts, kept, counted.bytes]
  · rw [counts, kept, counted.truncations]
  · rw [filtered, kept, List.length_append, ← counted.filtered, List.length_singleton]
    omega

/-! ## The engine -/

@[simp] theorem takeSink_receiver (engine : DatagramEngine) (sink : SinkWriter) :
    (engine.takeSink sink).receiver = engine.receiver := by
  have ignores (receiver : UdpReceiver) (event : SinkEvent) :
      DatagramEngine.handleSinkEvent receiver event = receiver := by
    cases event <;> rfl
  simp only [DatagramEngine.takeSink]
  induction sink.file.events with
  | nil => rfl
  | cons event rest ih => rw [List.foldl_cons, ignores, ih]

theorem handleRecord_eq (engine : DatagramEngine) (src : String) (record : FramedRecord) :
    engine.handleRecord src record =
      if (engine.sink.submit record src).1 then engine.takeSink (engine.sink.submit record src).2
      else { engine.takeSink (engine.sink.submit record src).2 with
        receiver := (engine.takeSink (engine.sink.submit record src).2).receiver.countDrop } := rfl

theorem SinkWriter.submit_recordsDropped (sink : SinkWriter) (record : FramedRecord) (src : String) :
    (sink.submit record src).2.recordsDropped =
      sink.recordsDropped + (!(sink.submit record src).1).toNat := by
  unfold SinkWriter.submit
  split
  · rfl
  · dsimp only
    split
    · rfl
    · exact congrArg Books.recordsDropped (SinkWriter.updateBackpressure_books _) |>.trans
        (Books.updateBackpressure_recordsDropped _ _)

theorem Address.src_ne_empty (addr : Address) : addr.src ≠ "" := by
  intro empty
  have length := congrArg String.length empty
  simp [Address.src, toString] at length

/-- What a step does: to the sink alone, with an arrival, or to the transport alone and not to
its counters. -/
inductive DatagramEngine.Steps (engine : DatagramEngine) : DatagramAction → DatagramEngine → Prop where
  | sink {action : SinkAction} {sink : SinkWriter} (silent : action.submission = none)
      (taken : engine.sink.step action = some sink) : Steps engine (.sink action) (engine.takeSink sink)
  | arrives (arrival : Arrival) :
      Steps engine (.datagram arrival.1 arrival.2) (engine.onDatagram arrival.1 arrival.2)
  | transport {action : DatagramAction} {receiver : UdpReceiver} (quiet : action.arrival = none)
      (same : tally receiver = tally engine.receiver) : Steps engine action { engine with receiver }

theorem DatagramEngine.steps_of_step {engine next : DatagramEngine} {action : DatagramAction}
    (taken : engine.step action = some next) : engine.Steps action next := by
  cases action with
  | datagram data addr =>
      simp only [DatagramEngine.step] at taken
      split at taken
      · cases taken
        exact .arrives (data, addr)
      · cases taken
  | sink action =>
      simp only [DatagramEngine.step] at taken
      split at taken
      · cases taken
      next silent =>
          obtain ⟨sink, sinkTaken, rfl⟩ := Option.map_eq_some_iff.mp taken
          exact .sink (by simpa using silent) sinkTaken
  | start endpoint =>
      simp only [DatagramEngine.step] at taken
      split at taken
      · cases taken
      · cases taken
        exact .transport rfl (start_tally _ endpoint)
  | errorReceived error =>
      simp only [DatagramEngine.step] at taken
      split at taken
      · cases taken
        exact .transport rfl (emit_tally _ _)
      · cases taken
  | helloWakes =>
      obtain ⟨receiver, wakes, rfl⟩ := Option.map_eq_some_iff.mp taken
      exact .transport rfl (helloWakes_tally wakes)
  | stop =>
      cases taken
      exact .transport rfl (stop_tally _)
  | stopReturns =>
      obtain ⟨receiver, returns, rfl⟩ := Option.map_eq_some_iff.mp taken
      exact .transport rfl (stopReturns_tally returns)

/-- What holds of the engine after these arrivals. -/
structure Received (admission : Admission) (past : List Arrival) (engine : DatagramEngine) :
    Prop where
  counted : Counted admission past engine.receiver
  drops : engine.receiver.counts.recordDrops = engine.sink.recordsDropped
  refusals : engine.sink.CountsRefusals
  ordered : engine.sink.books.Ordered

namespace Received

variable {admission : Admission} {past : List Arrival} {engine : DatagramEngine}

/-- Nothing but the transport changes, and not in its counters. -/
theorem of_tally (received : Received admission past engine) {receiver : UdpReceiver}
    (same : tally receiver = tally engine.receiver) :
    Received admission past { engine with receiver } where
  counted := received.counted.of_tally same
  drops := by
    have counts : receiver.counts = engine.receiver.counts := congrArg (·.2.1) same
    change receiver.counts.recordDrops = _
    rw [counts, received.drops]
  refusals := received.refusals
  ordered := received.ordered

theorem takeSink (received : Received admission past engine) {action : SinkAction}
    (silent : action.submission = none) {sink : SinkWriter}
    (taken : engine.sink.step action = some sink) :
    Received admission past (engine.takeSink sink) where
  counted := by
    rw [takeSink_receiver]
    exact received.counted
  drops := by
    rw [takeSink_receiver, received.drops]
    have before : engine.sink.recordsDropped = engine.sink.refused := received.refusals
    have after : sink.recordsDropped = sink.refused :=
      SinkWriter.countsRefusals_step received.refusals taken
    have other : ∀ record src, action ≠ .submit record src := by
      rintro record src rfl
      cases silent
    rw [before, ← (SinkWriter.step_submits other taken).2, ← after]
    rfl
  refusals :=
    show sink.CountsRefusals from SinkWriter.countsRefusals_step received.refusals taken
  ordered := by
    have sourced : action.Sourced := by
      cases action with
      | submit => cases silent
      | _ => trivial
    have ordered : sink.books.Ordered := SinkWriter.ordered_step sourced received.ordered taken
    exact ordered

theorem handleRecord (received : Received admission past engine) (record : FramedRecord)
    (addr : Address) : Received admission past (engine.handleRecord addr.src record) := by
  have dropped := SinkWriter.submit_recordsDropped engine.sink record addr.src
  have submits : engine.sink.step (.submit record addr.src) =
      some (engine.sink.submit record addr.src).2 := rfl
  have refusals : (engine.sink.submit record addr.src).2.CountsRefusals :=
    SinkWriter.countsRefusals_step received.refusals submits
  have ordered : (engine.sink.submit record addr.src).2.books.Ordered :=
    SinkWriter.ordered_step (show (SinkAction.submit record addr.src).Sourced from
      Address.src_ne_empty addr) received.ordered submits
  rw [handleRecord_eq]
  split
  next submitted =>
      refine ⟨by rw [takeSink_receiver]; exact received.counted, ?_, refusals, ordered⟩
      rw [takeSink_receiver, received.drops]
      rw [submitted] at dropped
      exact dropped.symm
  next refused =>
      refine ⟨?_, ?_, refusals, ordered⟩
      · change Counted admission past (engine.takeSink _).receiver.countDrop
        rw [takeSink_receiver]
        exact received.counted.drop
      · change (engine.takeSink _).receiver.countDrop.counts.recordDrops = _
        rw [takeSink_receiver]
        rw [eq_false_of_ne_true refused] at dropped
        have one : engine.receiver.countDrop.counts.recordDrops =
            engine.receiver.counts.recordDrops + 1 := by
          cases engine.receiver <;> rfl
        rw [one, received.drops]
        exact dropped.symm

theorem onDatagram (received : Received admission past engine) (arrival : Arrival) :
    Received admission (past ++ [arrival]) (engine.onDatagram arrival.1 arrival.2) := by
  have config := received.counted.config
  have outcome := onDatagram_taken engine.receiver arrival
  unfold DatagramEngine.onDatagram
  generalize engine.receiver.onDatagram arrival.1 arrival.2 = result at outcome
  cases outcome with
  | @admitted next admits counted =>
      rw [config] at admits counted ⊢
      have drops : next.counts.recordDrops = engine.sink.recordsDropped := by
        have counts := congrArg (·.2.1) counted
        change next.counts = _ at counts
        rw [counts, ← received.drops]
        rfl
      refine handleRecord ?_ _ arrival.2
      exact ⟨received.counted.take admits counted, drops, received.refusals, received.ordered⟩
  | @filtered next rejects counted =>
      rw [config] at rejects counted
      refine ⟨received.counted.skip rejects counted, ?_, received.refusals, received.ordered⟩
      have counts := congrArg (·.2.1) counted
      change next.counts = _ at counts
      change next.counts.recordDrops = engine.sink.recordsDropped
      rw [counts, received.drops]

theorem step (received : Received admission past engine) {next : DatagramEngine}
    {action : DatagramAction} (taken : engine.step action = some next) :
    Received admission (past ++ action.arrival.toList) next := by
  cases DatagramEngine.steps_of_step taken with
  | sink silent sinkTaken =>
      change Received admission (past ++ []) _
      rw [List.append_nil]
      exact received.takeSink silent sinkTaken
  | arrives arrival => exact received.onDatagram arrival
  | transport quiet same =>
      rw [quiet, Option.toList_none, List.append_nil]
      exact received.of_tally same

end Received

/-! ## The sink's side -/

/-- The items that these arrivals put to the sink. -/
def submittedOf (admission : Admission) (past : List Arrival) : List QueueItem :=
  (past.filter admission.admits).map admission.item

theorem intake_step {admission : Admission} {past : List Arrival} {engine next : DatagramEngine}
    {ignored : Nat} (config : admissionOf engine.receiver = admission)
    (intake : engine.sink.Intake (submittedOf admission past) ignored) {action : DatagramAction}
    (taken : engine.step action = some next) :
    ∃ more, next.sink.Intake (submittedOf admission (past ++ action.arrival.toList)) more ∧
      (engine.sink.cfg.enabled = true → more = ignored) := by
  cases DatagramEngine.steps_of_step taken with
  | @sink action sink silent sinkTaken =>
      refine ⟨ignored, ?_, fun _ => rfl⟩
      change (engine.takeSink sink).sink.Intake (submittedOf admission (past ++ [])) ignored
      rw [List.append_nil]
      have other : ∀ record src, action ≠ .submit record src := by
        rintro record src rfl
        cases silent
      have kept := intake.other other sinkTaken
      exact ⟨kept.order, kept.total⟩
  | arrives arrival =>
      have outcome := onDatagram_taken engine.receiver arrival
      rw [DatagramAction.arrival, Option.toList_some]
      unfold DatagramEngine.onDatagram
      generalize engine.receiver.onDatagram arrival.1 arrival.2 = result at outcome
      cases outcome with
      | @admitted receiver admits =>
          rw [config] at admits ⊢
          have submitted := intake.submit (admission.item arrival).record arrival.2.src
          have items : submittedOf admission (past ++ [arrival]) =
              submittedOf admission past ++ [admission.item arrival] := by
            simp [submittedOf, admits]
          refine ⟨ignored + (!engine.sink.cfg.enabled).toNat, ?_, fun enabled => ?_⟩
          · rw [items]
            dsimp only
            rw [handleRecord_eq]
            split
            · exact ⟨submitted.order, submitted.total⟩
            · exact ⟨submitted.order, submitted.total⟩
          · simp [enabled]
      | filtered rejects =>
          rw [config] at rejects
          refine ⟨ignored, ?_, fun _ => rfl⟩
          have items : submittedOf admission (past ++ [arrival]) = submittedOf admission past := by
            simp [submittedOf, rejects]
          rw [items]
          exact intake
  | transport quiet =>
      refine ⟨ignored, ?_, fun _ => rfl⟩
      rw [quiet, Option.toList_none, List.append_nil]
      exact intake

/-! ## Runs -/

/-- A receiver as its constructor leaves it. -/
def IsNew : UdpReceiver → Prop
  | .server receiver => receiver = { config := receiver.config }
  | .client receiver => receiver = { config := receiver.config }

theorem IsNew.received {receiver : UdpReceiver} (isNew : IsNew receiver) (cfg : SinkConfig)
    (files : String → Option Bytes) :
    Received (admissionOf receiver) [] (DatagramEngine.init receiver cfg files) := by
  have ordered := SinkWriter.init_ordered cfg files
  cases receiver with
  | server receiver =>
      rw [isNew]
      exact ⟨⟨rfl, rfl, rfl, rfl, rfl⟩, rfl, rfl, ordered⟩
  | client receiver =>
      rw [isNew]
      exact ⟨⟨rfl, rfl, rfl, rfl, rfl⟩, rfl, rfl, ordered⟩

section Runs

variable {receiver : UdpReceiver} (isNew : IsNew receiver) (cfg : SinkConfig)
  (files : String → Option Bytes) {actions : List DatagramAction} {final : DatagramEngine}
include isNew

theorem received_run
    (ran : Runs.run DatagramEngine.step (DatagramEngine.init receiver cfg files) actions =
      some final) :
    Received (admissionOf receiver) (arrivals actions) final := by
  rw [arrivals, List.filterMap_eq_flatMap_toList]
  exact Runs.run_history (fun action : DatagramAction => action.arrival.toList)
    (Received (admissionOf receiver)) (fun _ _ _ _ received taken => received.step taken)
    (isNew.received cfg files) ran

theorem intake_run
    (ran : Runs.run DatagramEngine.step (DatagramEngine.init receiver cfg files) actions =
      some final) :
    ∃ ignored, final.sink.Intake (submittedOf (admissionOf receiver) (arrivals actions)) ignored := by
  have start : ∃ ignored, (DatagramEngine.init receiver cfg files).sink.Intake
      (submittedOf (admissionOf receiver) []) ignored :=
    ⟨0, SinkWriter.init_intake cfg files⟩
  have both := Runs.run_history (fun action : DatagramAction => action.arrival.toList)
    (fun past engine => Received (admissionOf receiver) past engine ∧
      ∃ ignored, engine.sink.Intake (submittedOf (admissionOf receiver) past) ignored)
    ?_ ⟨isNew.received cfg files, start⟩ ran
  · rw [arrivals, List.filterMap_eq_flatMap_toList]
    exact both.2
  · intro past engine action next inv taken
    obtain ⟨received, _, intake⟩ := inv
    obtain ⟨more, later, _⟩ := intake_step received.counted.config intake taken
    exact ⟨received.step taken, more, later⟩

theorem intake_run_enabled
    (enabled : Runs.Each DatagramEngine.step (fun engine _ => engine.sink.cfg.enabled = true)
      (DatagramEngine.init receiver cfg files) actions)
    (ran : Runs.run DatagramEngine.step (DatagramEngine.init receiver cfg files) actions =
      some final) :
    final.sink.Intake (submittedOf (admissionOf receiver) (arrivals actions)) 0 := by
  have both := enabled.run_history (fun action : DatagramAction => action.arrival.toList)
    (fun past engine => Received (admissionOf receiver) past engine ∧
      engine.sink.Intake (submittedOf (admissionOf receiver) past) 0)
    ?_ ⟨isNew.received cfg files, SinkWriter.init_intake cfg files⟩ ran
  · rw [arrivals, List.filterMap_eq_flatMap_toList]
    exact both.2
  · intro past engine action next on inv taken
    obtain ⟨received, intake⟩ := inv
    obtain ⟨more, later, same⟩ := intake_step received.counted.config intake taken
    rw [same on] at later
    exact ⟨received.step taken, later⟩

/-- Whatever the sink does meanwhile, the counters are those of the datagrams: each one is
filtered out or received, those above the cap count as truncations, and the transport's drops
are the sink's. While the sink is enabled, each received datagram is accepted or dropped. -/
theorem datagrams_accounted
    (ran : Runs.run DatagramEngine.step (DatagramEngine.init receiver cfg files) actions =
      some final) :
    let admission := admissionOf receiver
    let admitted := (arrivals actions).filter admission.admits
    final.receiver.counts = {
        recordsReceived := admitted.length
        bytesReceived := (admitted.map fun arrival => arrival.1.length).sum
        truncations := admitted.countP fun arrival =>
          (arrival.1.length : Int) > admission.maxRecordBytes
        recordDrops := final.sink.recordsDropped } ∧
      final.receiver.packetsFiltered + admitted.length = (arrivals actions).length ∧
      final.sink.accepted.length + final.sink.recordsDropped ≤ admitted.length ∧
      (Runs.Each DatagramEngine.step (fun engine _ => engine.sink.cfg.enabled = true)
          (DatagramEngine.init receiver cfg files) actions →
        final.sink.accepted.length + final.sink.recordsDropped = admitted.length) := by
  have received := received_run isNew cfg files ran
  have dropped : final.sink.recordsDropped = final.sink.refused := received.refusals
  refine ⟨?_, received.counted.filtered, ?_, fun enabled => ?_⟩
  · rw [← received.counted.records, ← received.counted.bytes, ← received.counted.truncations,
      ← received.drops]
  · obtain ⟨ignored, intake⟩ := intake_run isNew cfg files ran
    have total := intake.total
    rw [submittedOf, List.length_map] at total
    omega
  · have total := (intake_run_enabled isNew cfg files enabled ran).total
    rw [submittedOf, List.length_map] at total
    omega

/-- What is written and what is still queued are admitted datagrams, each cut off at the cap, in
the order of their arrival. -/
theorem datagrams_keep_order
    (ran : Runs.run DatagramEngine.step (DatagramEngine.init receiver cfg files) actions =
      some final) :
    (final.sink.file.written.map WrittenRecord.item ++
        final.sink.queue.filter QueueItem.isData).Sublist
      (((arrivals actions).filter (admissionOf receiver).admits).map (admissionOf receiver).item) := by
  obtain ⟨_, intake⟩ := intake_run isNew cfg files ran
  have ordered := (received_run isNew cfg files ran).ordered
  exact ordered.writtenAndQueued.trans intake.order

end Runs

/-- A client that listens to one peer and cuts records off at two bytes. -/
def filteringClient : UdpReceiver := .client { config := {
  host := "10.0.0.1"
  port := 9000
  maxRecordBytes := 2
  helloPayload := some [0x68]
  helloIntervalSeconds := 1
  filterRemotePeer := true } }

theorem filteringClient_isNew : IsNew filteringClient := rfl

/-- A long datagram of the peer, one of somebody else, one that no longer fits into the queue,
and one that arrives while `stop` waits. -/
def longForeignDropped : List DatagramAction :=
  [.sink .start, .sink (.begin []), .start (.ok (some 5000)), .helloWakes,
    .datagram [0x61, 0x62, 0x63] { host := "10.0.0.1", port := 9000 },
    .datagram [0x64] { host := "10.0.0.2", port := 9000 },
    .datagram [0x65] { host := "10.0.0.1", port := 9000 },
    .sink (.drain "t" [] []), .stop,
    .datagram [0x66] { host := "10.0.0.1", port := 9000 }, .stopReturns]

theorem datagrams_accounted_long_foreign_dropped : ∃ final,
    Runs.run DatagramEngine.step (DatagramEngine.init filteringClient twoByteQueue fun _ => none)
      longForeignDropped = some final ∧
    let admission := admissionOf filteringClient
    let admitted := (arrivals longForeignDropped).filter admission.admits
    final.receiver.counts = {
        recordsReceived := admitted.length
        bytesReceived := (admitted.map fun arrival => arrival.1.length).sum
        truncations := admitted.countP fun arrival =>
          (arrival.1.length : Int) > admission.maxRecordBytes
        recordDrops := final.sink.recordsDropped } ∧
      final.receiver.packetsFiltered + admitted.length = (arrivals longForeignDropped).length ∧
      final.sink.accepted.length + final.sink.recordsDropped ≤ admitted.length ∧
      (Runs.Each DatagramEngine.step (fun engine _ => engine.sink.cfg.enabled = true)
          (DatagramEngine.init filteringClient twoByteQueue fun _ => none) longForeignDropped →
        final.sink.accepted.length + final.sink.recordsDropped = admitted.length) := by
  have reached : (Runs.run DatagramEngine.step
      (DatagramEngine.init filteringClient twoByteQueue fun _ => none)
      longForeignDropped).isSome = true := by decide +kernel
  obtain ⟨final, ran⟩ := Option.isSome_iff_exists.mp reached
  exact ⟨final, ran, datagrams_accounted filteringClient_isNew twoByteQueue (fun _ => none) ran⟩

theorem datagrams_keep_order_long_foreign_dropped : ∃ final,
    Runs.run DatagramEngine.step (DatagramEngine.init filteringClient twoByteQueue fun _ => none)
      longForeignDropped = some final ∧
    (final.sink.file.written.map WrittenRecord.item ++
        final.sink.queue.filter QueueItem.isData).Sublist
      (((arrivals longForeignDropped).filter (admissionOf filteringClient).admits).map
        (admissionOf filteringClient).item) := by
  have reached : (Runs.run DatagramEngine.step
      (DatagramEngine.init filteringClient twoByteQueue fun _ => none)
      longForeignDropped).isSome = true := by decide +kernel
  obtain ⟨final, ran⟩ := Option.isSome_iff_exists.mp reached
  exact ⟨final, ran, datagrams_keep_order filteringClient_isNew twoByteQueue (fun _ => none) ran⟩

end TcpSim.Engine
