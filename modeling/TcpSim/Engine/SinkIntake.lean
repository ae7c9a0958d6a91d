import TcpSim.Engine.SinkLoss

/-! What becomes of the order of the submitted records: whatever fails on the way, the sink
takes them in their order, and what it writes and what it still holds has that order too. -/

set_option autoImplicit false

namespace TcpSim.Engine

/-! ## From the queue to the file -/

/-- The records taken off the queue so far precede those on it, and the written ones are among
them in their order. -/
def Books.Ordered (books : Books) : Prop :=
  ∃ taken, books.accepted = taken ++ books.queuedData ∧
    (books.written.map WrittenRecord.item).Sublist taken

namespace Books

variable {books : Books} {item : QueueItem} {queue : List QueueItem}

theorem Ordered.writtenAndQueued (ordered : books.Ordered) :
    (books.written.map WrittenRecord.item ++ books.queuedData).Sublist books.accepted := by
  obtain ⟨taken, accepted, written⟩ := ordered
  rw [accepted]
  exact written.append_right _

theorem Ordered.enqueue (ordered : books.Ordered) (marker : item.isData = false) :
    (books.enqueue item).Ordered := by
  obtain ⟨taken, accepted, written⟩ := ordered
  refine ⟨taken, ?_, written⟩
  simpa [Books.enqueue, queuedData, queuedData_append, marker] using accepted

theorem Ordered.accept (ordered : books.Ordered) (cfg : SinkConfig) (data : item.isData = true) :
    (books.accept cfg item).Ordered := by
  obtain ⟨taken, accepted, written⟩ := ordered
  refine ⟨taken, ?_, by simpa [Books.accept] using written⟩
  simp [Books.accept, queuedData, data, accepted]

theorem Ordered.submit (ordered : books.Ordered) (cfg : SinkConfig) (data : item.isData = true) :
    (books.submit cfg item).Ordered := by
  unfold Books.submit
  split
  · exact ordered
  · split
    · exact ordered
    · exact ordered.accept cfg data

/-- The head of the queue is taken and comes to nothing. -/
theorem Ordered.take (ordered : books.Ordered) (head : books.queue = item :: queue) :
    { books with queue }.Ordered := by
  obtain ⟨taken, accepted, written⟩ := ordered
  cases data : item.isData with
  | false =>
      refine ⟨taken, ?_, written⟩
      simpa [queuedData, head, data] using accepted
  | true =>
      refine ⟨taken ++ [item], ?_, written.trans (List.sublist_append_left _ _)⟩
      simpa [queuedData, head, data] using accepted

theorem Ordered.release (ordered : books.Ordered) (cfg : SinkConfig) (item : QueueItem) :
    (books.release cfg item).Ordered := by
  obtain ⟨taken, accepted, written⟩ := ordered
  refine ⟨taken, ?_, by simpa [Books.release] using written⟩
  simpa [Books.release, queuedData] using accepted

/-- The head of the queue is taken and written. -/
theorem Ordered.write (ordered : books.Ordered) (head : books.queue = item :: queue)
    (data : item.isData = true) (cfg : SinkConfig) (now : String) :
    ({ books with queue }.record ⟨item, cfg, now⟩).Ordered := by
  obtain ⟨taken, accepted, written⟩ := ordered
  refine ⟨taken ++ [item], ?_, ?_⟩
  · simpa [Books.record, queuedData, head, data] using accepted
  · simpa [Books.record] using written

end Books

theorem SinkWriter.ordered_step {sink next : SinkWriter} {action : SinkAction}
    (sourced : action.Sourced) (ordered : sink.books.Ordered)
    (taken : sink.step action = some next) : next.books.Ordered := by
  have entry := SinkWriter.step_entry taken
  generalize next.books = books at entry
  cases entry with
  | idle => exact ordered
  | enqueue _ marker => exact ordered.enqueue marker
  | submit record src => exact ordered.submit sink.cfg (isData_of_sourced sourced)
  | @drain item queue now opening writing _ head turn =>
      have headBooks : sink.books.queue = item :: queue := head
      cases turn with
      | lost => exact ordered.take headBooks
      | control => exact ordered.take headBooks
      | discarded => exact (ordered.take headBooks).release _ item
      | stored data => exact (ordered.write headBooks data _ now).release _ item

/-! ## From the submissions to the queue -/

/-- Of the submitted items the accepted ones are kept in their order; each of the others was
refused and counted, or ignored by a disabled sink. -/
structure SinkWriter.Intake (sink : SinkWriter) (submitted : List QueueItem) (ignored : Nat) :
    Prop where
  order : sink.accepted.Sublist submitted
  total : submitted.length = sink.accepted.length + sink.refused + ignored

theorem SinkWriter.Intake.submit {sink : SinkWriter} {submitted : List QueueItem} {ignored : Nat}
    (intake : sink.Intake submitted ignored) (record : FramedRecord) (src : String) :
    (sink.submit record src).2.Intake (submitted ++ [{ record := record, src := src }])
      (ignored + (!sink.cfg.enabled).toNat) := by
  have books := SinkWriter.submit_books sink record src
  have accepted := congrArg Books.accepted books
  have refused := congrArg Books.refused books
  change (sink.submit record src).2.accepted = _ at accepted
  change (sink.submit record src).2.refused = _ at refused
  have total := intake.total
  constructor
  · rw [accepted]
    unfold Books.submit
    split
    · exact intake.order.trans (List.sublist_append_left _ _)
    · split
      · exact intake.order.trans (List.sublist_append_left _ _)
      · rw [Books.accept, Books.updateBackpressure_accepted]
        exact intake.order.append_right _
  · rw [accepted, refused]
    unfold Books.submit
    split
    next disabled =>
        simp only [List.length_append, List.length_singleton, disabled, Bool.toNat_true]
        change _ = sink.accepted.length + sink.refused + _
        omega
    next enabled =>
        simp only [Bool.not_eq_true] at enabled
        split
        · simp only [Books.refuse, List.length_append, List.length_singleton, enabled,
            Bool.toNat_false]
          change _ = sink.accepted.length + (sink.refused + 1) + _
          omega
        · simp only [Books.accept, Books.updateBackpressure_accepted,
            Books.updateBackpressure_refused, List.length_append, List.length_singleton, enabled,
            Bool.toNat_false]
          change _ = sink.accepted.length + 1 + sink.refused + _
          omega

theorem SinkWriter.Intake.other {sink next : SinkWriter} {submitted : List QueueItem}
    {ignored : Nat} (intake : sink.Intake submitted ignored) {action : SinkAction}
    (other : ∀ record src, action ≠ .submit record src)
    (taken : sink.step action = some next) : next.Intake submitted ignored := by
  obtain ⟨accepted, refused⟩ := SinkWriter.step_submits other taken
  exact ⟨accepted ▸ intake.order, by rw [accepted, refused]; exact intake.total⟩

theorem SinkWriter.init_intake (cfg : SinkConfig) (files : String → Option Bytes) :
    (SinkWriter.init cfg files).Intake [] 0 :=
  ⟨List.Sublist.refl _, rfl⟩

theorem SinkWriter.init_ordered (cfg : SinkConfig) (files : String → Option Bytes) :
    (SinkWriter.init cfg files).books.Ordered :=
  ⟨[], rfl, List.Sublist.refl _⟩

/-! ## Runs -/

def SinkAction.submission : SinkAction → Option QueueItem
  | .submit record src => some { record := record, src := src }
  | _ => none

/-- What the actions submit, in order. -/
def submissions (actions : List SinkAction) : List QueueItem :=
  actions.filterMap SinkAction.submission

theorem SinkWriter.Intake.step {sink next : SinkWriter} {submitted : List QueueItem}
    {ignored : Nat} (intake : sink.Intake submitted ignored) {action : SinkAction}
    (taken : sink.step action = some next) :
    ∃ more, next.Intake (submitted ++ action.submission.toList) more := by
  by_cases submits : ∃ record src, action = .submit record src
  · obtain ⟨record, src, rfl⟩ := submits
    cases taken
    exact ⟨_, intake.submit record src⟩
  · have other : ∀ record src, action ≠ .submit record src :=
      fun record src same => submits ⟨record, src, same⟩
    have nothing : action.submission = none := by
      cases action with
      | submit record src => exact absurd rfl (other record src)
      | _ => rfl
    refine ⟨ignored, ?_⟩
    rw [nothing, Option.toList_none, List.append_nil]
    exact intake.other other taken

theorem SinkWriter.Intake.run {sink final : SinkWriter} {submitted : List QueueItem}
    {ignored : Nat} (intake : sink.Intake submitted ignored) {actions : List SinkAction}
    (ran : Runs.run SinkWriter.step sink actions = some final) :
    ∃ more, final.Intake (submitted ++ submissions actions) more := by
  rw [submissions, List.filterMap_eq_flatMap_toList]
  refine Runs.run_history (fun action : SinkAction => action.submission.toList)
    (fun past (sink : SinkWriter) => ∃ ignored, sink.Intake past ignored) ?_ ⟨ignored, intake⟩ ran
  intro past state action next inv taken
  obtain ⟨_, intake⟩ := inv
  exact intake.step taken

/-- Through failing opens, writes and rotations, reconfigurations, stops and restarts: what is
written and what is still queued are submitted records in the order of their submission, and
each submitted record that was neither accepted nor counted as dropped met a disabled sink. -/
theorem sink_keeps_order (cfg : SinkConfig) (files : String → Option Bytes)
    {actions : List SinkAction} {final : SinkWriter}
    (sourced : ∀ action ∈ actions, action.Sourced)
    (ran : Runs.run SinkWriter.step (SinkWriter.init cfg files) actions = some final) :
    (final.file.written.map WrittenRecord.item ++ final.queue.filter QueueItem.isData).Sublist
        (submissions actions) ∧
      final.accepted.length + final.recordsDropped ≤ (submissions actions).length := by
  have ordered : final.books.Ordered :=
    Runs.run_invariant_of SinkAction.Sourced (fun sink : SinkWriter => sink.books.Ordered)
      (fun _ _ _ sourced ordered taken => SinkWriter.ordered_step sourced ordered taken)
      (SinkWriter.init_ordered cfg files) sourced ran
  have counted : (SinkWriter.init cfg files).CountsRefusals := rfl
  have counts : final.CountsRefusals :=
    Runs.run_invariant SinkWriter.CountsRefusals
      (fun _ _ _ counts taken => SinkWriter.countsRefusals_step counts taken)
      counted ran
  obtain ⟨ignored, intake⟩ := (SinkWriter.init_intake cfg files).run ran
  rw [List.nil_append] at intake
  refine ⟨ordered.writtenAndQueued.trans intake.order, ?_⟩
  have total := intake.total
  have dropped : final.recordsDropped = final.refused := counts
  omega

def loggingSink : SinkConfig where
  enabled := true
  path := some "sink.log"
  rotationMaxBytes := 1024
  queueHighWatermarkBytes := 256
  queueLowWatermarkBytes := 64
  queueMaxBytes := 512

def twoByteQueue : SinkConfig where
  enabled := true
  path := some "sink.log"
  rotationMaxBytes := 1
  queueHighWatermarkBytes := 2
  queueLowWatermarkBytes := 1
  queueMaxBytes := 2
  rotation_pos := Nat.one_pos
  low_lt_high := Nat.one_lt_two
  high_le_max := le_rfl

/-- A write that fails, a record that does not fit, and a restart with one record queued. -/
def failsAndRestarts : List SinkAction :=
  [.start, .begin [], .submit { payload := [0x61] } "a:1", .submit { payload := [0x62] } "b:2",
    .submit { payload := [0x63] } "a:1", .drain "t" [] [true], .stop, .stopTimeout, .start]

theorem sink_keeps_order_fails_and_restarts :
    ∃ final, Runs.run SinkWriter.step (SinkWriter.init twoByteQueue fun _ => none) failsAndRestarts =
        some final ∧
      (final.file.written.map WrittenRecord.item ++ final.queue.filter QueueItem.isData).Sublist
        (submissions failsAndRestarts) ∧
      final.accepted.length + final.recordsDropped ≤ (submissions failsAndRestarts).length := by
  have reached : (Runs.run SinkWriter.step (SinkWriter.init twoByteQueue fun _ => none)
      failsAndRestarts).isSome = true := by decide +kernel
  obtain ⟨final, ran⟩ := Option.isSome_iff_exists.mp reached
  refine ⟨final, ran, sink_keeps_order twoByteQueue (fun _ => none) ?_ ran⟩
  simp [failsAndRestarts, SinkAction.Sourced]

end TcpSim.Engine
