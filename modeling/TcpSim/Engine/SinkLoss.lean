import TcpSim.Engine.SinkBooks

/-! Where accepted records end up. The drain loop discards a record it cannot
store without counting it, so no record is lost silently exactly in the runs in
which every record taken from the queue is stored. -/

set_option autoImplicit false

namespace TcpSim.Engine

def Books.queuedData (books : Books) : List QueueItem :=
  books.queue.filter QueueItem.isData

/-- Every accepted record is queued, written once and counted, or among the
`counted` drops. -/
structure Books.Accounted (books : Books) (counted : List QueueItem) : Prop where
  accepted : books.accepted.Perm
    (books.written.map WrittenRecord.item ++ books.queuedData ++ counted)
  written : books.recordsWritten = books.written.length
  dropped : books.recordsDropped = books.refused + counted.length

def SinkWriter.NoSilentLoss (sink : SinkWriter) : Prop :=
  ∃ counted, sink.books.Accounted counted

/-- Only submission adds to the drop counter. -/
def SinkWriter.CountsRefusals (sink : SinkWriter) : Prop :=
  sink.recordsDropped = sink.refused

/-- A step that takes a record from the queue stores it. -/
def SinkWriter.KeepsRecord (sink : SinkWriter) : SinkAction → Prop
  | .drain now opening writing =>
      ∀ item queue, sink.queue = item :: queue → item.isData = true →
        { sink with queue }.Stores item now opening writing
  | _ => True

instance SinkWriter.KeepsRecord.decidable (sink : SinkWriter) (action : SinkAction) :
    Decidable (sink.KeepsRecord action) :=
  match action with
  | .drain now opening writing =>
      match head : sink.queue with
      | [] => .isTrue fun item queue taken => by simp [head] at taken
      | item :: queue =>
          decidable_of_iff (item.isData = true →
              SinkWriter.Stores { sink with queue } item now opening writing)
            (by simp [SinkWriter.KeepsRecord, head])
  | .start | .begin _ | .submit _ _ | .configure _ | .stop | .stopReturn | .stopTimeout =>
      .isTrue trivial

private theorem keepsRecord_of_control {sink : SinkWriter} {action : SinkAction}
    (control : action.isControl = true) : sink.KeepsRecord action := by
  cases action with
  | drain => cases control
  | _ => trivial

theorem SinkWriter.countsRefusals_step {sink next : SinkWriter} {action : SinkAction}
    (counts : sink.CountsRefusals) (taken : sink.step action = some next) :
    next.CountsRefusals := by
  have before : sink.books.recordsDropped = sink.books.refused := counts
  suffices after : next.books.recordsDropped = next.books.refused from after
  have entry := SinkWriter.step_entry taken
  generalize next.books = books at entry
  cases entry with
  | idle => exact before
  | enqueue => exact before
  | submit record src =>
      unfold Books.submit
      split
      · exact before
      · split
        · simpa [Books.refuse] using before
        · simpa [Books.accept] using before
  | drain head turn =>
      cases turn with
      | lost => exact before
      | control => exact before
      | discarded =>
          simpa [Books.release, SinkWriter.books] using before
      | stored =>
          simpa [Books.release, Books.record, SinkWriter.books] using before

/-! ## The effect of one entry on the accounts -/

theorem queuedData_append (queue : List QueueItem) (item : QueueItem) :
    (queue ++ [item]).filter QueueItem.isData =
      queue.filter QueueItem.isData ++ if item.isData then [item] else [] := by
  simp [List.filter_append, List.filter_cons]

private theorem accounted_accept {cfg : SinkConfig} {item : QueueItem} {books : Books}
    {counted : List QueueItem} (data : item.isData = true) (good : books.Accounted counted) :
    (books.accept cfg item).Accounted counted := by
  refine ⟨?_, by simpa [Books.accept] using good.written,
    by simpa [Books.accept] using good.dropped⟩
  have moved : (books.written.map WrittenRecord.item ++ books.queuedData ++ counted ++ [item]).Perm
      (books.written.map WrittenRecord.item ++ (books.queuedData ++ [item]) ++ counted) := by
    simp only [List.append_assoc]
    exact (List.perm_append_comm.append_left _).append_left _
  have queued : (books.accept cfg item).queuedData = books.queuedData ++ [item] := by
    simp [Books.accept, Books.queuedData, data]
  rw [queued]
  simpa [Books.accept] using (good.accepted.append_right [item]).trans moved

private theorem accounted_take {item : QueueItem} {queue : List QueueItem} {books : Books}
    {counted : List QueueItem} (head : books.queue = item :: queue)
    (marker : item.isData = false) (good : books.Accounted counted) :
    { books with queue }.Accounted counted := by
  refine ⟨?_, good.written, good.dropped⟩
  simpa [Books.queuedData, head, marker] using good.accepted

private theorem accounted_store {cfg : SinkConfig} {item : QueueItem} {queue : List QueueItem}
    {books : Books} {counted : List QueueItem} (head : books.queue = item :: queue)
    (data : item.isData = true) (good : books.Accounted counted) (now : String) :
    (({ books with queue }.record ⟨item, cfg, now⟩).release cfg item).Accounted counted := by
  refine ⟨?_, by simpa [Books.release, Books.record] using good.written,
    by simpa [Books.release, Books.record] using good.dropped⟩
  simpa [Books.release, Books.record, Books.queuedData, head, data] using good.accepted

/-- A record that leaves the queue unwritten is missing from the accounts, as the
drop counter counts refusals only. -/
private theorem not_accounted_of_discard {item : QueueItem} {queue : List QueueItem}
    {books after : Books} {counted : List QueueItem} (head : books.queue = item :: queue)
    (data : item.isData = true) (before : books.recordsDropped = books.refused)
    (good : books.Accounted counted) (accepted : after.accepted = books.accepted)
    (written : after.written = books.written) (tail : after.queue = queue)
    (counts : after.recordsDropped = after.refused) :
    ¬∃ counted, after.Accounted counted := by
  intro accounted
  obtain ⟨others, account⟩ := accounted
  have noneBefore : counted.length = 0 := by
    have := good.dropped
    omega
  have noneAfter : others.length = 0 := by
    have := account.dropped
    omega
  have beforeLength := good.accepted.length_eq
  have afterLength := account.accepted.length_eq
  simp only [Books.queuedData, head, tail, accepted, written, data, List.filter_cons_of_pos,
    List.length_append, List.length_cons, List.length_map] at beforeLength afterLength
  omega

/-! ## One step -/

private theorem noSilentLoss_submit {sink : SinkWriter} (good : sink.NoSilentLoss)
    (record : FramedRecord) {src : String} (sourced : src ≠ "") :
    ∃ counted, (sink.books.submit sink.cfg
      { record := record, src := src }).Accounted counted := by
  obtain ⟨counted, account⟩ := good
  unfold Books.submit
  split
  · exact ⟨counted, account⟩
  · split
    · refine ⟨counted, account.accepted, account.written, ?_⟩
      have := account.dropped
      simp only [Books.refuse]
      omega
    · exact ⟨counted, accounted_accept (isData_of_sourced sourced) account⟩

theorem SinkWriter.noSilentLoss_step_iff {sink next : SinkWriter} {action : SinkAction}
    (sourced : action.Sourced) (counts : sink.CountsRefusals) (good : sink.NoSilentLoss)
    (taken : sink.step action = some next) :
    next.NoSilentLoss ↔ sink.KeepsRecord action := by
  have after : next.books.recordsDropped = next.books.refused :=
    SinkWriter.countsRefusals_step counts taken
  have entry := SinkWriter.step_entry taken
  unfold SinkWriter.NoSilentLoss
  generalize next.books = books at entry after
  cases entry with
  | idle control => exact iff_of_true good (keepsRecord_of_control control)
  | enqueue control marker _ =>
      refine iff_of_true ?_ (keepsRecord_of_control control)
      obtain ⟨counted, account⟩ := good
      refine ⟨counted, ?_, account.written, account.dropped⟩
      simpa [Books.enqueue, Books.queuedData, queuedData_append, marker] using account.accepted
  | submit record src => exact iff_of_true (noSilentLoss_submit good record sourced) trivial
  | @drain item queue now opening writing _ head turn =>
      obtain ⟨counted, account⟩ := good
      have headBooks : sink.books.queue = item :: queue := head
      have takesThis (condition : item.isData = true →
          { sink with queue }.Stores item now opening writing) :
          sink.KeepsRecord (.drain now opening writing) := by
        intro other rest otherHead data
        obtain ⟨rfl, rfl⟩ := List.cons.inj (head.symm.trans otherHead)
        exact condition data
      have discards (data : item.isData = true)
          (dropped : ¬{ sink with queue }.Stores item now opening writing) :
          ¬sink.KeepsRecord (.drain now opening writing) :=
        fun keeps => dropped (keeps item queue head data)
      cases turn with
      | lost raised =>
          cases data : item.isData with
          | false =>
              exact iff_of_true ⟨counted, accounted_take headBooks data account⟩
                (takesThis fun isData => by simp [isData] at data)
          | true =>
              refine iff_of_false (not_accounted_of_discard headBooks data counts account
                rfl rfl rfl after) (discards data ?_)
              intro stores
              obtain ⟨_, _, settled, _, applied, _⟩ := stores
              rw [raised] at applied
              cases applied
      | control _ marker =>
          exact iff_of_true ⟨counted, accounted_take headBooks marker account⟩
            (takesThis fun isData => by simp [isData] at marker)
      | discarded _ data dropped =>
          exact iff_of_false (not_accounted_of_discard headBooks data counts account
            (by simp [Books.release, SinkWriter.books])
            (by simp [Books.release, SinkWriter.books])
            (by simp [Books.release, SinkWriter.books]) after) (discards data dropped)
      | stored data stores =>
          exact iff_of_true ⟨counted, accounted_store headBooks data account now⟩
            (takesThis fun _ => stores)

/-! ## Runs -/

theorem SinkWriter.init_noSilentLoss (cfg : SinkConfig) (files : String → Option Bytes) :
    (SinkWriter.init cfg files).NoSilentLoss :=
  ⟨[], .refl _, rfl, rfl⟩

/-- In a run from the initial state no record is ever lost silently exactly when
every drain step that takes a record stores it. -/
theorem sink_no_silent_loss_iff (cfg : SinkConfig) (files : String → Option Bytes)
    {actions : List SinkAction} {final : SinkWriter}
    (sourced : ∀ action ∈ actions, action.Sourced)
    (ran : Runs.run SinkWriter.step (SinkWriter.init cfg files) actions = some final) :
    (∀ visited, Runs.Visits SinkWriter.step (SinkWriter.init cfg files) actions visited →
      visited.NoSilentLoss) ↔
      Runs.Each SinkWriter.step SinkWriter.KeepsRecord (SinkWriter.init cfg files) actions :=
  Runs.stays_iff_each SinkAction.Sourced SinkWriter.CountsRefusals SinkWriter.NoSilentLoss
    SinkWriter.KeepsRecord
    (fun _ _ _ _ counts taken => SinkWriter.countsRefusals_step counts taken)
    (fun _ _ _ allowed counts good taken =>
      SinkWriter.noSilentLoss_step_iff allowed counts good taken)
    rfl (SinkWriter.init_noSilentLoss cfg files) sourced ran

/-- The log moves while a record is queued; the second drain after that takes the marker. -/
def movesLog (moved : SinkConfig) : List SinkAction :=
  [.start, .begin [], .submit { payload := [0x61] } "a:1", .drain "t" [] [],
    .submit { payload := [0x62] } "a:1", .configure moved, .drain "t" [] [],
    .drain "t" [] [], .submit { payload := [0x63] } "b:2"]

/-- Nothing is lost when the log moves, and a write that raises loses the next record. -/
theorem sink_no_silent_loss_moved_log :
    (∀ visited, Runs.Visits SinkWriter.step
        (SinkWriter.init { enabled := true, path := some "sink.log" } fun _ => none)
        (movesLog { enabled := true, path := some "other.log" }) visited →
      visited.NoSilentLoss) ∧
    ¬∀ visited, Runs.Visits SinkWriter.step
        (SinkWriter.init { enabled := true, path := some "sink.log" } fun _ => none)
        (movesLog { enabled := true, path := some "other.log" } ++ [.drain "t" [] [true]]) visited →
      visited.NoSilentLoss :=
  ⟨(sink_no_silent_loss_iff _ _ (by simp [movesLog, SinkAction.Sourced])
      (Option.some_get (by decide +kernel)).symm).mpr (by decide +kernel),
    fun kept => absurd ((sink_no_silent_loss_iff _ _ (by simp [movesLog, SinkAction.Sourced])
      (Option.some_get (by decide +kernel)).symm).mp kept) (by decide +kernel)⟩

/-- A record accepted while the sink is enabled and drained after `configure` has
disabled it is neither queued nor written nor counted. -/
theorem sink_loses_record_on_disable :
    ∃ final, Runs.run SinkWriter.step
        (SinkWriter.init { enabled := true, path := some "sink.log" } fun _ => none)
        [.start, .begin [], .submit { payload := [0x61] } "a:1", .configure {},
          .drain "t" [] []] = some final ∧
      ¬final.NoSilentLoss := by
  have outcome : (Runs.run SinkWriter.step
      (SinkWriter.init { enabled := true, path := some "sink.log" } fun _ => none)
      [.start, .begin [], .submit { payload := [0x61] } "a:1", .configure {},
        .drain "t" [] []]).map (fun final =>
          (final.books.accepted.length, final.books.written.length,
            final.books.queuedData.length, final.books.recordsDropped,
            final.books.refused)) = some (1, 0, 0, 0, 0) := by
    decide +kernel
  obtain ⟨final, ran, counts⟩ := Option.map_eq_some_iff.mp outcome
  simp only [Prod.mk.injEq] at counts
  obtain ⟨accepted, written, queued, dropped, refused⟩ := counts
  refine ⟨final, ran, ?_⟩
  intro accounted
  obtain ⟨counted, account⟩ := accounted
  have lengths := account.accepted.length_eq
  have drops := account.dropped
  simp only [List.length_append, List.length_map] at lengths
  omega

end TcpSim.Engine
