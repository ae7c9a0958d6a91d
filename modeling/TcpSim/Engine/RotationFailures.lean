import TcpSim.Engine.SinkRetention
import TcpSim.Engine.SinkSizes

/-! What a failed rotation does to the writer: the file stays closed, so the record at hand and
all that come after it are discarded without being counted. -/

set_option autoImplicit false

namespace TcpSim.Engine

open Effects

/-- The drain loop is about to write a record to the file it has open. -/
structure SinkWriter.WritesTo (sink : SinkWriter) (base : String) : Prop where
  running : sink.task = some .running
  settled : sink.pendingConfig = none
  enabled : sink.cfg.enabled = true
  target : sink.cfg.truthyPath = some base
  current : sink.file.currentPath = some base
  opened : sink.file.fh.isSome = true

/-- Writing the record takes a rotation, and one of its file operations raises. -/
structure SinkWriter.RotationFails (sink : SinkWriter) (item : QueueItem) (now : String)
    (writing : List Bool) : Prop where
  filled : 0 < sink.file.currentFileSize
  exceeds : sink.cfg.rotationMaxBytes <
    sink.file.currentFileSize + (encode sink.cfg now item).length
  raises : ∃ error after, rotate sink.cfg (sink.file.withFaults writing) = .error error after

/-- The writer goes on after a record whose rotation failed. -/
structure SinkWriter.SurvivesRotation (before after : SinkWriter) (base : String)
    (item : QueueItem) (now : String) : Prop where
  /-- Once file operations succeed again, every later record is written. -/
  writes : ∀ actions sink later laterNow, (∀ action ∈ actions, action.FilesSucceed) →
    Runs.run SinkWriter.step after actions = some sink → sink.task = some .running →
      later.isData = true → sink.nextCfg.enabled = true → sink.nextCfg.truthyPath.isSome = true →
        (sink.turn later laterNow [] []).file.written =
          sink.file.written ++ [⟨later, sink.nextCfg, laterNow⟩]
  accounted : after.file.written = before.file.written ++ [⟨item, before.cfg, now⟩] ∨
    after.recordsDropped = before.recordsDropped + 1
  /-- Only the file in the last slot is discarded. -/
  kept : ∀ i < before.cfg.rotationBackupCount, ∀ content,
    before.file.disk.files (slotPath base i) = some content →
      ∃ j more, after.file.disk.files (slotPath base j) = some (content ++ more)
  size : after.file.Sized

/-! ## The record at hand -/

private theorem writeRecord_raises {file : SinkFile} {cfg : SinkConfig} {base : String}
    {item : QueueItem} {now : String} (current : file.currentPath = some base)
    (opened : file.fh.isSome = true) (filled : 0 < file.currentFileSize)
    (exceeds : cfg.rotationMaxBytes < file.currentFileSize + (encode cfg now item).length)
    (raises : ∃ error after, rotate cfg file = .error error after) :
    ∃ error after, writeRecord cfg now item file = .error error after ∧ after.fh = none := by
  obtain ⟨path, handle⟩ := Option.isSome_iff_exists.mp opened
  obtain ⟨error, after, raised⟩ := raises
  have due : rotateIfDue cfg (encode cfg now item) file = .error error after := by
    unfold rotateIfDue
    rw [run_get_bind, if_pos ⟨filled, exceeds⟩]
    exact raised
  refine ⟨error, after, ?_, rotate_raises current handle raised⟩
  rw [writeRecord_of_open handle, bind_assoc, bind_of_error due]

/-- The record is neither written nor counted as dropped, and no file is open any more. -/
theorem SinkWriter.rotation_failure {sink : SinkWriter} {base : String} {item : QueueItem}
    {now : String} {writing : List Bool} (writes : sink.WritesTo base)
    (fails : sink.RotationFails item now writing) (data : item.isData = true)
    (opening : List Bool) :
    (sink.turn item now opening writing).file.fh = none ∧
      (sink.turn item now opening writing).file.written = sink.file.written ∧
      (sink.turn item now opening writing).recordsDropped = sink.recordsDropped ∧
      (sink.turn item now opening writing).requests = sink.requests := by
  obtain ⟨error, after, raised, closed⟩ := @writeRecord_raises (sink.file.withFaults writing)
    sink.cfg base item now writes.current writes.opened fails.filled fails.exceeds fails.raises
  have ledger : after.ledger = sink.file.ledger := by
    rcases writeRecord_ledger sink.cfg now item (sink.file.withFaults writing) with
      ⟨_, ran, _⟩ | ⟨_, other, otherRaised, same⟩
    · cases raised.symm.trans ran
    · cases raised.symm.trans otherRaised
      exact same
  have turned : sink.turn item now opening writing =
      ({ sink with file := after }.emit (.error error after.currentPath)).release item := by
    have applied : sink.applyPendingConfig opening = .ok () sink := by
      simp only [SinkWriter.applyPendingConfig, writes.settled]
    have going := going_of_isData data
    have proceeds : ¬(!sink.cfg.enabled || sink.file.fh.isNone) = true := by
      simp [writes.enabled, Option.isSome_iff_ne_none.mp writes.opened]
    have returned : sink.runFile writing (writeRecord sink.cfg now item) = .error error after :=
      raised
    simp only [SinkWriter.turn, applied, going.1, Bool.false_eq_true, if_false, if_neg going.2]
    rw [SinkWriter.handleRecord, if_neg proceeds, returned]
  have books : (sink.turn item now opening writing).books = sink.books.release sink.cfg item := by
    rw [turned, SinkWriter.release_books, SinkWriter.emit_books _ rfl,
      SinkWriter.books_of_ledger sink ledger]
    rfl
  obtain ⟨events, file⟩ := SinkWriter.release_file
    ({ sink with file := after }.emit (.error error after.currentPath)) item
  refine ⟨?_, ?_, ?_, ?_⟩
  · rw [turned, file]
    exact closed
  · exact (congrArg Books.written books).trans (Books.updateBackpressure_written _ _)
  · exact (congrArg Books.recordsDropped books).trans (Books.updateBackpressure_recordsDropped _ _)
  · rw [turned]
    exact SinkWriter.updateBackpressure_requests _

/-! ## Later records -/

theorem SinkWriter.turn_discards {sink : SinkWriter} (settled : sink.pendingConfig = none)
    (closed : sink.file.fh = none) (item : QueueItem) (now : String) (opening writing : List Bool) :
    (sink.turn item now opening writing).file.written = sink.file.written := by
  have applied : sink.applyPendingConfig opening = .ok () sink := by
    simp only [SinkWriter.applyPendingConfig, settled]
  simp only [SinkWriter.turn, applied]
  split
  · rfl
  · split
    · rfl
    · rw [SinkWriter.handleRecord, if_pos (by simp [closed])]
      exact SinkWriter.release_written sink item

/-- A writer whose file is closed for good: its drain loop goes on, under a configuration that
does not reopen it. -/
structure SinkWriter.Muted (base : String) (sink : SinkWriter) : Prop where
  configured : sink.Configured base
  closed : sink.file.fh = none
  begun : sink.Begun

theorem SinkWriter.muted_step {base : String} (named : base ≠ "") {sink next : SinkWriter}
    {action : SinkAction} (keeps : action.KeepsPath base) (muted : sink.Muted base)
    (taken : sink.step action = some next) :
    next.Muted base ∧ next.file.written = sink.file.written := by
  obtain ⟨configured, closed, begun⟩ := muted
  have nextConfigured := SinkWriter.configured_step keeps configured taken
  have nextBegun := SinkWriter.begun_step keeps configured begun taken
  rcases SinkWriter.step_shelf keeps named configured
    (SinkFile.onlyAt_of_closed base closed) taken with ⟨created, _⟩ | ⟨turn, _⟩
  · exact absurd created begun.2
  refine ⟨⟨nextConfigured, (turn.closed closed).1, nextBegun⟩, ?_⟩
  have entry := SinkWriter.step_entry taken
  suffices next.books.written = sink.books.written from this
  generalize next.books = books at entry
  cases entry with
  | idle => rfl
  | enqueue => rfl
  | submit record src => exact Books.submit_written _ _ _
  | @drain item queue now opening writing _ head entry =>
      cases entry with
      | lost => rfl
      | control => rfl
      | discarded => exact Books.updateBackpressure_written _ _
      | stored data stores =>
          -- a record is written only into an open file
          have same : ({ sink with queue } : SinkWriter).opensNext = sink.file.fh.isSome := by
            obtain ⟨enabled, path⟩ := configured.nextCfg
            unfold SinkWriter.opensNext
            exact if_neg (by
              rw [show SinkWriter.nextCfg { sink with queue } = sink.nextCfg from rfl]
              simp [enabled, path, configured.enabled, configured.path])
          have opened := stores.opened
          rw [same, closed] at opened
          cases opened

/-- Nothing is written any more, whatever comes in, until the path or the flag changes. -/
theorem SinkWriter.muted_run {base : String} (named : base ≠ "") {sink final : SinkWriter}
    {actions : List SinkAction} (keeps : ∀ action ∈ actions, action.KeepsPath base)
    (muted : sink.Muted base) (ran : Runs.run SinkWriter.step sink actions = some final) :
    final.file.written = sink.file.written := by
  refine (Runs.run_invariant_of (SinkAction.KeepsPath base)
    (fun later => later.Muted base ∧ later.file.written = sink.file.written)
    ?_ ⟨muted, rfl⟩ keeps ran).2
  intro state action next keeps held taken
  obtain ⟨muted, written⟩ := held
  obtain ⟨nextMuted, same⟩ := SinkWriter.muted_step named keeps muted taken
  exact ⟨nextMuted, same.trans written⟩

/-! ## The failed rotation -/

theorem SinkWriter.rotation_failure_muted {sink : SinkWriter} {base : String} {item : QueueItem}
    {now : String} {writing : List Bool} (writes : sink.WritesTo base)
    (fails : sink.RotationFails item now writing) (data : item.isData = true)
    (opening : List Bool) : (sink.turn item now opening writing).Muted base := by
  obtain ⟨closed, _, _, requests⟩ := SinkWriter.rotation_failure writes fails data opening
  have running := (congrArg Requests.task requests).trans writes.running
  have settled := (congrArg Requests.pendingConfig requests).trans writes.settled
  have cfg : (sink.turn item now opening writing).cfg = sink.cfg := congrArg Requests.cfg requests
  have path : sink.cfg.path = some base := (SinkConfig.truthyPath_eq_some.mp writes.target).1
  refine ⟨⟨cfg ▸ writes.enabled, cfg ▸ path, ?_⟩, closed, ?_⟩
  · intro pending requested
    cases (settled.symm.trans requested)
  · rw [SinkWriter.Begun, show SinkWriter.task _ = _ from running]
    simp

/-- Wherever the rotation raises, no record is written any more, whatever comes in and whatever
succeeds or fails later, until the path or the flag changes. -/
theorem failed_rotation_mutes {sink final : SinkWriter} {base : String} {item : QueueItem}
    {now : String} {writing : List Bool} (writes : sink.WritesTo base)
    (fails : sink.RotationFails item now writing) (data : item.isData = true)
    (opening : List Bool) {actions : List SinkAction}
    (keeps : ∀ action ∈ actions, action.KeepsPath base)
    (ran : Runs.run SinkWriter.step (sink.turn item now opening writing) actions = some final) :
    final.file.written = sink.file.written := by
  have named : base ≠ "" := (SinkConfig.truthyPath_eq_some.mp writes.target).2
  obtain ⟨_, unwritten, _, _⟩ := SinkWriter.rotation_failure writes fails data opening
  have muted := SinkWriter.rotation_failure_muted writes fails data opening
  exact (SinkWriter.muted_run named keeps muted ran).trans unwritten

/-- Wherever the rotation raises, the writer does not survive it: already the next record, with
all operations succeeding again, is not written. -/
theorem failed_rotation_not_survived {sink : SinkWriter} {base : String} {item : QueueItem}
    {now : String} {writing : List Bool} (writes : sink.WritesTo base)
    (fails : sink.RotationFails item now writing) (data : item.isData = true)
    (opening : List Bool) :
    ¬sink.SurvivesRotation (sink.turn item now opening writing) base item now := by
  obtain ⟨closed, _, _, requests⟩ := SinkWriter.rotation_failure writes fails data opening
  intro survives
  have running := (congrArg Requests.task requests).trans writes.running
  have settled := (congrArg Requests.pendingConfig requests).trans writes.settled
  have cfg : (sink.turn item now opening writing).nextCfg = sink.cfg := by
    unfold SinkWriter.nextCfg
    rw [show (sink.turn item now opening writing).pendingConfig = none from settled]
    exact congrArg Requests.cfg requests
  have written := survives.writes [] _ item now (by simp) rfl running data
    (cfg ▸ writes.enabled) (by rw [cfg, writes.target]; rfl)
  rw [SinkWriter.turn_discards settled closed] at written
  simp at written

/-- A record is in the file of one byte at most, the next one is in hand. -/
def aboutToRotate : SinkWriter :=
  { cfg := keepsOne
    file :=
      { disk := { files := Function.update (fun _ => none) "x.log" (some [0x61, 0x0A]) }
        fh := some "x.log"
        currentPath := some "x.log"
        currentFileSize := 2 }
    queuedBytes := 1
    task := some .running }

def nextRecord : QueueItem := { record := { payload := [0x62] }, src := "a:1" }

/-- The first `exists` of the rotation raises. -/
theorem aboutToRotate_not_survived :
    ¬aboutToRotate.SurvivesRotation (aboutToRotate.turn nextRecord "t" [] [true]) "x.log"
      nextRecord "t" :=
  failed_rotation_not_survived ⟨rfl, rfl, rfl, by decide, rfl, rfl⟩
    ⟨by decide, by decide, ⟨_, _, rfl⟩⟩ (by decide) []

/-- A whole run: the second record's rotation fails, the third comes when all is well again. -/
def rotationFails : List SinkAction :=
  [.start, .begin [], .submit { payload := [0x61] } "a:1", .drain "t" [] [],
    .submit { payload := [0x62] } "a:1", .drain "t" [] [true],
    .submit { payload := [0x63] } "a:1", .drain "t" [] []]

/-- The second and the third record are neither written nor counted as dropped, though the
writer is running, enabled and has taken both off its queue. -/
theorem rotationFails_loses : ∃ final,
    Runs.run SinkWriter.step (SinkWriter.init keepsOne fun _ => none) rotationFails = some final ∧
      final.task = some .running ∧ final.queue = [] ∧ final.cfg.enabled = true ∧
      final.accepted.length = 3 ∧ final.file.recordsWritten = 1 ∧ final.recordsDropped = 0 ∧
      final.file.fh = none := by
  have loop : (Runs.run SinkWriter.step (SinkWriter.init keepsOne fun _ => none)
      rotationFails).map (fun final => (final.task, final.queue, final.cfg.enabled)) =
      some (some .running, [], true) := by decide +kernel
  have counts : (Runs.run SinkWriter.step (SinkWriter.init keepsOne fun _ => none)
      rotationFails).map (fun final => (final.accepted.length, final.file.recordsWritten,
        final.recordsDropped, final.file.fh)) = some (3, 1, 0, none) := by decide +kernel
  obtain ⟨final, ran, seen⟩ := Option.map_eq_some_iff.mp loop
  rw [ran, Option.map_some, Option.some.injEq] at counts
  simp only [Prod.mk.injEq] at seen counts
  obtain ⟨task, queue, enabled⟩ := seen
  exact ⟨final, ran, task, queue, enabled, counts⟩

end TcpSim.Engine
