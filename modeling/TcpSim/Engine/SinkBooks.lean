import TcpSim.Engine.SinkFileProperties
import TcpSim.Engine.SinkWriter

/-! The accounts of the sink writer: its queue, counters and histories without
the file handling. Each step of the writer is one of a few entries in them. -/

set_option autoImplicit false

namespace TcpSim.Engine

open Effects

structure Books where
  queue : List QueueItem
  queuedBytes : Int
  backpressured : Bool
  recordsDropped : Nat
  refused : Nat
  accepted : List QueueItem
  written : List WrittenRecord
  recordsWritten : Nat
  watermarks : List SinkEvent

def SinkWriter.books (self : SinkWriter) : Books where
  queue := self.queue
  queuedBytes := self.queuedBytes
  backpressured := self.backpressured
  recordsDropped := self.recordsDropped
  refused := self.refused
  accepted := self.accepted
  written := self.file.written
  recordsWritten := self.file.recordsWritten
  watermarks := self.file.watermarks

namespace Books

def updateBackpressure (cfg : SinkConfig) (books : Books) : Books :=
  if !books.backpressured && books.queuedBytes ≥ cfg.queueHighWatermarkBytes then
    { books with
      backpressured := true
      watermarks := books.watermarks ++ [.highWatermark books.queuedBytes] }
  else if books.backpressured && books.queuedBytes ≤ cfg.queueLowWatermarkBytes then
    { books with
      backpressured := false
      watermarks := books.watermarks ++ [.lowWatermark books.queuedBytes] }
  else books

def enqueue (item : QueueItem) (books : Books) : Books :=
  { books with queue := books.queue ++ [item] }

def refuse (books : Books) : Books :=
  { books with recordsDropped := books.recordsDropped + 1, refused := books.refused + 1 }

def accept (cfg : SinkConfig) (item : QueueItem) (books : Books) : Books :=
  updateBackpressure cfg { books with
    queuedBytes := books.queuedBytes + item.size
    queue := books.queue ++ [item]
    accepted := books.accepted ++ [item] }

def submit (cfg : SinkConfig) (item : QueueItem) (books : Books) : Books :=
  if !cfg.enabled then books
  else if books.queuedBytes + item.size > cfg.queueMaxBytes then books.refuse
  else books.accept cfg item

def release (cfg : SinkConfig) (item : QueueItem) (books : Books) : Books :=
  updateBackpressure cfg { books with queuedBytes := books.queuedBytes - item.size }

def record (entry : WrittenRecord) (books : Books) : Books :=
  { books with
    written := books.written ++ [entry]
    recordsWritten := books.recordsWritten + 1 }

theorem updateBackpressure_frame {γ : Type} (view : Books → γ)
    (blind : ∀ books flag watermarks,
      view { books with backpressured := flag, watermarks } = view books)
    (cfg : SinkConfig) (books : Books) :
    view (updateBackpressure cfg books) = view books := by
  unfold updateBackpressure
  split
  · exact blind books true _
  · split
    · exact blind books false _
    · rfl

@[simp] theorem updateBackpressure_queue (cfg : SinkConfig) (books : Books) :
    (updateBackpressure cfg books).queue = books.queue :=
  updateBackpressure_frame (·.queue) (fun _ _ _ => rfl) cfg books

@[simp] theorem updateBackpressure_queuedBytes (cfg : SinkConfig) (books : Books) :
    (updateBackpressure cfg books).queuedBytes = books.queuedBytes :=
  updateBackpressure_frame (·.queuedBytes) (fun _ _ _ => rfl) cfg books

@[simp] theorem updateBackpressure_accepted (cfg : SinkConfig) (books : Books) :
    (updateBackpressure cfg books).accepted = books.accepted :=
  updateBackpressure_frame (·.accepted) (fun _ _ _ => rfl) cfg books

@[simp] theorem updateBackpressure_written (cfg : SinkConfig) (books : Books) :
    (updateBackpressure cfg books).written = books.written :=
  updateBackpressure_frame (·.written) (fun _ _ _ => rfl) cfg books

@[simp] theorem updateBackpressure_recordsWritten (cfg : SinkConfig) (books : Books) :
    (updateBackpressure cfg books).recordsWritten = books.recordsWritten :=
  updateBackpressure_frame (·.recordsWritten) (fun _ _ _ => rfl) cfg books

@[simp] theorem updateBackpressure_recordsDropped (cfg : SinkConfig) (books : Books) :
    (updateBackpressure cfg books).recordsDropped = books.recordsDropped :=
  updateBackpressure_frame (·.recordsDropped) (fun _ _ _ => rfl) cfg books

@[simp] theorem updateBackpressure_refused (cfg : SinkConfig) (books : Books) :
    (updateBackpressure cfg books).refused = books.refused :=
  updateBackpressure_frame (·.refused) (fun _ _ _ => rfl) cfg books

theorem submit_written (cfg : SinkConfig) (item : QueueItem) (books : Books) :
    (books.submit cfg item).written = books.written := by
  unfold submit
  split
  · rfl
  · split
    · rfl
    · exact updateBackpressure_written _ _

end Books

/-! ## Entries -/

theorem SinkWriter.emit_books (self : SinkWriter) {event : SinkEvent}
    (other : event.isWatermark = false) : (self.emit event).books = self.books := by
  simp [SinkWriter.emit, SinkWriter.books, SinkFile.watermarks, other]

theorem SinkWriter.updateBackpressure_books (self : SinkWriter) :
    self.updateBackpressure.books = self.books.updateBackpressure self.cfg := by
  have flag : self.books.backpressured = self.backpressured := rfl
  have queued : self.books.queuedBytes = self.queuedBytes := rfl
  simp only [SinkWriter.updateBackpressure, Books.updateBackpressure, flag, queued]
  split
  · simp [SinkWriter.emit, SinkWriter.books, SinkFile.watermarks, SinkEvent.isWatermark]
  · split
    · simp [SinkWriter.emit, SinkWriter.books, SinkFile.watermarks, SinkEvent.isWatermark]
    · rfl

theorem SinkWriter.submit_books (self : SinkWriter) (record : FramedRecord) (src : String) :
    (self.submit record src).2.books =
      self.books.submit self.cfg { record := record, src := src } := by
  unfold SinkWriter.submit Books.submit
  split
  · rfl
  · dsimp only
    have size : (QueueItem.size { record := record, src := src }) = record.payload.length := rfl
    have queued : self.books.queuedBytes = self.queuedBytes := rfl
    rw [size, queued]
    split
    · exact SinkWriter.emit_books _ rfl
    · exact SinkWriter.updateBackpressure_books _

theorem SinkWriter.release_books (self : SinkWriter) (item : QueueItem) :
    (self.release item).books = self.books.release self.cfg item :=
  SinkWriter.updateBackpressure_books _

/-- File handling that keeps the ledger keeps the books. -/
theorem SinkWriter.books_of_ledger (self : SinkWriter) {file : SinkFile}
    (same : file.ledger = self.file.ledger) : { self with file }.books = self.books := by
  simp only [SinkFile.ledger, Prod.mk.injEq] at same
  obtain ⟨written, counted, watermarks⟩ := same
  simp only [SinkWriter.books, written, counted, watermarks]

/-- The configuration in force once the next item is taken. -/
def SinkWriter.nextCfg (self : SinkWriter) : SinkConfig :=
  match self.pendingConfig with
  | none => self.cfg
  | some pending => pending.cfg

theorem reopenIfChanged_ledger (old new : SinkConfig) :
    Unchanged SinkFile.ledger (reopenIfChanged old new) := by
  apply Unchanged.ite
  · refine Unchanged.bind (Unchanged.of_modify ?_) fun _ => openFileIfEnabled_ledger new
    intro self
    rfl
  · exact Unchanged.pure _ _

/-- Whether a file is open once the next item's configuration is settled. -/
def SinkWriter.opensNext (self : SinkWriter) : Bool :=
  if self.nextCfg.path ≠ self.cfg.path ∨ self.nextCfg.enabled ≠ self.cfg.enabled then
    self.nextCfg.truthyPath.isSome
  else self.file.fh.isSome

/-- What settling the configuration leaves as it was, besides the books. -/
structure SinkWriter.Settled (sink settled : SinkWriter) : Prop where
  books : settled.books = sink.books
  cfg : settled.cfg = sink.nextCfg
  task : settled.task = sink.task
  stopWaiting : settled.stopWaiting = sink.stopWaiting

theorem SinkWriter.applyPendingConfig_settled {self settled : SinkWriter}
    {opening : List Bool}
    (result : final (self.applyPendingConfig opening) = settled) : self.Settled settled := by
  subst result
  unfold SinkWriter.applyPendingConfig
  cases requested : self.pendingConfig with
  | none => exact ⟨rfl, by simp [SinkWriter.nextCfg, requested], rfl, rfl⟩
  | some pending =>
      have next : self.nextCfg = pending.cfg := by simp [SinkWriter.nextCfg, requested]
      have kept := reopenIfChanged_ledger self.cfg pending.cfg
        { self.file with disk := { self.file.disk with faults := opening } }
      dsimp only
      unfold SinkWriter.runFile
      cases ran : reopenIfChanged self.cfg pending.cfg
          { self.file with disk := { self.file.disk with faults := opening } } with
      | ok value file =>
          rw [ran] at kept
          refine ⟨?_, next.symm, rfl, rfl⟩
          exact (SinkWriter.emit_books _ rfl).trans (SinkWriter.books_of_ledger self kept)
      | error error file =>
          rw [ran] at kept
          exact ⟨SinkWriter.books_of_ledger self kept, next.symm, rfl, rfl⟩

theorem SinkWriter.applyPendingConfig_opens {self settled : SinkWriter} {opening : List Bool}
    (enabled : self.nextCfg.enabled = true)
    (ran : self.applyPendingConfig opening = .ok () settled) :
    settled.file.fh.isSome = self.opensNext := by
  unfold SinkWriter.opensNext
  unfold SinkWriter.applyPendingConfig at ran
  cases requested : self.pendingConfig with
  | none =>
      simp only [requested] at ran
      cases ran
      simp [SinkWriter.nextCfg, requested]
  | some pending =>
      have next : self.nextCfg = pending.cfg := by simp [SinkWriter.nextCfg, requested]
      rw [next] at enabled ⊢
      simp only [requested, SinkWriter.runFile] at ran
      cases reopened : reopenIfChanged self.cfg pending.cfg
          { self.file with disk := { self.file.disk with faults := opening } } with
      | error error file =>
          rw [reopened] at ran
          cases ran
      | ok value file =>
          rw [reopened] at ran
          cases ran
          simp only [SinkWriter.emit]
          unfold reopenIfChanged at reopened
          split
          · rw [if_pos ‹_›] at reopened
            obtain ⟨_, closed, closing, opened⟩ := bind_eq_ok reopened
            cases closing
            rw [openFileIfEnabled_opens enabled opened]
            simp [closeFile]
          · rw [if_neg ‹_›] at reopened
            cases reopened
            rfl

theorem reopenIfChanged_returns {file : SinkFile} (quiet : file.disk.faults = [])
    (old new : SinkConfig) : ∃ after, reopenIfChanged old new file = .ok () after := by
  unfold reopenIfChanged
  split
  · obtain ⟨after, opened⟩ := @openFileIfEnabled_returns (closeFile file) quiet new
    exact ⟨after, (bind_of_ok rfl).trans opened⟩
  · exact ⟨file, rfl⟩

theorem SinkWriter.applyPendingConfig_returns (self : SinkWriter) :
    ∃ settled, self.applyPendingConfig [] = .ok () settled := by
  unfold SinkWriter.applyPendingConfig
  cases self.pendingConfig with
  | none => exact ⟨self, rfl⟩
  | some pending =>
      obtain ⟨after, reopened⟩ := @reopenIfChanged_returns
        { self.file with disk := { self.file.disk with faults := [] } } rfl self.cfg pending.cfg
      simp only [SinkWriter.runFile, reopened]
      exact ⟨_, rfl⟩

/-! ## One turn of the drain loop -/

/-- The record taken from the queue is going to be written: its configuration is
enabled, a file is open under it, and no file operation of the turn raises. -/
structure SinkWriter.Stores (sink : SinkWriter) (item : QueueItem) (now : String)
    (opening writing : List Bool) : Prop where
  enabled : sink.nextCfg.enabled = true
  opened : sink.opensNext = true
  succeeds : ∃ settled file, sink.applyPendingConfig opening = .ok () settled ∧
    settled.runFile writing (writeRecord settled.cfg now item) = .ok () file

instance SinkWriter.Stores.decidable (sink : SinkWriter) (item : QueueItem) (now : String)
    (opening writing : List Bool) : Decidable (sink.Stores item now opening writing) :=
  match applied : sink.applyPendingConfig opening with
  | .error _ _ => .isFalse fun stores => by
      obtain ⟨_, _, settles, _⟩ := stores.succeeds
      rw [applied] at settles
      cases settles
  | .ok _ settled =>
      match ran : settled.runFile writing (writeRecord settled.cfg now item) with
      | .error _ _ => .isFalse fun stores => by
          obtain ⟨_, _, settles, writes⟩ := stores.succeeds
          rw [applied] at settles
          cases settles
          rw [ran] at writes
          cases writes
      | .ok _ file =>
          decidable_of_iff (sink.nextCfg.enabled = true ∧ sink.opensNext = true)
            ⟨fun opens => ⟨opens.1, opens.2, settled, file, applied, ran⟩,
              fun stores => ⟨stores.enabled, stores.opened⟩⟩

/-- What a turn enters in the books. -/
inductive SinkWriter.TurnEntry (sink : SinkWriter) (item : QueueItem) (now : String)
    (opening writing : List Bool) : Books → Prop where
  /-- Reopening raises: the drain task ends with the item in hand. -/
  | lost {error : FileError} {settled : SinkWriter}
      (raised : sink.applyPendingConfig opening = .error error settled) :
      TurnEntry sink item now opening writing sink.books
  | control {settled : SinkWriter} (applied : sink.applyPendingConfig opening = .ok () settled)
      (marker : item.isData = false) : TurnEntry sink item now opening writing sink.books
  | discarded {settled : SinkWriter} (applied : sink.applyPendingConfig opening = .ok () settled)
      (data : item.isData = true) (dropped : ¬sink.Stores item now opening writing) :
      TurnEntry sink item now opening writing (sink.books.release sink.nextCfg item)
  | stored (data : item.isData = true) (stores : sink.Stores item now opening writing) :
      TurnEntry sink item now opening writing
        ((sink.books.record ⟨item, sink.nextCfg, now⟩).release sink.nextCfg item)

theorem isData_of_sourced {record : FramedRecord} {src : String} (sourced : src ≠ "") :
    QueueItem.isData { record := record, src := src } = true := by
  simp [QueueItem.isData, sourced]

theorem isData_of_neither {item : QueueItem} (going : ¬item.stop = true)
    (full : ¬(item.record.payload = [] ∧ item.src = "")) : item.isData = true := by
  simp only [QueueItem.isData, Bool.and_eq_true, Bool.not_eq_true', Bool.and_eq_false_iff]
  exact ⟨by simpa using going, by simpa [or_iff_not_imp_left] using full⟩

theorem going_of_isData {item : QueueItem} (data : item.isData = true) :
    item.stop = false ∧ ¬(item.record.payload = [] ∧ item.src = "") := by
  simp only [QueueItem.isData, Bool.and_eq_true, Bool.not_eq_true', Bool.and_eq_false_iff,
    decide_eq_false_iff_not] at data
  exact ⟨data.1, not_and_or.mpr data.2⟩

theorem not_isData_of_stop {item : QueueItem} (stop : item.stop = true) :
    item.isData = false := by
  simp [QueueItem.isData, stop]

theorem not_isData_of_empty {item : QueueItem}
    (empty : item.record.payload = [] ∧ item.src = "") : item.isData = false := by
  simp [QueueItem.isData, empty]

private theorem handleRecord_books {self settled : SinkWriter} {item : QueueItem}
    {now : String} {opening writing : List Bool} (data : item.isData = true)
    (applied : self.applyPendingConfig opening = .ok () settled) :
    self.TurnEntry item now opening writing (settled.handleRecord item now writing).books := by
  have kept : self.Settled settled :=
    SinkWriter.applyPendingConfig_settled (by rw [applied]; rfl)
  have opens (enabled : self.nextCfg.enabled = true) : settled.file.fh.isSome = self.opensNext :=
    SinkWriter.applyPendingConfig_opens enabled applied
  unfold SinkWriter.handleRecord
  split
  next closed =>
      rw [SinkWriter.release_books, kept.books, kept.cfg]
      refine .discarded applied data fun stores => ?_
      have fileOpen := (opens stores.enabled).trans stores.opened
      rw [kept.cfg, stores.enabled] at closed
      simp [Option.isNone_iff_eq_none, Option.isSome_iff_ne_none] at closed fileOpen
      exact fileOpen closed
  next openBranch =>
      simp only [Bool.or_eq_true, Bool.not_eq_true', not_or, Bool.not_eq_false] at openBranch
      obtain ⟨enabled, fileOpen⟩ := openBranch
      rcases writeRecord_ledger settled.cfg now item
          { settled.file with disk := { settled.file.disk with faults := writing } } with
        ⟨file, ran, ledger⟩ | ⟨error, file, raised, ledger⟩
      · have stores : self.Stores item now opening writing :=
          ⟨kept.cfg ▸ enabled, (opens (kept.cfg ▸ enabled)).symm.trans
            (Option.isSome_iff_ne_none.mpr (by simpa using fileOpen)),
            settled, file, applied, ran⟩
        simp only [SinkWriter.runFile, ran, SinkWriter.release_books]
        have entered : { settled with file }.books =
            settled.books.record ⟨item, settled.cfg, now⟩ := by
          simp only [SinkFile.ledger, Prod.mk.injEq] at ledger
          obtain ⟨written, counted, watermarks⟩ := ledger
          simp only [SinkWriter.books, Books.record, written, counted, watermarks]
          rfl
        rw [entered, kept.books, kept.cfg]
        exact .stored data stores
      · simp only [SinkWriter.runFile, raised, SinkWriter.release_books]
        rw [SinkWriter.emit_books _ rfl, SinkWriter.books_of_ledger settled ledger, kept.books]
        have cfg : ({ settled with file }.emit (.error error file.currentPath)).cfg =
            self.nextCfg := kept.cfg
        rw [cfg]
        refine .discarded applied data ?_
        intro stores
        obtain ⟨_, _, other, written, otherApplied, otherRan⟩ := stores
        rw [applied] at otherApplied
        cases otherApplied
        rw [SinkWriter.runFile, raised] at otherRan
        cases otherRan

theorem SinkWriter.turn_entry (self : SinkWriter) (item : QueueItem) (now : String)
    (opening writing : List Bool) :
    self.TurnEntry item now opening writing (self.turn item now opening writing).books := by
  unfold SinkWriter.turn
  cases applied : self.applyPendingConfig opening with
  | error error settled =>
      have kept : self.Settled settled :=
        SinkWriter.applyPendingConfig_settled (by rw [applied]; rfl)
      have books : { settled with
          file := closeFile settled.file, task := some .failed }.books = self.books := kept.books
      rw [books]
      exact .lost applied
  | ok value settled =>
      have kept : self.Settled settled :=
        SinkWriter.applyPendingConfig_settled (by rw [applied]; rfl)
      dsimp only
      split
      next stop =>
          have books : { settled with
              file := closeFile settled.file, task := some .finished }.books = self.books :=
            kept.books
          rw [books]
          exact .control applied (not_isData_of_stop stop)
      next going =>
          split
          next empty =>
              rw [kept.books]
              exact .control applied (not_isData_of_empty empty)
          next full => exact handleRecord_books (isData_of_neither going full) applied

theorem SinkWriter.TurnEntry.queue_accepted {sink : SinkWriter} {item : QueueItem}
    {now : String} {opening writing : List Bool} {books : Books}
    (entry : sink.TurnEntry item now opening writing books) :
    books.queue = sink.queue ∧ books.accepted = sink.accepted := by
  cases entry with
  | lost => exact ⟨rfl, rfl⟩
  | control => exact ⟨rfl, rfl⟩
  | discarded => simp [Books.release, SinkWriter.books]
  | stored => simp [Books.release, Books.record, SinkWriter.books]

theorem SinkWriter.TurnEntry.refused {sink : SinkWriter} {item : QueueItem}
    {now : String} {opening writing : List Bool} {books : Books}
    (entry : sink.TurnEntry item now opening writing books) : books.refused = sink.refused := by
  cases entry with
  | lost => rfl
  | control => rfl
  | discarded => simp [Books.release, SinkWriter.books]
  | stored => simp [Books.release, Books.record, SinkWriter.books]

/-! ## One step -/

/-- Every transport names the source of a record. -/
def SinkAction.Sourced : SinkAction → Prop
  | .submit _ src => src ≠ ""
  | _ => True

/-- The actions that neither submit nor drain. -/
def SinkAction.isControl : SinkAction → Bool
  | .submit .. => false
  | .drain .. => false
  | _ => true

/-- What a step enters in the books. -/
inductive SinkWriter.StepEntry (sink : SinkWriter) : SinkAction → Books → Prop where
  | idle {action : SinkAction} (control : action.isControl = true) : StepEntry sink action sink.books
  | enqueue {action : SinkAction} {item : QueueItem} (control : action.isControl = true)
      (marker : item.isData = false) (empty : item.size = 0) :
      StepEntry sink action (sink.books.enqueue item)
  | submit (record : FramedRecord) (src : String) :
      StepEntry sink (.submit record src)
        (sink.books.submit sink.cfg { record := record, src := src })
  | drain {item : QueueItem} {queue : List QueueItem} {now : String}
      {opening writing : List Bool} {books : Books} (head : sink.queue = item :: queue)
      (entry : { sink with queue }.TurnEntry item now opening writing books) :
      StepEntry sink (.drain now opening writing) books

theorem SinkWriter.begin_books (self : SinkWriter) (opening : List Bool) :
    (self.begin opening).books = self.books := by
  have kept := openFileIfEnabled_ledger self.cfg
    { self.file with disk := { self.file.disk with faults := opening } }
  unfold SinkWriter.begin SinkWriter.runFile
  cases ran : openFileIfEnabled self.cfg
      { self.file with disk := { self.file.disk with faults := opening } } with
  | error error file =>
      rw [ran] at kept
      exact SinkWriter.books_of_ledger self kept
  | ok value file =>
      rw [ran] at kept
      have books : { self with file, task := some .running }.books = self.books :=
        SinkWriter.books_of_ledger self kept
      dsimp only
      split
      · exact (SinkWriter.emit_books _ rfl).trans books
      · exact books

theorem SinkWriter.stopped_books (self : SinkWriter) : self.stopped.books = self.books :=
  SinkWriter.emit_books _ rfl

theorem SinkWriter.step_entry {self next : SinkWriter} {action : SinkAction}
    (taken : self.step action = some next) : self.StepEntry action next.books := by
  cases SinkWriter.steps_of_step taken with
  | starts => exact .idle rfl
  | startsNothing => exact .idle rfl
  | begins opening =>
      rw [SinkWriter.begin_books]
      exact .idle rfl
  | submits record src =>
      rw [SinkWriter.submit_books]
      exact .submit record src
  | configures cfg =>
      unfold SinkWriter.configure
      split
      · exact .idle rfl
      · exact .enqueue rfl (not_isData_of_empty ⟨rfl, rfl⟩) rfl
  | turns now opening writing _ head =>
      exact .drain head (SinkWriter.turn_entry _ _ now opening writing)
  | stopsNothing => exact .idle rfl
  | stops => exact .enqueue rfl (not_isData_of_stop rfl) rfl
  | raises => exact .idle rfl
  | returns | givesUp =>
      rw [SinkWriter.stopped_books]
      exact .idle rfl

/-- Only a submission accepts or refuses a record. -/
theorem SinkWriter.step_submits {sink next : SinkWriter} {action : SinkAction}
    (other : ∀ record src, action ≠ .submit record src)
    (taken : sink.step action = some next) :
    next.accepted = sink.accepted ∧ next.refused = sink.refused := by
  have entry := SinkWriter.step_entry taken
  suffices next.books.accepted = sink.books.accepted ∧ next.books.refused = sink.books.refused
    from this
  generalize next.books = books at entry
  cases entry with
  | idle => exact ⟨rfl, rfl⟩
  | enqueue => exact ⟨rfl, rfl⟩
  | submit record src => exact absurd rfl (other record src)
  | drain head turn => exact ⟨turn.queue_accepted.2, turn.refused⟩

end TcpSim.Engine
