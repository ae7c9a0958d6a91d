import Mathlib
import TcpSim.Engine.SinkBooks

/-! The sink's byte account: it is the queued payload, the back-pressure flag is
set only above zero, and every change of the flag is told by a watermark event. -/

set_option autoImplicit false

namespace TcpSim.Engine

/-! ## The byte account -/

/-- The byte account is the queue's, and the flag is set only above zero. -/
structure Books.Balanced (books : Books) : Prop where
  bytes : books.queuedBytes = ((books.queue.map QueueItem.size).sum : Nat)
  markers : ∀ item ∈ books.queue, item.isData = false → item.size = 0
  pending : books.backpressured = true → 0 < books.queuedBytes

/-- At most one watermark is emitted, and it tells the flag's new value. -/
inductive Books.Signals (before after : Books) : Prop where
  | silent (flag : after.backpressured = before.backpressured)
      (watermarks : after.watermarks = before.watermarks)
  | high (bytes : Int) (low : before.backpressured = false) (flag : after.backpressured = true)
      (watermarks : after.watermarks = before.watermarks ++ [.highWatermark bytes])
  | low (bytes : Int) (high : before.backpressured = true) (flag : after.backpressured = false)
      (watermarks : after.watermarks = before.watermarks ++ [.lowWatermark bytes])

theorem Books.signals_refl (books : Books) : books.Signals books := .silent rfl rfl

theorem Books.updateBackpressure_signals (cfg : SinkConfig) {before books : Books}
    (flag : books.backpressured = before.backpressured)
    (watermarks : books.watermarks = before.watermarks) :
    before.Signals (books.updateBackpressure cfg) := by
  unfold Books.updateBackpressure
  split
  next crossed =>
      simp only [Bool.and_eq_true, Bool.not_eq_true'] at crossed
      exact .high books.queuedBytes (flag.symm.trans crossed.1) rfl (by rw [watermarks])
  next =>
      split
      next cleared =>
          simp only [Bool.and_eq_true] at cleared
          exact .low books.queuedBytes (flag.symm.trans cleared.1) rfl (by rw [watermarks])
      next => exact .silent flag watermarks

theorem Books.updateBackpressure_pending (cfg : SinkConfig) {books : Books}
    (flag : (books.updateBackpressure cfg).backpressured = true) : 0 < books.queuedBytes := by
  have apart := cfg.low_lt_high
  unfold Books.updateBackpressure at flag
  split at flag
  next crossed =>
      simp only [Bool.and_eq_true, decide_eq_true_eq] at crossed
      omega
  next =>
      split at flag
      · cases flag
      next above =>
          simp only [flag, Bool.true_and, decide_eq_true_eq] at above
          omega

private theorem balanced_accept {cfg : SinkConfig} {item : QueueItem} {books : Books}
    (marker : item.isData = false → item.size = 0) (balanced : books.Balanced) :
    (books.accept cfg item).Balanced where
  bytes := by
    simp only [Books.accept, Books.updateBackpressure_queuedBytes,
      Books.updateBackpressure_queue, List.map_append, List.sum_append, balanced.bytes]
    simp
  markers := by
    intro other member
    simp only [Books.accept, Books.updateBackpressure_queue, List.mem_append,
      List.mem_singleton] at member
    rcases member with before | rfl
    · exact balanced.markers other before
    · exact marker
  pending := by
    intro flag
    simp only [Books.accept, Books.updateBackpressure_queuedBytes]
    exact Books.updateBackpressure_pending cfg flag

private theorem balanced_release {cfg : SinkConfig} {item : QueueItem} {queue : List QueueItem}
    {books : Books} (head : books.queue = item :: queue) (balanced : books.Balanced) :
    (Books.release cfg item { books with queue }).Balanced where
  bytes := by
    have before := balanced.bytes
    simp only [head, List.map_cons, List.sum_cons] at before
    simp only [Books.release, Books.updateBackpressure_queuedBytes,
      Books.updateBackpressure_queue]
    omega
  markers := by
    intro other member
    simp only [Books.release, Books.updateBackpressure_queue] at member
    exact balanced.markers other (by simp [head, member])
  pending := by
    intro flag
    simp only [Books.release, Books.updateBackpressure_queuedBytes]
    exact Books.updateBackpressure_pending cfg flag

private theorem balanced_take {item : QueueItem} {queue : List QueueItem} {books : Books}
    (head : books.queue = item :: queue) (marker : item.isData = false)
    (balanced : books.Balanced) : { books with queue }.Balanced where
  bytes := by
    have empty := balanced.markers item (by simp [head]) marker
    have before := balanced.bytes
    simp only [head, List.map_cons, List.sum_cons, empty] at before
    simpa using before
  markers := fun other member => balanced.markers other (by simp [head, member])
  pending := balanced.pending

private theorem balanced_enqueue {item : QueueItem} {books : Books} (empty : item.size = 0)
    (balanced : books.Balanced) : (books.enqueue item).Balanced where
  bytes := by simp [Books.enqueue, balanced.bytes, empty]
  markers := by
    intro other member
    simp only [Books.enqueue, List.mem_append, List.mem_singleton] at member
    rcases member with before | rfl
    · exact balanced.markers other before
    · exact fun _ => empty
  pending := balanced.pending

theorem submitted_marker {record : FramedRecord} {src : String}
    (marker : QueueItem.isData { record := record, src := src } = false) :
    QueueItem.size { record := record, src := src } = 0 := by
  simp only [QueueItem.isData, Bool.not_false, Bool.true_and, Bool.not_eq_false',
    Bool.and_eq_true, decide_eq_true_eq] at marker
  simp [QueueItem.size, marker.1]

/-- Reopening and opening the file do not raise. -/
def SinkAction.OpensFiles : SinkAction → Prop
  | .begin opening => opening = []
  | .drain _ opening _ => opening = []
  | _ => True

theorem SinkWriter.signals_step {sink next : SinkWriter} {action : SinkAction}
    (taken : sink.step action = some next) : sink.books.Signals next.books := by
  have entry := SinkWriter.step_entry taken
  generalize next.books = books at entry
  cases entry with
  | idle => exact Books.signals_refl _
  | enqueue => exact .silent rfl rfl
  | submit record src =>
      unfold Books.submit
      split
      · exact Books.signals_refl _
      · split
        · exact .silent rfl rfl
        · exact Books.updateBackpressure_signals _ rfl rfl
  | drain head turn =>
      cases turn with
      | lost => exact .silent rfl rfl
      | control => exact .silent rfl rfl
      | discarded => exact Books.updateBackpressure_signals _ rfl rfl
      | stored => exact Books.updateBackpressure_signals _ rfl rfl

/-- The step takes no item whose configuration cannot be applied. -/
def SinkWriter.Applies (sink : SinkWriter) (action : SinkAction) : Prop :=
  ∀ item queue now opening writing, action = .drain now opening writing →
    sink.queue = item :: queue →
      ∃ settled, { sink with queue }.applyPendingConfig opening = .ok () settled

/-- Whatever else a step does, the account stays balanced. -/
theorem SinkWriter.balanced_step_of_applies {sink next : SinkWriter} {action : SinkAction}
    (applies : sink.Applies action) (balanced : sink.books.Balanced)
    (taken : sink.step action = some next) : next.books.Balanced := by
  have entry := SinkWriter.step_entry taken
  generalize next.books = books at entry
  cases entry with
  | idle => exact balanced
  | enqueue _ _ empty => exact balanced_enqueue empty balanced
  | submit record src =>
      unfold Books.submit
      split
      · exact balanced
      · split
        · exact ⟨balanced.bytes, balanced.markers, balanced.pending⟩
        · exact balanced_accept submitted_marker balanced
  | @drain item queue now opening writing _ head turn =>
      cases turn with
      | lost raised =>
          obtain ⟨settled, applied⟩ := applies item queue now opening writing rfl head
          rw [applied] at raised
          cases raised
      | control _ marker => exact balanced_take head marker balanced
      | discarded => exact balanced_release head balanced
      | stored =>
          have recorded : (sink.books.record ⟨item, { sink with queue }.nextCfg, now⟩).Balanced :=
            ⟨balanced.bytes, balanced.markers, balanced.pending⟩
          exact balanced_release head recorded

theorem SinkWriter.balanced_step {sink next : SinkWriter} {action : SinkAction}
    (opens : action.OpensFiles) (balanced : sink.books.Balanced)
    (taken : sink.step action = some next) : next.books.Balanced := by
  refine SinkWriter.balanced_step_of_applies ?_ balanced taken
  intro item queue now opening writing drains _
  subst drains
  obtain rfl : opening = [] := opens
  exact SinkWriter.applyPendingConfig_returns { sink with queue }

theorem SinkWriter.queued_step_le {sink next : SinkWriter} {action : SinkAction}
    (other : ∀ record src, action ≠ .submit record src)
    (taken : sink.step action = some next) : next.queuedBytes ≤ sink.queuedBytes := by
  have entry := SinkWriter.step_entry taken
  suffices next.books.queuedBytes ≤ sink.books.queuedBytes from this
  generalize next.books = books at entry
  cases entry with
  | idle => exact le_rfl
  | enqueue => exact le_rfl
  | submit record src => exact absurd rfl (other record src)
  | drain head turn =>
      cases turn with
      | lost => exact le_rfl
      | control => exact le_rfl
      | discarded => simp [Books.release, SinkWriter.books]
      | stored => simp [Books.release, Books.record, SinkWriter.books]

end TcpSim.Engine
