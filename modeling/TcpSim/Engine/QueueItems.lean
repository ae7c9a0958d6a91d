import TcpSim.Engine.Regulation
import TcpSim.Engine.SinkAccount

/-! How many items the sink's queue holds. Its cap is in bytes of payload: it is one on the items
only as long as each of them has some payload. -/

set_option autoImplicit false

namespace TcpSim.Engine

/-- The drain task runs, and records that are `allowed` are submitted. -/
def SinkAction.Feeds (allowed : FramedRecord → Prop) : SinkAction → Prop
  | .start | .begin _ | .drain .. => True
  | .submit record _ => allowed record
  | _ => False

/-- There is a number that the length of the queue does not exceed in any such run. -/
def SinkConfig.BoundsQueue (cfg : SinkConfig) (files : String → Option Bytes)
    (allowed : FramedRecord → Prop) : Prop :=
  ∃ bound : Nat, ∀ (actions : List SinkAction) (final : SinkWriter),
    (∀ action ∈ actions, action.Feeds allowed) →
      Runs.run SinkWriter.step (SinkWriter.init cfg files) actions = some final →
        final.queue.length ≤ bound

namespace SinkWriter

/-! ## Records with a payload -/

/-- Under a fixed configuration, with payload in every item. -/
structure Filled (cfg : SinkConfig) (sink : SinkWriter) : Prop where
  config : sink.cfg = cfg
  settled : sink.pendingConfig = none
  balanced : sink.books.Balanced
  capped : sink.queuedBytes ≤ cfg.queueMaxBytes
  payloads : ∀ item ∈ sink.queue, item.record.payload ≠ []

theorem length_le_sizes {items : List QueueItem} (payloads : ∀ item ∈ items, item.record.payload ≠ []) :
    items.length ≤ (items.map QueueItem.size).sum := by
  induction items with
  | nil => exact le_rfl
  | cons item rest ih =>
      obtain ⟨filled, others⟩ := List.forall_mem_cons.mp payloads
      have one : 0 < item.size := List.length_pos_iff.mpr filled
      have more := ih others
      rw [List.length_cons, List.map_cons, List.sum_cons]
      omega

theorem Filled.length_le {cfg : SinkConfig} {sink : SinkWriter} (filled : sink.Filled cfg) :
    sink.queue.length ≤ cfg.queueMaxBytes := by
  have bytes : sink.queuedBytes = ((sink.queue.map QueueItem.size).sum : Nat) := filled.balanced.bytes
  have items := length_le_sizes filled.payloads
  have capped := filled.capped
  omega

theorem submit_queue (sink : SinkWriter) (record : FramedRecord) (src : String) :
    (sink.submit record src).2.queue = sink.queue ∨
      (sink.submit record src).2.queue = sink.queue ++ [{ record := record, src := src }] := by
  have books := congrArg Books.queue (submit_books sink record src)
  unfold Books.submit at books
  split at books
  · exact .inl books
  · split at books
    · exact .inl books
    · refine .inr (books.trans ?_)
      simp [Books.accept, SinkWriter.books]

theorem payloads_step {sink next : SinkWriter} {action : SinkAction}
    (feeds : action.Feeds fun record => record.payload ≠ [])
    (payloads : ∀ item ∈ sink.queue, item.record.payload ≠ [])
    (taken : sink.step action = some next) : ∀ item ∈ next.queue, item.record.payload ≠ [] := by
  cases steps_of_step taken with
  | starts => exact payloads
  | startsNothing => exact payloads
  | begins opening =>
      have same : (sink.begin opening).queue = sink.queue :=
        congrArg Books.queue (begin_books sink opening)
      rw [same]
      exact payloads
  | submits record src =>
      rcases sink.submit_queue record src with same | longer
      · rw [same]
        exact payloads
      · rw [longer]
        intro item member
        rcases List.mem_append.mp member with before | new
        · exact payloads item before
        · rw [List.mem_singleton.mp new]
          exact feeds
  | @turns now opening writing item queue running head =>
      have rest : (SinkWriter.turn { sink with queue } item now opening writing).queue = queue :=
        (turn_entry { sink with queue } item now opening writing).queue_accepted.1
      rw [rest]
      intro other member
      exact payloads other (by rw [head]; exact List.mem_cons_of_mem item member)
  | configures => exact feeds.elim
  | stopsNothing | stops | returns | raises | givesUp => exact feeds.elim

theorem Filled.step {cfg : SinkConfig} {sink next : SinkWriter} {action : SinkAction}
    (feeds : action.Feeds fun record => record.payload ≠ []) (filled : sink.Filled cfg)
    (taken : sink.step action = some next) : next.Filled cfg := by
  have fixes : action.FixesConfig := by
    cases action with
    | configure cfg => exact feeds.elim
    | _ => trivial
  obtain ⟨config, settled⟩ := fixed_step fixes filled.settled taken
  have applies : sink.Applies action := by
    intro item queue now opening writing _ _
    exact ⟨{ sink with queue }, by simp only [applyPendingConfig, filled.settled]⟩
  refine ⟨config.trans filled.config, settled, balanced_step_of_applies applies filled.balanced taken,
    ?_, payloads_step feeds filled.payloads taken⟩
  have capped := filled.capped
  have grown := queued_step_capped taken
  rw [filled.config] at grown
  omega

theorem init_filled (cfg : SinkConfig) (files : String → Option Bytes) : (init cfg files).Filled cfg where
  config := rfl
  settled := rfl
  balanced := (init_sound cfg files).balanced
  capped := Int.natCast_nonneg _
  payloads := by simp [init]

/-! ## Records without one -/

/-- Enabled, with room for a record that needs none. -/
structure Open (sink : SinkWriter) : Prop where
  enabled : sink.cfg.enabled = true
  capped : sink.queuedBytes ≤ sink.cfg.queueMaxBytes

/-- A record without payload is always accepted, and leaves the account as it is. -/
theorem Open.submit_empty {sink : SinkWriter} (opened : sink.Open) {record : FramedRecord}
    (empty : record.payload = []) (src : String) :
    (sink.submit record src).2.queue = sink.queue ++ [{ record := record, src := src }] ∧
      (sink.submit record src).2.Open := by
  have size : QueueItem.size { record := record, src := src } = 0 := by
    rw [QueueItem.size, empty, List.length_nil]
  have accepted : sink.books.submit sink.cfg { record := record, src := src } =
      sink.books.accept sink.cfg { record := record, src := src } := by
    have room : ¬ sink.books.queuedBytes + (0 : Nat) > sink.cfg.queueMaxBytes := by
      have capped := opened.capped
      simp only [books]
      omega
    rw [Books.submit, opened.enabled, size, if_neg (by decide), if_neg room]
  have books := submit_books sink record src
  rw [accepted] at books
  have cfg : (sink.submit record src).2.cfg = sink.cfg := by
    rcases submit_logView sink record src with view | view
    · exact congrArg LogView.cfg view
    · exact congrArg LogView.cfg view
  have queue := congrArg Books.queue books
  have bytes := congrArg Books.queuedBytes books
  simp only [Books.accept, Books.updateBackpressure_queue, Books.updateBackpressure_queuedBytes,
    size] at queue bytes
  refine ⟨queue, cfg ▸ opened.enabled, ?_⟩
  have capped := opened.capped
  rw [cfg]
  change (sink.submit record src).2.queuedBytes = sink.queuedBytes + (0 : Nat) at bytes
  omega

theorem Open.run_submit_empty {record : FramedRecord} (empty : record.payload = []) (src : String)
    (count : Nat) {sink : SinkWriter} (opened : sink.Open) :
    ∃ final, Runs.run step sink (List.replicate count (.submit record src)) = some final ∧
      final.queue.length = sink.queue.length + count := by
  induction count generalizing sink with
  | zero => exact ⟨sink, rfl, rfl⟩
  | succ count ih =>
      obtain ⟨queue, still⟩ := opened.submit_empty empty src
      obtain ⟨final, ran, length⟩ := ih still
      refine ⟨final, Runs.run_cons_eq_some.mpr ⟨_, rfl, ran⟩, ?_⟩
      rw [length, queue, List.length_append, List.length_singleton]
      omega

theorem not_boundsQueue {cfg : SinkConfig} (enabled : cfg.enabled = true)
    (files : String → Option Bytes) {allowed : FramedRecord → Prop} {record : FramedRecord}
    (isAllowed : allowed record) (empty : record.payload = []) : ¬ cfg.BoundsQueue files allowed := by
  intro bounded
  obtain ⟨bound, holds⟩ := bounded
  have opened : (init cfg files).Open := ⟨enabled, Int.natCast_nonneg _⟩
  obtain ⟨final, ran, length⟩ := opened.run_submit_empty empty "127.0.0.1:9000" (bound + 1)
  have within := holds _ final (by
    intro action member
    rw [(List.mem_replicate.mp member).2]
    exact isAllowed) ran
  omega

/-- The queue of an enabled sink is bounded, by its cap in bytes, exactly when no record without
payload may be submitted. -/
theorem queue_bounded_iff (cfg : SinkConfig) (enabled : cfg.enabled = true)
    (files : String → Option Bytes) (allowed : FramedRecord → Prop) :
    cfg.BoundsQueue files allowed ↔ ∀ record, allowed record → record.payload ≠ [] := by
  constructor
  · intro bounded record isAllowed empty
    exact not_boundsQueue enabled files isAllowed empty bounded
  · intro payloads
    refine ⟨cfg.queueMaxBytes, fun actions final feeds ran => ?_⟩
    have filled := Runs.run_invariant_of (fun action => action.Feeds fun record => record.payload ≠ [])
      (fun sink : SinkWriter => sink.Filled cfg)
      (fun _ _ _ feeds filled taken => filled.step feeds taken) (init_filled cfg files)
      (fun action member => by
        have fed := feeds action member
        cases action with
        | submit record src => exact payloads record fed
        | _ => exact fed) ran
    exact filled.length_le

theorem queue_bounded_iff_default :
    ({ enabled := true } : SinkConfig).enabled = true ∧
      (({ enabled := true } : SinkConfig).BoundsQueue (fun _ => none)
          (fun record => record.payload.length = 3) ↔
        ∀ record : FramedRecord, record.payload.length = 3 → record.payload ≠ []) :=
  ⟨rfl, queue_bounded_iff { enabled := true } rfl (fun _ => none) fun record => record.payload.length = 3⟩

/-- Empty lines, which the default configuration accepts without end. -/
theorem empty_records_unbounded :
    ¬ ∀ (cfg : SinkConfig) (files : String → Option Bytes), cfg.enabled = true →
      cfg.BoundsQueue files fun _ => True := by
  intro bounded
  have defaultBounds := bounded { enabled := true } (fun _ => none) rfl
  exact @not_boundsQueue { enabled := true } rfl (fun _ => none) (fun _ => True) { payload := [] }
    trivial rfl defaultBounds

end SinkWriter

end TcpSim.Engine
