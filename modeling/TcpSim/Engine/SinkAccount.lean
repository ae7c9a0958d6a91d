import TcpSim.Engine.SinkFailures

/-! The sink's byte account over whole runs with failing writes: it is the queued payload, and
no configuration that was in force lets it grow beyond its cap. -/

set_option autoImplicit false

namespace TcpSim.Engine

/-- The byte account is the payload on the queue, and not negative. -/
structure SinkWriter.Accounted (sink : SinkWriter) : Prop where
  queued : sink.queuedBytes = ((sink.queue.map fun item => item.record.payload.length).sum : Nat)
  nonneg : 0 ≤ sink.queuedBytes

theorem SinkWriter.accounted_of_balanced {sink : SinkWriter} (balanced : sink.books.Balanced) :
    sink.Accounted where
  queued := balanced.bytes
  nonneg := by
    have queued : sink.queuedBytes = ((sink.queue.map QueueItem.size).sum : Nat) := balanced.bytes
    rw [queued]
    exact Int.natCast_nonneg _

/-- Only an accepted record adds to the account, and it fits under the cap in force. -/
theorem SinkWriter.queued_step_capped {sink next : SinkWriter} {action : SinkAction}
    (taken : sink.step action = some next) :
    next.queuedBytes ≤ sink.queuedBytes ∨ next.queuedBytes ≤ sink.cfg.queueMaxBytes := by
  by_cases submits : ∃ record src, action = .submit record src
  · obtain ⟨record, src, rfl⟩ := submits
    cases taken
    have books := congrArg Books.queuedBytes (SinkWriter.submit_books sink record src)
    have account : (sink.submit record src).2.queuedBytes = _ := books
    rw [account]
    unfold Books.submit
    split
    · exact .inl le_rfl
    · split
      · exact .inl le_rfl
      next fits =>
          right
          simpa [Books.accept] using fits
  · left
    apply SinkWriter.queued_step_le ?_ taken
    intro record src same
    exact submits ⟨record, src, same⟩

/-- As long as files open, whatever becomes of the writes and rotations, the account is the
queued payload and within the cap of some configuration in force during the run. -/
theorem queued_bytes_accounted (cfg : SinkConfig) (files : String → Option Bytes)
    {actions : List SinkAction} {final : SinkWriter}
    (opens : Runs.Each SinkWriter.step (fun sink action => sink.OpensFor action)
      (SinkWriter.init cfg files) actions)
    (ran : Runs.run SinkWriter.step (SinkWriter.init cfg files) actions = some final) :
    final.Accounted ∧
      ∃ visited, Runs.Visits SinkWriter.step (SinkWriter.init cfg files) actions visited ∧
        final.queuedBytes ≤ visited.cfg.queueMaxBytes := by
  constructor
  · apply SinkWriter.accounted_of_balanced
    exact opens.visits_invariant (fun sink : SinkWriter => sink.books.Balanced)
      (fun _ _ _ opens balanced taken =>
        SinkWriter.balanced_step_of_applies opens.applies balanced taken)
      (SinkWriter.init_sound cfg files).balanced ⟨actions, List.prefix_rfl, ran⟩
  · rcases Runs.run_le_visited (fun sink : SinkWriter => sink.queuedBytes)
      (fun sink => (sink.cfg.queueMaxBytes : Int))
      (fun _ _ _ taken => SinkWriter.queued_step_capped taken) ran with below | capped
    · refine ⟨_, Runs.visits_self SinkWriter.step _ actions, ?_⟩
      exact le_trans below (Int.natCast_nonneg _)
    · exact capped

/-- At most one byte is queued. -/
def oneByteCap : SinkConfig where
  rotationMaxBytes := 1
  queueHighWatermarkBytes := 1
  queueLowWatermarkBytes := 0
  queueMaxBytes := 1
  rotation_pos := Nat.one_pos
  low_lt_high := Nat.one_pos
  high_le_max := le_rfl

/-- A write that fails, a smaller cap put in force with two records on the queue, and a restart. -/
def failsAndShrinks : List SinkAction :=
  [.start, .begin [], .submit { payload := [0x61] } "a:1", .drain "t" [] [true],
    .submit { payload := [0x62, 0x63] } "a:1", .submit { payload := [] } "a:1",
    .configure oneByteCap, .drain "t" [] [], .stop, .stopTimeout, .start]

theorem queued_bytes_accounted_write_fails :
    ∃ final, Runs.run SinkWriter.step
        (SinkWriter.init { enabled := true, path := some "sink.log" } fun _ => none)
        failsAndShrinks = some final ∧ final.Accounted ∧
      ∃ visited, Runs.Visits SinkWriter.step
          (SinkWriter.init { enabled := true, path := some "sink.log" } fun _ => none)
          failsAndShrinks visited ∧ final.queuedBytes ≤ visited.cfg.queueMaxBytes := by
  have reached : (Runs.run SinkWriter.step
      (SinkWriter.init { enabled := true, path := some "sink.log" } fun _ => none)
      failsAndShrinks).isSome = true := by decide +kernel
  obtain ⟨final, ran⟩ := Option.isSome_iff_exists.mp reached
  refine ⟨final, ran, queued_bytes_accounted _ (fun _ => none) ?_ ran⟩
  apply Runs.each_of_only (fun sink action quiet => sink.opensFor_of_quiet quiet)
  simp [failsAndShrinks, SinkAction.OpensQuietly]

end TcpSim.Engine
