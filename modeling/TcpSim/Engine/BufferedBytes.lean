import TcpSim.Lib.Runs
import TcpSim.Engine.DelimitedReplay

/-! How many bytes a framer keeps between two calls. The cap is enforced where a record first
passes it; while the rest of that record is awaited, every further chunk is kept whole. -/

set_option autoImplicit false

namespace TcpSim.Engine

open Splitting

namespace Framer

/-- A call as a step of the framer, which never refuses one. -/
def step (self : Framer) (call : FramerCall) : Option Framer := some (self.call call).2

/-- A chunk in which the end of an oversized record is sought in vain still fits in the buffer. -/
def TailFits (self : Framer) : FramerCall → Prop
  | .feed chunk => ∀ sep, separators self.mode = some sep → self.overflow = true →
      cut? sep (self.buf ++ chunk) = none → self.buf.length + chunk.length ≤ self.max
  | .flush | .reset => True

variable {self : Framer} {sep : Separator UInt8}

theorem settle_buffered_le (self : Framer) (sep : Separator UInt8) (stream : Bytes) :
    (self.settle sep stream).2.bufferedBytes ≤ self.max := by
  by_cases fits : (pieces sep stream).2.length ≤ self.max
  · rw [settle_of_le fits]
    exact fits
  · rw [settle_of_gt (Nat.lt_of_not_le fits)]
    exact Nat.zero_le _

/-- A feed that finds no separator while in overflow adds its whole chunk to the buffer. -/
theorem feed_buffered_of_overflow (separated : separators self.mode = some sep)
    (overflow : self.overflow = true) {chunk : Bytes} (absent : cut? sep (self.buf ++ chunk) = none) :
    (self.feed chunk).2.bufferedBytes = self.bufferedBytes + chunk.length := by
  by_cases empty : chunk = []
  · rw [empty, feed_nil]
    exact (Nat.add_zero _).symm
  · rw [feed_of_overflow_none separated overflow empty absent]
    exact List.length_append

/-- Any other feed ends within the cap. -/
theorem feed_buffered_le (held : self.bufferedBytes ≤ self.max) (chunk : Bytes)
    (finds : ∀ sep, separators self.mode = some sep → self.overflow = true →
      cut? sep (self.buf ++ chunk) ≠ none) : (self.feed chunk).2.bufferedBytes ≤ self.max := by
  by_cases empty : chunk = []
  · rw [empty, feed_nil]
    exact held
  cases separated : separators self.mode with
  | none =>
      have raw : self.feed chunk = ([clamp self.max chunk], self) := by
        simp [feed, empty, separated]
      rw [raw]
      exact held
  | some sep =>
      cases overflow : self.overflow with
      | false =>
          rw [feed_of_clear separated overflow empty]
          exact settle_buffered_le self sep _
      | true =>
          cases found : cut? sep (self.buf ++ chunk) with
          | none => exact absurd found (finds sep separated overflow)
          | some cut =>
              rw [feed_of_overflow_some separated overflow empty found]
              exact settle_buffered_le self sep _

theorem flush_buffered_le (held : self.bufferedBytes ≤ self.max) :
    self.flush.2.bufferedBytes ≤ self.max := by
  unfold flush
  split
  · exact held
  · split
    · exact Nat.zero_le _
    · split
      · exact held
      · exact Nat.zero_le _

/-- A call keeps the buffer within the cap exactly when it is not such a feed. -/
theorem call_buffered_le_iff (held : self.bufferedBytes ≤ self.max) (call : FramerCall) :
    (self.call call).2.bufferedBytes ≤ self.max ↔ self.TailFits call := by
  cases call with
  | feed chunk =>
      constructor
      · intro within sep separated overflow absent
        rw [call, feed_buffered_of_overflow separated overflow absent] at within
        exact within
      · intro fits
        by_cases vain : ∃ sep, separators self.mode = some sep ∧ self.overflow = true ∧
            cut? sep (self.buf ++ chunk) = none
        · obtain ⟨sep, separated, overflow, absent⟩ := vain
          rw [call, feed_buffered_of_overflow separated overflow absent]
          exact fits sep separated overflow absent
        · apply feed_buffered_le held chunk
          intro sep separated overflow absent
          exact vain ⟨sep, separated, overflow, absent⟩
  | flush => exact iff_of_true (flush_buffered_le held) trivial
  | reset => exact iff_of_true (Nat.zero_le _) trivial

theorem feed_max (self : Framer) (data : Bytes) : (self.feed data).2.max = self.max :=
  (self.feed_config data).2

theorem flush_max (self : Framer) : self.flush.2.max = self.max := by
  unfold flush
  split
  · rfl
  · split
    · rfl
    · split <;> rfl

theorem call_max (self : Framer) (call : FramerCall) : (self.call call).2.max = self.max := by
  cases call with
  | feed chunk => exact feed_max self chunk
  | flush => exact flush_max self
  | reset => rfl

/-- After every call of a run the buffer is within the cap, exactly when every chunk that was
fed while the end of an oversized record was awaited, and did not bring it, still fitted. -/
theorem buffered_le_iff (mode : FramingMode) (max : Nat) (max_pos : 0 < max)
    (calls : List FramerCall) :
    (∀ visited, Runs.Visits step (fresh mode max max_pos) calls visited →
        visited.bufferedBytes ≤ max) ↔
      Runs.Each step TailFits (fresh mode max max_pos) calls := by
  have runs : ∀ (start : Framer), ∃ final, Runs.run step start calls = some final := by
    induction calls with
    | nil => exact fun start => ⟨start, rfl⟩
    | cons call calls ih => exact fun start => ih (start.call call).2
  obtain ⟨final, ran⟩ := runs (fresh mode max max_pos)
  refine Runs.stays_iff_each (fun _ => True) (fun framer => framer.max = max)
    (fun framer => framer.bufferedBytes ≤ max) TailFits ?_ ?_ rfl (Nat.zero_le _)
    (fun _ _ => trivial) ran
  · intro framer call next _ capped taken
    obtain rfl := Option.some.inj taken
    exact (framer.call_max call).trans capped
  · intro framer call next _ capped held taken
    obtain rfl := Option.some.inj taken
    rw [← capped]
    exact framer.call_buffered_le_iff (capped ▸ held) call

/-- Six bytes of one record, two at a time, where a record has at most two. -/
theorem buffered_le_iff_two : 0 < 2 ∧
    ((∀ visited, Runs.Visits step (fresh .lf 2 (by decide))
        [.feed [0x61, 0x62], .feed [0x63, 0x64], .feed [0x65, 0x66]] visited →
          visited.bufferedBytes ≤ 2) ↔
      Runs.Each step TailFits (fresh .lf 2 (by decide))
        [.feed [0x61, 0x62], .feed [0x63, 0x64], .feed [0x65, 0x66]]) :=
  ⟨by decide, buffered_le_iff .lf 2 (by decide) _⟩

/-- Two chunks of the tail of an oversized record: five bytes are kept, the cap being four. -/
theorem buffered_exceeds_cap :
    ¬ ∀ (mode : FramingMode) (max : Nat) (max_pos : 0 < max) (calls : List FramerCall),
      mode ≠ .rawChunk → ∀ visited, Runs.Visits step (fresh mode max max_pos) calls visited →
        visited.bufferedBytes ≤ max := by
  intro bounded
  let oversized : Bytes := [0x61, 0x61, 0x61, 0x61, 0x61]
  let started : Framer := fresh .lf 4 (by decide)
  let discarding : Framer := { started with overflow := true }
  have first : (started.feed oversized).2 = discarding := by
    have stream : started.buf ++ oversized = oversized := rfl
    have parts : pieces lfSeparator oversized = ([], oversized) := pieces_of_none rfl
    rw [feed_of_clear rfl rfl (by decide), stream, settle_of_gt (by rw [parts]; decide)]
    rfl
  have second : (discarding.feed [0x62, 0x62, 0x62]).2 =
      { discarding with buf := [0x62, 0x62, 0x62] } := by
    rw [@feed_of_overflow_none discarding lfSeparator [0x62, 0x62, 0x62] rfl rfl (by decide) rfl]
    rfl
  have third : (({ discarding with buf := [0x62, 0x62, 0x62] } : Framer).feed [0x63, 0x63]).2 =
      { discarding with buf := [0x62, 0x62, 0x62, 0x63, 0x63] } := by
    rw [@feed_of_overflow_none _ lfSeparator [0x63, 0x63] rfl rfl (by decide) rfl]
    rfl
  have ran : Runs.run step started
      [.feed oversized, .feed [0x62, 0x62, 0x62], .feed [0x63, 0x63]] =
        some { discarding with buf := [0x62, 0x62, 0x62, 0x63, 0x63] } := by
    simp only [Runs.run_cons, Runs.run_nil, step, call, first, second, third, Option.bind_some]
  have within := bounded .lf 4 (by decide)
    [.feed oversized, .feed [0x62, 0x62, 0x62], .feed [0x63, 0x63]] (by decide) _
    ⟨_, List.prefix_refl _, ran⟩
  exact absurd within (by decide)

end Framer

end TcpSim.Engine
