import TcpSim.Engine.Framer

/-! The separated framing modes against the whole-stream reference, for every
way the stream is cut into chunks. -/

set_option autoImplicit false

namespace TcpSim.Engine

open Splitting

theorem clamp_eq_referenceRecord (max : Nat) (raw : Bytes) :
    clamp max raw = referenceRecord max raw := by
  unfold clamp referenceRecord
  split
  · simp_all
  · simp_all [List.take_of_length_le]

theorem referenceRecord_of_le {max : Nat} {record : Bytes} (fits : record.length ≤ max) :
    referenceRecord max record = { payload := record, truncated := false } := by
  simp [referenceRecord, List.take_of_length_le fits, Nat.not_lt.mpr fits]

theorem feedLoop_clear (sep : Separator UInt8) (max : Nat) (rest : Bytes) :
    feedLoop sep max false rest =
      ((pieces sep rest).1.map (referenceRecord max), false, (pieces sep rest).2) := by
  induction rest using pieces.induct sep with
  | case1 rest absent =>
      rw [feedLoop]
      split
      · simp [pieces_of_none absent]
      · simp_all
  | case2 rest raw later found ih =>
      rw [feedLoop]
      split
      · simp_all
      · next piece remaining again =>
          rw [found] at again
          cases again
          simp [ih, pieces_of_some found, clamp_eq_referenceRecord]

theorem feedLoop_overflow_of_none {sep : Separator UInt8} (max : Nat) {rest : Bytes}
    (absent : cut? sep rest = none) : feedLoop sep max true rest = ([], true, rest) := by
  rw [feedLoop]
  split
  · rfl
  · simp_all

theorem feedLoop_overflow_of_some {sep : Separator UInt8} (max : Nat)
    {rest raw later : Bytes} (found : cut? sep rest = some (raw, later)) :
    feedLoop sep max true rest = feedLoop sep max false later := by
  rw [feedLoop]
  split
  · simp_all
  · simp_all

/-- What a feed makes of `stream`, the buffered bytes included, when the framer
is not in overflow. -/
def Framer.settle (self : Framer) (sep : Separator UInt8) (stream : Bytes) :
    List FramedRecord × Framer :=
  let emitted := (pieces sep stream).1.map (referenceRecord self.max)
  let tail := (pieces sep stream).2
  if tail.length > self.max then
    (emitted ++ [{ payload := tail.take self.max, truncated := true }],
      { self with buf := [], overflow := true })
  else (emitted, { self with buf := tail, overflow := false })

theorem Framer.settle_of_le {self : Framer} {sep : Separator UInt8} {stream : Bytes}
    (fits : (pieces sep stream).2.length ≤ self.max) :
    self.settle sep stream =
      ((pieces sep stream).1.map (referenceRecord self.max),
        { self with buf := (pieces sep stream).2, overflow := false }) := by
  rw [Framer.settle, if_neg (by omega)]

theorem Framer.settle_of_gt {self : Framer} {sep : Separator UInt8} {stream : Bytes}
    (exceeds : self.max < (pieces sep stream).2.length) :
    self.settle sep stream =
      ((pieces sep stream).1.map (referenceRecord self.max) ++
          [{ payload := (pieces sep stream).2.take self.max, truncated := true }],
        { self with buf := [], overflow := true }) := by
  rw [Framer.settle, if_pos exceeds]

@[simp] theorem Framer.feed_nil (self : Framer) : self.feed [] = ([], self) := by
  simp [Framer.feed]

theorem Framer.feed_of_clear {self : Framer} {sep : Separator UInt8} {data : Bytes}
    (separated : separators self.mode = some sep) (clear : self.overflow = false)
    (nonempty : data ≠ []) : self.feed data = self.settle sep (self.buf ++ data) := by
  simp only [Framer.feed, nonempty, if_false, separated, clear, feedLoop_clear]
  simp [Framer.settle]

theorem Framer.feed_of_overflow_none {self : Framer} {sep : Separator UInt8} {data : Bytes}
    (separated : separators self.mode = some sep) (overflow : self.overflow = true)
    (nonempty : data ≠ []) (absent : cut? sep (self.buf ++ data) = none) :
    self.feed data = ([], { self with buf := self.buf ++ data }) := by
  simp [Framer.feed, nonempty, separated, overflow, feedLoop_overflow_of_none self.max absent]

theorem Framer.feed_of_overflow_some {self : Framer} {sep : Separator UInt8}
    {data raw later : Bytes} (separated : separators self.mode = some sep)
    (overflow : self.overflow = true) (nonempty : data ≠ [])
    (found : cut? sep (self.buf ++ data) = some (raw, later)) :
    self.feed data = self.settle sep later := by
  simp [Framer.feed, nonempty, separated, overflow, feedLoop_overflow_of_some self.max found,
    feedLoop_clear, Framer.settle]

theorem Framer.frame_nil (self : Framer) :
    self.frame [] = (self.flush.1.toList, self.flush.2) := rfl

theorem Framer.frame_cons (self : Framer) (chunk : Bytes) (chunks : List Bytes) :
    self.frame (chunk :: chunks) =
      ((self.feed chunk).1 ++ ((self.feed chunk).2.frame chunks).1,
        ((self.feed chunk).2.frame chunks).2) := by
  simp [Framer.frame, Framer.feedAll]

theorem Framer.flush_of_overflow {self : Framer} {sep : Separator UInt8}
    (separated : separators self.mode = some sep) (overflow : self.overflow = true) :
    self.flush = (none, { self with buf := [], overflow := false }) := by
  cases mode : self.mode <;> simp_all [Framer.flush, separators]

theorem Framer.flush_of_clear {self : Framer} {sep : Separator UInt8}
    (separated : separators self.mode = some sep) (clear : self.overflow = false) :
    self.flush =
      (if self.buf = [] then none else some (referenceRecord self.max self.buf),
        { self with buf := [], overflow := false }) := by
  have emptied : self.buf = [] → self = { self with buf := [], overflow := false } := by
    intro empty
    cases self
    simp_all
  have unfolded : self.flush = if self.buf = [] then (none, self)
      else (some (clamp self.max self.buf), { self with buf := [] }) := by
    cases mode : self.mode with
    | rawChunk => simp [mode, separators] at separated
    | lf | crlf => simp [Framer.flush, mode, clear]
  by_cases empty : self.buf = []
  · rw [unfolded, if_pos empty, if_pos empty, ← emptied empty]
  · rw [unfolded, if_neg empty, if_neg empty, clamp_eq_referenceRecord, ← clear]

/-- The chunk is the one that takes the record in progress over the cap. -/
def PassesCap (sep : Separator UInt8) (max : Nat) (held chunk : Bytes) : Prop :=
  max < (pieces sep (held ++ chunk)).2.length ∧
    (held.length ≤ max ∨ (pieces sep (held ++ chunk)).1 ≠ [])

/-- Where a chunk takes the record in progress over the cap, no separator lies
across the chunk's end, unless the record before that separator is itself over
the cap and the separator ends the stream. `held` is the record in progress. -/
def SeparatorsKept (sep : Separator UInt8) (max : Nat) : Bytes → List Bytes → Prop
  | _, [] => True
  | held, chunk :: chunks =>
      let tail := (pieces sep (held ++ chunk)).2
      (PassesCap sep max held chunk → Straddles sep tail chunks.flatten →
        ∃ record, cut? sep (tail ++ chunks.flatten) = some (record, []) ∧
          max < record.length) ∧
      SeparatorsKept sep max tail chunks

/-- A chunk that finishes no record cannot take one over the cap that is over it. -/
theorem separatorsKept_cons_of_over {sep : Separator UInt8} {max : Nat}
    {held chunk : Bytes} {chunks : List Bytes} (absent : cut? sep (held ++ chunk) = none)
    (exceeds : max < held.length) :
    SeparatorsKept sep max held (chunk :: chunks) ↔
      SeparatorsKept sep max (held ++ chunk) chunks := by
  have unfinished := pieces_of_none absent
  simp only [SeparatorsKept, PassesCap, unfinished]
  refine ⟨fun both => both.2, fun kept => ⟨fun passes => ?_, kept⟩⟩
  rcases passes.2 with fits | emitted
  · omega
  · exact absurd rfl emitted

theorem separatorsKept_cons_nil {sep : Separator UInt8} {max : Nat} {held : Bytes}
    {chunks : List Bytes} (absent : cut? sep held = none) :
    SeparatorsKept sep max held ([] :: chunks) ↔ SeparatorsKept sep max held chunks := by
  have unfinished : pieces sep (held ++ []) = ([], held) := by
    simpa using pieces_of_none absent
  simp only [SeparatorsKept, PassesCap, unfinished]
  refine ⟨fun both => both.2, fun kept => ⟨fun passes => ?_, kept⟩⟩
  rcases passes.2 with fits | emitted
  · omega
  · exact absurd rfl emitted

theorem separatorsKept_of_length_one {sep : Separator UInt8}
    (single : sep.symbols.length = 1) (max : Nat) (held : Bytes) (chunks : List Bytes) :
    SeparatorsKept sep max held chunks := by
  induction chunks generalizing held with
  | nil => trivial
  | cons chunk chunks ih =>
      exact ⟨fun _ straddles => absurd straddles (not_straddles_of_length_one single _ _),
        ih _⟩

theorem separatorsKept_of_short {sep : Separator UInt8} {max : Nat} {held : Bytes}
    {chunks : List Bytes} (short : (held ++ chunks.flatten).length ≤ max) :
    SeparatorsKept sep max held chunks := by
  induction chunks generalizing held with
  | nil => trivial
  | cons chunk chunks ih =>
      have bound := tail_length_le sep (held ++ chunk)
      simp only [List.flatten_cons, List.length_append] at short bound
      refine ⟨fun passes => ?_, ih (by simp only [List.length_append]; omega)⟩
      have exceeds := passes.1
      omega

/-- Chunks that only add to the record in progress, or finish it at the very end
of the stream, pass no further cap. -/
theorem separatorsKept_of_last_record {sep : Separator UInt8} {max : Nat}
    {held record : Bytes} {chunks : List Bytes} (absent : cut? sep held = none)
    (exceeds : max < held.length)
    (last : cut? sep (held ++ chunks.flatten) = some (record, [])) :
    SeparatorsKept sep max held chunks := by
  have nothingMore : ∀ rest : List Bytes, rest.flatten = [] →
      SeparatorsKept sep max [] rest := by
    intro rest
    induction rest with
    | nil => intro _; trivial
    | cons chunk rest ih =>
        intro empty
        simp only [List.flatten_cons, List.append_eq_nil_iff] at empty
        obtain ⟨rfl, empty⟩ := empty
        have none : pieces sep ([] ++ []) = ([], []) := pieces_of_none rfl
        simp only [SeparatorsKept, PassesCap, none]
        exact ⟨fun passes => by simp at passes, ih empty⟩
  induction chunks generalizing held with
  | nil => trivial
  | cons chunk chunks ih =>
      rw [List.flatten_cons, ← List.append_assoc] at last
      cases found : cut? sep (held ++ chunk) with
      | none =>
          simp only [SeparatorsKept, PassesCap, pieces_of_none found]
          refine ⟨fun passes => ?_, ih found (by simp; omega) last⟩
          rcases passes.2 with fits | emitted
          · omega
          · exact absurd rfl emitted
      | some cut =>
          obtain ⟨piece, rest⟩ := cut
          rw [cut?_append_of_some _ found] at last
          simp only [Option.some.injEq, Prod.mk.injEq, List.append_eq_nil_iff] at last
          obtain ⟨rfl, rfl, ended⟩ := last
          have finished : pieces sep [] = ([], []) := pieces_of_none rfl
          simp only [SeparatorsKept, PassesCap, pieces_of_some found, finished]
          exact ⟨fun passes => by simp at passes, nothingMore chunks ended⟩

/-- A framer never emits more records than the rest of its stream holds, counting
the record in progress only when it has not been emitted early. -/
theorem Framer.frame_length_le {sep : Separator UInt8} (resumes : Resumes sep)
    {self : Framer} (separated : separators self.mode = some sep) (chunks : List Bytes) :
    (self.overflow = false → cut? sep self.buf = none →
      (self.frame chunks).1.length ≤ (records sep (self.buf ++ chunks.flatten)).length) ∧
    (self.overflow = true → cut? sep self.buf = none →
      (self.frame chunks).1.length ≤
        (records sep (skip sep (self.buf ++ chunks.flatten))).length) := by
  induction chunks generalizing self with
  | nil =>
      constructor
      · intro clear absent
        rw [Framer.frame_nil, Framer.flush_of_clear separated clear]
        simp only [List.flatten_nil, List.append_nil, records_of_none absent]
        split <;> simp
      · intro overflow absent
        simp [Framer.frame_nil, Framer.flush_of_overflow separated overflow]
  | cons chunk chunks ih =>
      have settled : ∀ stream : Bytes,
          (self.settle sep stream).1.length +
              ((self.settle sep stream).2.frame chunks).1.length ≤
            (records sep (stream ++ chunks.flatten)).length := by
        intro stream
        have noSeparator := cut?_tail sep stream
        rw [records_append, List.length_append]
        by_cases fits : (pieces sep stream).2.length ≤ self.max
        · rw [Framer.settle_of_le fits]
          have next := (@ih { self with
            buf := (pieces sep stream).2, overflow := false } separated).1 rfl noSeparator
          rw [List.length_map]
          exact Nat.add_le_add_left next _
        · rw [Framer.settle_of_gt (by omega)]
          have next := (@ih { self with buf := [], overflow := true } separated).2
            rfl rfl
          have lost := records_skip_add_one_le resumes chunks.flatten noSeparator
            (List.length_pos_iff.mp (by omega))
          simp only [List.length_append, List.length_map, List.length_singleton,
            List.nil_append] at next ⊢
          omega
      rw [Framer.frame_cons, List.length_append, List.flatten_cons, ← List.append_assoc]
      by_cases empty : chunk = []
      · subst chunk
        simpa using ih separated
      · constructor
        · intro clear absent
          rw [Framer.feed_of_clear separated clear empty]
          exact settled _
        · intro overflow absent
          cases found : cut? sep (self.buf ++ chunk) with
          | none =>
              rw [Framer.feed_of_overflow_none separated overflow empty found]
              simpa using (@ih { self with buf := self.buf ++ chunk } separated).2 overflow found
          | some cut =>
              obtain ⟨raw, later⟩ := cut
              rw [Framer.feed_of_overflow_some separated overflow empty found,
                skip_of_some (cut?_append_of_some _ found)]
              exact settled later

/-- A record that is over the cap at some point of the stream is reported as its
first `max` bytes, however it goes on. -/
theorem referenceRecord_of_over {max : Nat} {held record : Bytes}
    (exceeds : max < held.length) (grows : held <+: record) :
    referenceRecord max record = { payload := held.take max, truncated := true } := by
  obtain ⟨more, rfl⟩ := grows
  have longer : max < (held ++ more).length := by simp; omega
  simp only [referenceRecord, List.take_append_of_le_length (Nat.le_of_lt exceeds)]
  simpa using longer

/-- Where no separator lies across the boundary, emitting the record in progress
early and skipping to its separator is what the reference does. -/
theorem referenceFrame_of_over {sep : Separator UInt8} {max : Nat} {held : Bytes}
    (later : Bytes) (absent : cut? sep held = none) (exceeds : max < held.length)
    (clean : ¬ Straddles sep held later) :
    referenceFrame sep max (held ++ later) =
      { payload := held.take max, truncated := true } ::
        referenceFrame sep max (skip sep later) := by
  have joined := cut?_append_of_none later absent clean
  have nonempty : held ++ later ≠ [] := by
    intro empty
    have lengths := congrArg List.length empty
    simp only [List.length_append, List.length_nil] at lengths
    omega
  unfold referenceFrame
  cases found : cut? sep later with
  | none =>
      rw [found, Option.map_none] at joined
      rw [records_of_none joined, if_neg nonempty, skip_of_none found, List.map_cons,
        referenceRecord_of_over exceeds (List.prefix_append held later)]
      simp
  | some cut =>
      obtain ⟨piece, rest⟩ := cut
      rw [found, Option.map_some] at joined
      rw [records_of_some joined, skip_of_some found, List.map_cons,
        referenceRecord_of_over exceeds (List.prefix_append held piece)]

/-- Early emission at a boundary that a separator straddles: the separator is lost
with the rest of the buffer, so the reference is met only if the record was over
the cap without it and nothing follows. -/
theorem Framer.frame_of_straddle_iff {sep : Separator UInt8} (resumes : Resumes sep)
    (self : Framer) (separated : separators self.mode = some sep)
    (overflow : self.overflow = true) (emptied : self.buf = []) {held : Bytes}
    {chunks : List Bytes} (absent : cut? sep held = none)
    (straddles : Straddles sep held chunks.flatten) :
    ({ payload := held.take self.max, truncated := true } :: (self.frame chunks).1 =
        referenceFrame sep self.max (held ++ chunks.flatten)) ↔
      ∃ record, cut? sep (held ++ chunks.flatten) = some (record, []) ∧
        self.max < record.length := by
  obtain ⟨record, rest, found, shorter, skipped⟩ :=
    resumes held chunks.flatten absent straddles
  have bounded := (Framer.frame_length_le resumes separated chunks).2 overflow
    (by rw [emptied]; rfl)
  rw [emptied, List.nil_append, skipped] at bounded
  rw [referenceFrame, records_of_some found, List.map_cons, List.cons.injEq, found]
  constructor
  · intro sameAll
    obtain ⟨sameRecord, sameRest⟩ := sameAll
    have lengths := congrArg List.length sameRest
    rw [List.length_map] at lengths
    have ended : rest = [] := by
      by_contra remains
      have fewer := records_skip_length_lt sep remains
      omega
    have exceeds : self.max < record.length := by
      simpa [referenceRecord] using congrArg FramedRecord.truncated sameRecord
    exact ⟨record, by rw [ended], exceeds⟩
  · intro onlyRecord
    obtain ⟨other, same, exceeds⟩ := onlyRecord
    simp only [Option.some.injEq, Prod.mk.injEq] at same
    obtain ⟨rfl, rfl⟩ := same
    refine ⟨?_, ?_⟩
    · -- The emitted bytes lie inside the record, which is a prefix of what was held.
      have initialPart : record <+: held := by
        apply List.prefix_of_prefix_length_le _ (List.prefix_append held chunks.flatten)
          (Nat.le_of_lt shorter)
        rw [cut?_decompose found, List.append_assoc]
        exact List.prefix_append record _
      obtain ⟨more, rfl⟩ := initialPart
      rw [referenceRecord_of_over exceeds (List.prefix_refl record),
        List.take_append_of_le_length (Nat.le_of_lt exceeds)]
    · have nothing : (self.frame chunks).1.length = 0 := by
        simpa using bounded
      simpa using List.length_eq_zero_iff.mp nothing

theorem Framer.settle_eq_reference_iff {sep : Separator UInt8} (resumes : Resumes sep)
    {self : Framer} (separated : separators self.mode = some sep) (stream : Bytes)
    (chunks : List Bytes)
    (whenClear : ∀ tail : Bytes, cut? sep tail = none → tail.length ≤ self.max →
      (({ self with buf := tail, overflow := false }.frame chunks).1 =
          referenceFrame sep self.max (tail ++ chunks.flatten) ↔
        SeparatorsKept sep self.max tail chunks))
    (whenOverflow : ∀ held : Bytes, cut? sep held = none →
      ¬ Straddles sep held chunks.flatten → self.max < held.length →
      (({ self with buf := [], overflow := true }.frame chunks).1 =
          referenceFrame sep self.max (skip sep chunks.flatten) ↔
        SeparatorsKept sep self.max held chunks)) :
    (self.settle sep stream).1 ++ ((self.settle sep stream).2.frame chunks).1 =
        referenceFrame sep self.max (stream ++ chunks.flatten) ↔
      (self.max < (pieces sep stream).2.length →
        Straddles sep (pieces sep stream).2 chunks.flatten →
        ∃ record, cut? sep ((pieces sep stream).2 ++ chunks.flatten) = some (record, []) ∧
          self.max < record.length) ∧
      SeparatorsKept sep self.max (pieces sep stream).2 chunks := by
  have absent := cut?_tail sep stream
  have reference : referenceFrame sep self.max (stream ++ chunks.flatten) =
      (pieces sep stream).1.map (referenceRecord self.max) ++
        referenceFrame sep self.max ((pieces sep stream).2 ++ chunks.flatten) := by
    rw [referenceFrame, records_append, List.map_append, referenceFrame]
  rw [reference]
  by_cases fits : (pieces sep stream).2.length ≤ self.max
  · rw [Framer.settle_of_le fits, List.append_cancel_left_eq, whenClear _ absent fits]
    exact ⟨fun kept => ⟨fun exceeds => by omega, kept⟩, fun both => both.2⟩
  · have exceeds : self.max < (pieces sep stream).2.length := by omega
    rw [Framer.settle_of_gt exceeds, List.append_assoc, List.append_cancel_left_eq,
      List.singleton_append]
    by_cases straddles : Straddles sep (pieces sep stream).2 chunks.flatten
    · rw [Framer.frame_of_straddle_iff resumes { self with buf := [], overflow := true }
        separated rfl rfl absent straddles]
      constructor
      · intro onlyRecord
        obtain ⟨record, last, longer⟩ := onlyRecord
        exact ⟨fun _ _ => ⟨record, last, longer⟩,
          separatorsKept_of_last_record absent exceeds last⟩
      · intro atEnd
        obtain ⟨ended, -⟩ := atEnd
        exact ended exceeds straddles
    · rw [referenceFrame_of_over _ absent exceeds straddles, List.cons.injEq,
        whenOverflow _ absent straddles exceeds]
      simp [straddles]

/-- The framer's output is the reference exactly when the chunk boundaries keep
the separators. The first part is about a framer outside overflow; the second
about one in overflow, where `skipped` is what was discarded of the record. -/
theorem Framer.frame_eq_reference_iff {sep : Separator UInt8} (resumes : Resumes sep)
    {self : Framer} (separated : separators self.mode = some sep) (chunks : List Bytes) :
    (self.overflow = false → cut? sep self.buf = none → self.buf.length ≤ self.max →
      ((self.frame chunks).1 = referenceFrame sep self.max (self.buf ++ chunks.flatten) ↔
        SeparatorsKept sep self.max self.buf chunks)) ∧
    (∀ skipped : Bytes, self.overflow = true → cut? sep (skipped ++ self.buf) = none →
      ¬ Straddles sep skipped (self.buf ++ chunks.flatten) → self.max < skipped.length →
      ((self.frame chunks).1 =
          referenceFrame sep self.max (skip sep (self.buf ++ chunks.flatten)) ↔
        SeparatorsKept sep self.max (skipped ++ self.buf) chunks)) := by
  induction chunks generalizing self with
  | nil =>
      constructor
      · intro clear absent _
        simp only [Framer.frame_nil, Framer.flush_of_clear separated clear, SeparatorsKept,
          List.flatten_nil, List.append_nil, referenceFrame, records_of_none absent, iff_true]
        split <;> simp
      · intro skipped overflow absent clean _
        have tailAbsent : cut? sep self.buf = none := by
          simpa using cut?_right_of_none absent (by simpa using clean)
        simp [Framer.frame_nil, Framer.flush_of_overflow separated overflow, SeparatorsKept,
          referenceFrame, skip_of_none tailAbsent]
  | cons chunk chunks ih =>
      have settled := fun stream : Bytes =>
        Framer.settle_eq_reference_iff resumes separated stream chunks
          (fun tail absent fits =>
            (@ih { self with buf := tail, overflow := false } separated).1
              rfl absent fits)
          (fun held absent clean exceeds => by
            simpa using (@ih { self with buf := [], overflow := true } separated).2
              held rfl (by simpa using absent) (by simpa using clean) exceeds)
      rw [Framer.frame_cons, List.flatten_cons, ← List.append_assoc]
      constructor
      · intro clear absent fits
        by_cases empty : chunk = []
        · subst chunk
          rw [separatorsKept_cons_nil absent, ← (ih separated).1 clear absent fits]
          simp
        · rw [Framer.feed_of_clear separated clear empty, settled]
          simp [SeparatorsKept, PassesCap, fits]
      · intro skipped overflow absent clean exceeds
        by_cases empty : chunk = []
        · subst chunk
          rw [separatorsKept_cons_nil absent,
            ← (ih separated).2 skipped overflow absent (by simpa using clean) exceeds]
          simp
        · have boundary : ¬ Straddles sep skipped (self.buf ++ chunk) := fun straddles =>
            clean (straddles.append chunks.flatten)
          have joined := cut?_append_of_none (self.buf ++ chunk)
            (cut?_left_of_none absent) boundary
          rw [← List.append_assoc] at joined
          cases found : cut? sep (self.buf ++ chunk) with
          | none =>
              rw [found, Option.map_none] at joined
              rw [Framer.feed_of_overflow_none separated overflow empty found,
                separatorsKept_cons_of_over joined (by simp; omega), List.nil_append,
                List.append_assoc skipped]
              exact (@ih { self with buf := self.buf ++ chunk } separated).2
                skipped overflow (by simpa using joined) clean exceeds
          | some cut =>
              obtain ⟨raw, later⟩ := cut
              rw [found, Option.map_some] at joined
              have finished := pieces_of_some joined
              rw [Framer.feed_of_overflow_some separated overflow empty found,
                skip_of_some (cut?_append_of_some _ found), settled]
              simp [SeparatorsKept, PassesCap, finished, -List.append_assoc]

theorem Framer.feed_config (self : Framer) (data : Bytes) :
    (self.feed data).2.mode = self.mode ∧ (self.feed data).2.max = self.max := by
  unfold Framer.feed
  split
  · exact ⟨rfl, rfl⟩
  · split
    · exact ⟨rfl, rfl⟩
    · dsimp only
      split <;> exact ⟨rfl, rfl⟩

theorem Framer.frame_final {sep : Separator UInt8} {self : Framer}
    (separated : separators self.mode = some sep) (chunks : List Bytes) :
    (self.frame chunks).2 = Framer.fresh self.mode self.max self.max_pos := by
  induction chunks generalizing self with
  | nil =>
      rw [Framer.frame_nil]
      cases overflow : self.overflow with
      | true => rw [Framer.flush_of_overflow separated overflow]; rfl
      | false => rw [Framer.flush_of_clear separated overflow]; rfl
  | cons chunk chunks ih =>
      obtain ⟨mode, max⟩ := self.feed_config chunk
      rw [Framer.frame_cons]
      dsimp only
      rw [ih (by rw [mode]; exact separated)]
      simp only [mode, max]

theorem lfSeparator_single : lfSeparator.symbols.length = 1 := rfl

theorem crlfSeparator_resumes : Resumes crlfSeparator :=
  resumes_of_pair rfl (by decide)

/-- A fresh separated framer meets the reference exactly when the chunk
boundaries keep the separators. -/
theorem Framer.fresh_frame_eq_reference_iff {sep : Separator UInt8} (resumes : Resumes sep)
    (mode : FramingMode) (separated : separators mode = some sep) (max : Nat)
    (max_pos : 0 < max) (chunks : List Bytes) :
    ((Framer.fresh mode max max_pos).frame chunks).1 =
        referenceFrame sep max chunks.flatten ↔
      SeparatorsKept sep max [] chunks := by
  have both := @Framer.frame_eq_reference_iff sep resumes (Framer.fresh mode max max_pos)
    separated chunks
  simpa [Framer.fresh] using both.1 rfl rfl (Nat.zero_le _)

/-- The LF framer is the reference for every chunking, and flushing it brings it
back to its initial state. -/
theorem lf_frame_eq_reference (max : Nat) (max_pos : 0 < max) (stream : Bytes)
    (chunks : List Bytes) (whole : chunks.flatten = stream) :
    (Framer.fresh .lf max max_pos).frame chunks =
      (referenceFrame lfSeparator max stream, Framer.fresh .lf max max_pos) := by
  subst whole
  apply Prod.ext
  · exact (Framer.fresh_frame_eq_reference_iff (resumes_of_length_one lfSeparator_single)
      .lf rfl max max_pos chunks).mpr
      (separatorsKept_of_length_one lfSeparator_single max [] chunks)
  · exact Framer.frame_final rfl chunks

/-- An oversized record cut into three reads, swallowed up to its separator. -/
theorem lf_frame_eq_reference_oversized :
    (Framer.fresh .lf 4 (by decide)).frame
        [[0x61, 0x62, 0x63], [], [0x64, 0x65], [0x66, 0x0A, 0x67]] =
      (referenceFrame lfSeparator 4 [0x61, 0x62, 0x63, 0x64, 0x65, 0x66, 0x0A, 0x67],
        Framer.fresh .lf 4 (by decide)) :=
  lf_frame_eq_reference 4 (by decide) _ _ rfl

/-- Two chunkings of one stream agree with each other and with the reference
exactly when both keep the separators at the cap. -/
theorem crlf_frame_chunk_independent_iff (max : Nat) (max_pos : 0 < max) (stream : Bytes)
    (first second : List Bytes) (firstWhole : first.flatten = stream)
    (secondWhole : second.flatten = stream) :
    (((Framer.fresh .crlf max max_pos).frame first).1 =
          ((Framer.fresh .crlf max max_pos).frame second).1 ∧
        ((Framer.fresh .crlf max max_pos).frame first).1 =
          referenceFrame crlfSeparator max stream) ↔
      SeparatorsKept crlfSeparator max [] first ∧
        SeparatorsKept crlfSeparator max [] second := by
  have firstExact := Framer.fresh_frame_eq_reference_iff crlfSeparator_resumes .crlf rfl
    max max_pos first
  have secondExact := Framer.fresh_frame_eq_reference_iff crlfSeparator_resumes .crlf rfl
    max max_pos second
  rw [firstWhole] at firstExact
  rw [secondWhole] at secondExact
  rw [← firstExact, ← secondExact]
  constructor
  · intro both
    obtain ⟨agree, exact⟩ := both
    exact ⟨exact, agree ▸ exact⟩
  · intro both
    obtain ⟨exact, other⟩ := both
    exact ⟨exact.trans other.symm, exact⟩

/-- Small records survive a separator cut in two. -/
theorem crlf_frame_chunk_independent_small :
    ((Framer.fresh .crlf 4 (by decide)).frame [[0x61, 0x0D], [0x0A, 0x62]]).1 =
        ((Framer.fresh .crlf 4 (by decide)).frame [[0x61, 0x0D, 0x0A, 0x62]]).1 ∧
      ((Framer.fresh .crlf 4 (by decide)).frame [[0x61, 0x0D], [0x0A, 0x62]]).1 =
        referenceFrame crlfSeparator 4 [0x61, 0x0D, 0x0A, 0x62] :=
  (crlf_frame_chunk_independent_iff 4 (by decide) [0x61, 0x0D, 0x0A, 0x62]
    [[0x61, 0x0D], [0x0A, 0x62]] [[0x61, 0x0D, 0x0A, 0x62]] rfl rfl).mpr
    ⟨separatorsKept_of_short (by decide), separatorsKept_of_short (by decide)⟩

/-- At the cap a cut between CR and LF flags an exact record as truncated and
swallows the record after it. -/
theorem crlf_frame_not_chunk_independent :
    [[0x61, 0x0D], [0x0A, 0x62, 0x0D, 0x0A]].flatten =
        [[0x61, 0x0D, 0x0A, 0x62, 0x0D, 0x0A]].flatten ∧
      ((Framer.fresh .crlf 1 (by decide)).frame [[0x61, 0x0D], [0x0A, 0x62, 0x0D, 0x0A]]).1 =
        [{ payload := [0x61], truncated := true }] ∧
      ((Framer.fresh .crlf 1 (by decide)).frame [[0x61, 0x0D, 0x0A, 0x62, 0x0D, 0x0A]]).1 =
        [{ payload := [0x61] }, { payload := [0x62] }] ∧
      referenceFrame crlfSeparator 1 [0x61, 0x0D, 0x0A, 0x62, 0x0D, 0x0A] =
        [{ payload := [0x61] }, { payload := [0x62] }] := by
  decide +kernel

end TcpSim.Engine
