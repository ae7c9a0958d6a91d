import TcpSim.Engine.FramerProperties
import TcpSim.Engine.SinkFile

/-! What a delimited sink has written, framed once more: the records come back as they were. -/

set_option autoImplicit false

namespace TcpSim.Engine

open Splitting

inductive FramerCall where
  | feed (chunk : Bytes)
  | flush
  | reset

/-- The records that a call emits, and the framer after it. -/
def Framer.call (self : Framer) : FramerCall → List FramedRecord × Framer
  | .feed chunk => self.feed chunk
  | .flush => (self.flush.1.toList, self.flush.2)
  | .reset => ([], self.reset)

def Framer.run (self : Framer) : List FramerCall → List FramedRecord × Framer
  | [] => ([], self)
  | call :: calls =>
      let (out, next) := self.call call
      let (more, last) := next.run calls
      (out ++ more, last)

/-- A payload that can be written and read again: no separator in it, and within the cap. -/
structure Whole (sep : Separator UInt8) (max : Nat) (record : FramedRecord) : Prop where
  absent : cut? sep record.payload = none
  within : record.payload.length ≤ max

theorem whole_take {sep : Separator UInt8} {raw : Bytes} (absent : cut? sep raw = none) (max : Nat)
    (truncated : Bool) : Whole sep max { payload := raw.take max, truncated } where
  absent := cut?_take_of_none absent max
  within := List.length_take_le max raw

namespace Framer

variable {self : Framer} {sep : Separator UInt8}

/-- What a call leaves as it is, and what it emits. -/
structure Emits (sep : Separator UInt8) (self : Framer) (out : List FramedRecord) (next : Framer) : Prop where
  mode : next.mode = self.mode
  max : next.max = self.max
  held : cut? sep next.buf = none
  whole : ∀ record ∈ out, Whole sep self.max record

theorem settle_emits (self : Framer) (sep : Separator UInt8) (stream : Bytes) :
    Emits sep self (self.settle sep stream).1 (self.settle sep stream).2 := by
  have terminated : ∀ record ∈ (pieces sep stream).1.map (referenceRecord self.max),
      Whole sep self.max record := by
    intro record member
    obtain ⟨piece, isPiece, rfl⟩ := List.mem_map.mp member
    exact whole_take (cut?_of_mem_pieces isPiece) self.max _
  by_cases exceeds : self.max < (pieces sep stream).2.length
  · rw [settle_of_gt exceeds]
    refine ⟨rfl, rfl, rfl, ?_⟩
    intro record member
    rcases List.mem_append.mp member with isTerminated | isEarly
    · exact terminated record isTerminated
    · rw [List.mem_singleton.mp isEarly]
      exact whole_take (cut?_tail sep stream) self.max true
  · rw [settle_of_le (Nat.le_of_not_lt exceeds)]
    exact ⟨rfl, rfl, cut?_tail sep stream, terminated⟩

theorem feed_emits (separated : separators self.mode = some sep) (held : cut? sep self.buf = none)
    (chunk : Bytes) : Emits sep self (self.feed chunk).1 (self.feed chunk).2 := by
  by_cases empty : chunk = []
  · rw [empty, feed_nil]
    exact ⟨rfl, rfl, held, by simp⟩
  cases overflow : self.overflow with
  | false =>
      rw [feed_of_clear separated overflow empty]
      exact settle_emits self sep _
  | true =>
      cases found : cut? sep (self.buf ++ chunk) with
      | none =>
          rw [feed_of_overflow_none separated overflow empty found]
          exact ⟨rfl, rfl, found, by simp⟩
      | some cut =>
          rw [feed_of_overflow_some separated overflow empty found]
          exact settle_emits self sep _

theorem flush_emits (separated : separators self.mode = some sep) (held : cut? sep self.buf = none) :
    Emits sep self self.flush.1.toList self.flush.2 := by
  cases overflow : self.overflow with
  | true =>
      rw [flush_of_overflow separated overflow]
      exact ⟨rfl, rfl, rfl, by simp⟩
  | false =>
      rw [flush_of_clear separated overflow]
      refine ⟨rfl, rfl, rfl, ?_⟩
      intro record member
      dsimp only at member
      split at member
      · cases member
      · rw [List.mem_singleton.mp member]
        exact whole_take held self.max _

theorem call_emits (separated : separators self.mode = some sep) (held : cut? sep self.buf = none)
    (call : FramerCall) : Emits sep self (self.call call).1 (self.call call).2 := by
  cases call with
  | feed chunk => exact feed_emits separated held chunk
  | flush => exact flush_emits separated held
  | reset => exact ⟨rfl, rfl, rfl, by simp [Framer.call]⟩

theorem run_whole (separated : separators self.mode = some sep) (held : cut? sep self.buf = none)
    (calls : List FramerCall) : ∀ record ∈ (self.run calls).1, Whole sep self.max record := by
  induction calls generalizing self with
  | nil => simp [Framer.run]
  | cons call calls ih =>
      obtain ⟨mode, max, stillHeld, whole⟩ := call_emits separated held call
      have later := @ih (self.call call).2 (mode ▸ separated) stillHeld
      rw [max] at later
      intro record member
      rcases List.mem_append.mp member with now | afterwards
      · exact whole record now
      · exact later record afterwards

end Framer

/-- A separator of the framer is found where the sink has put it. -/
theorem separators_terminate {mode : FramingMode} {sep : Separator UInt8}
    (separated : separators mode = some sep) : Terminates sep := by
  cases mode with
  | lf =>
      cases separated
      exact terminates_of_length_one lfSeparator_single
  | crlf =>
      cases separated
      exact @terminates_of_pair UInt8 crlfSeparator 0x0D 0x0A rfl (by decide)
  | rawChunk => cases separated

/-- Whatever a separated framer emitted, in whatever calls, its records come back from what a
sink with the same separator has written of them, none of them truncated. -/
theorem delimited_replay {mode : FramingMode} {sep : Separator UInt8}
    (separated : separators mode = some sep) (max : Nat) (max_pos : 0 < max) (calls : List FramerCall)
    {written : List WrittenRecord}
    (emitted : written.map (fun entry => entry.item.record) = ((Framer.fresh mode max max_pos).run calls).1)
    (delimited : ∀ entry ∈ written,
      entry.cfg.format = .delimited ∧ entry.cfg.recordSeparator = sep.symbols) :
    (Framer.fresh mode max max_pos).feed (written.map WrittenRecord.blob).flatten =
      (written.map fun entry => { payload := entry.item.record.payload, truncated := false },
        Framer.fresh mode max max_pos) := by
  have whole : ∀ entry ∈ written, Whole sep max entry.item.record := by
    intro entry member
    have isEmitted : entry.item.record ∈ ((Framer.fresh mode max max_pos).run calls).1 := by
      rw [← emitted]
      exact List.mem_map_of_mem member
    exact @Framer.run_whole (Framer.fresh mode max max_pos) sep separated rfl calls _ isEmitted
  have blobs : written.map WrittenRecord.blob =
      (written.map fun entry => entry.item.record.payload).map (· ++ sep.symbols) := by
    rw [List.map_map]
    apply List.map_congr_left
    intro entry member
    obtain ⟨format, separator⟩ := delimited entry member
    simp only [WrittenRecord.blob, encode, format, separator, Function.comp_apply]
  have absent : ∀ part ∈ written.map (fun entry => entry.item.record.payload), cut? sep part = none := by
    intro part member
    obtain ⟨entry, isEntry, rfl⟩ := List.mem_map.mp member
    exact (whole entry isEntry).absent
  have parts := pieces_of_terminated (separators_terminate separated) absent
  rw [← blobs] at parts
  cases written with
  | nil => exact Framer.feed_nil _
  | cons first rest =>
      have nonempty : ((first :: rest).map WrittenRecord.blob).flatten ≠ [] := by
        intro empty
        rw [empty, pieces_nil] at parts
        cases parts
      have stream : (Framer.fresh mode max max_pos).buf ++ ((first :: rest).map WrittenRecord.blob).flatten =
          ((first :: rest).map WrittenRecord.blob).flatten := List.nil_append _
      rw [Framer.feed_of_clear separated rfl nonempty, stream,
        Framer.settle_of_le (by rw [parts]; exact Nat.zero_le _), parts]
      refine Prod.ext ?_ rfl
      rw [List.map_map]
      apply List.map_congr_left
      intro entry member
      exact referenceRecord_of_le (whole entry member).within

/-- A payload that ends in a CR, one that is clamped, one that overflows before its separator comes,
one that is flushed, and one that is reset. -/
def cutCalls : List FramerCall :=
  [.feed [0x61, 0x0D, 0x0D, 0x0A, 0x62, 0x63, 0x64, 0x65, 0x66, 0x0D, 0x0A],
    .feed [0x67, 0x68, 0x69, 0x6A, 0x6B], .feed [0x6C, 0x0D, 0x0A, 0x6D], .flush, .feed [0x6E],
    .reset]

/-- A record as a sink has written it. -/
def writtenUnder (cfg : SinkConfig) (record : FramedRecord) : WrittenRecord where
  item := { record, src := "a:1" }
  cfg := cfg
  now := "2026-04-02T10:00:00Z"

theorem delimited_replay_cut_records :
    ((Framer.fresh .crlf 4 (by decide)).run cutCalls).1.map (·.truncated) =
      [false, true, true, false] ∧
    (Framer.fresh .crlf 4 (by decide)).feed
        [0x61, 0x0D, 0x0D, 0x0A, 0x62, 0x63, 0x64, 0x65, 0x0D, 0x0A, 0x67, 0x68, 0x69, 0x6A, 0x0D, 0x0A,
          0x6D, 0x0D, 0x0A] =
      ([{ payload := [0x61, 0x0D] }, { payload := [0x62, 0x63, 0x64, 0x65] },
        { payload := [0x67, 0x68, 0x69, 0x6A] }, { payload := [0x6D] }],
        Framer.fresh .crlf 4 (by decide)) := by
  have emitted : ((Framer.fresh .crlf 4 (by decide)).run cutCalls).1 =
      [{ payload := [0x61, 0x0D] }, { payload := [0x62, 0x63, 0x64, 0x65], truncated := true },
        { payload := [0x67, 0x68, 0x69, 0x6A], truncated := true }, { payload := [0x6D] }] := by
    decide +kernel
  let cfg : SinkConfig := { format := .delimited, recordSeparator := [0x0D, 0x0A] }
  have same : (((Framer.fresh .crlf 4 (by decide)).run cutCalls).1.map (writtenUnder cfg)).map
      (fun entry => entry.item.record) = ((Framer.fresh .crlf 4 (by decide)).run cutCalls).1 := by
    rw [List.map_map]
    exact List.map_id _
  have delimited : ∀ entry ∈ ((Framer.fresh .crlf 4 (by decide)).run cutCalls).1.map
      (writtenUnder cfg),
      entry.cfg.format = .delimited ∧ entry.cfg.recordSeparator = crlfSeparator.symbols := by
    intro entry written
    obtain ⟨record, _, rfl⟩ := List.mem_map.mp written
    exact ⟨rfl, rfl⟩
  have replayed := delimited_replay rfl 4 (by decide) cutCalls same delimited
  rw [emitted] at replayed ⊢
  exact ⟨rfl, replayed⟩

end TcpSim.Engine
