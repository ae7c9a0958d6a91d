import TcpSim.Engine.FramerProperties

/-! How much a framer can emit: the payload it hands out was fed to it before, and
no more than a record's worth of it is held back between two feeds. -/

set_option autoImplicit false

namespace TcpSim.Engine

open Splitting

def volume (records : List FramedRecord) : Nat := (records.map FramedRecord.payload).flatten.length

@[simp] theorem volume_nil : volume [] = 0 := rfl

@[simp] theorem volume_cons (record : FramedRecord) (records : List FramedRecord) :
    volume (record :: records) = record.payload.length + volume records := by
  simp [volume]

@[simp] theorem volume_append (left right : List FramedRecord) :
    volume (left ++ right) = volume left + volume right := by
  simp [volume]

theorem referenceRecord_length_le (max : Nat) (raw : Bytes) :
    (referenceRecord max raw).payload.length ≤ raw.length :=
  List.length_take_le' max raw

theorem volume_references_le (max : Nat) (raws : List Bytes) :
    volume (raws.map (referenceRecord max)) ≤ raws.flatten.length := by
  induction raws with
  | nil => simp
  | cons raw rest ih =>
      have first := referenceRecord_length_le max raw
      simp only [List.map_cons, volume_cons, List.flatten_cons, List.length_append]
      omega

/-- The buffered bytes that may still become payload. -/
def Framer.held (self : Framer) : Nat := if self.overflow then 0 else self.buf.length

/-- Between two feeds: the buffer holds no separator and is within the cap. -/
structure Framer.Sound (framer : Framer) (max : Nat) : Prop where
  cap : framer.max = max
  unseparated : ∀ sep, separators framer.mode = some sep → cut? sep framer.buf = none
  held_le : framer.held ≤ max

theorem Framer.fresh_sound (mode : FramingMode) (max : Nat) (max_pos : 0 < max) :
    (Framer.fresh mode max max_pos).Sound max where
  cap := rfl
  unseparated := fun _ _ => rfl
  held_le := Nat.zero_le _

theorem Framer.settle_volume (self : Framer) {sep : Separator UInt8} (stream : Bytes)
    (separated : separators self.mode = some sep) :
    (self.settle sep stream).2.Sound self.max ∧
      volume (self.settle sep stream).1 + (self.settle sep stream).2.held ≤ stream.length := by
  have whole := pieces_length_le sep stream
  have emitted := volume_references_le self.max (pieces sep stream).1
  by_cases fits : (pieces sep stream).2.length ≤ self.max
  · rw [Framer.settle_of_le fits]
    refine ⟨⟨rfl, ?_, ?_⟩, ?_⟩
    · intro other same
      obtain rfl := Option.some.inj (separated.symm.trans same)
      exact cut?_tail sep stream
    · simpa [Framer.held] using fits
    · simp only [Framer.held, Bool.false_eq_true, if_false]
      omega
  · rw [Framer.settle_of_gt (by omega)]
    refine ⟨⟨rfl, fun _ _ => rfl, by simp [Framer.held]⟩, ?_⟩
    simp only [volume_append, volume_cons, volume_nil, List.length_take, Framer.held, if_true]
    omega

theorem Framer.feed_volume {self : Framer} {max : Nat} (sound : self.Sound max) (data : Bytes) :
    (self.feed data).2.Sound max ∧
      volume (self.feed data).1 + (self.feed data).2.held ≤ self.held + data.length := by
  by_cases empty : data = []
  · subst empty
    rw [Framer.feed_nil]
    exact ⟨sound, by simp⟩
  obtain rfl := sound.cap
  cases separated : separators self.mode with
  | none =>
      have fed : self.feed data = ([clamp self.max data], self) := by
        simp [Framer.feed, empty, separated]
      have short := referenceRecord_length_le self.max data
      rw [fed, clamp_eq_referenceRecord]
      refine ⟨sound, ?_⟩
      simp only [volume_cons, volume_nil]
      omega
  | some sep =>
      cases overflow : self.overflow with
      | false =>
          rw [Framer.feed_of_clear separated overflow empty]
          have settled := self.settle_volume (self.buf ++ data) separated
          simpa [Framer.held, overflow] using settled
      | true =>
          cases found : cut? sep (self.buf ++ data) with
          | none =>
              rw [Framer.feed_of_overflow_none separated overflow empty found]
              refine ⟨⟨rfl, ?_, by simp [Framer.held, overflow]⟩, by simp [Framer.held, overflow]⟩
              intro other same
              obtain rfl := Option.some.inj (separated.symm.trans same)
              exact found
          | some cut =>
              obtain ⟨raw, later⟩ := cut
              have within := cut?_rest_length_le (sound.unseparated sep separated) found
              rw [Framer.feed_of_overflow_some separated overflow empty found]
              obtain ⟨settled, bounded⟩ := self.settle_volume later separated
              exact ⟨settled, by omega⟩

theorem Framer.flush_volume {self : Framer} {max : Nat} (sound : self.Sound max) :
    self.flush.2.Sound max ∧ volume self.flush.1.toList + self.flush.2.held ≤ self.held := by
  obtain rfl := sound.cap
  cases separated : separators self.mode with
  | none =>
      have mode : self.mode = .rawChunk := by
        cases mode : self.mode with
        | rawChunk => rfl
        | lf | crlf => simp [mode, separators] at separated
      have flushed : self.flush = (none, self) := by simp [Framer.flush, mode]
      rw [flushed]
      exact ⟨sound, by simp⟩
  | some sep =>
      cases overflow : self.overflow with
      | true =>
          rw [Framer.flush_of_overflow separated overflow]
          exact ⟨⟨rfl, fun _ _ => rfl, by simp [Framer.held]⟩, by simp [Framer.held]⟩
      | false =>
          have short := referenceRecord_length_le self.max self.buf
          rw [Framer.flush_of_clear separated overflow]
          refine ⟨⟨rfl, fun _ _ => rfl, by simp [Framer.held]⟩, ?_⟩
          by_cases empty : self.buf = []
          · simp [Framer.held, empty]
          · simpa [Framer.held, empty, overflow] using short

end TcpSim.Engine
