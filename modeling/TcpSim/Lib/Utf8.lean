import Mathlib.Data.List.Flatten

/-! UTF-8 text as bytes. An ASCII byte stands for its own character and for nothing else. -/

set_option autoImplicit false

namespace Utf8

def encode (text : List Char) : List UInt8 := text.flatMap String.utf8EncodeChar

/-- The bytes of a longer sequence are all above ASCII. -/
theorem ofNat_ne_ascii {byte : UInt8} (ascii : byte.toNat < 128) {value : Nat} (low : 128 ≤ value)
    (high : value < 256) : byte ≠ UInt8.ofNat value := by
  rintro rfl
  rw [UInt8.toNat_ofNat', Nat.mod_eq_of_lt high] at ascii
  omega

theorem mem_encodeChar_iff {byte : UInt8} (ascii : byte.toNat < 128) (character : Char) :
    byte ∈ String.utf8EncodeChar character ↔ character.val.toNat = byte.toNat := by
  have above : ∀ {value : Nat}, 128 ≤ value → value < 256 → byte ≠ UInt8.ofNat value :=
    fun low high => ofNat_ne_ascii ascii low high
  unfold String.utf8EncodeChar
  dsimp only
  split
  next one =>
      rw [List.mem_singleton, ← UInt8.toNat_inj, UInt8.toNat_ofNat', Nat.mod_eq_of_lt (by omega)]
      exact eq_comm
  next more =>
      refine iff_of_false ?_ (by omega)
      split
      next =>
          simp only [List.mem_cons, List.not_mem_nil, or_false, not_or]
          exact ⟨above (by omega) (by omega), above (by omega) (by omega)⟩
      next =>
          split
          next =>
              simp only [List.mem_cons, List.not_mem_nil, or_false, not_or]
              exact ⟨above (by omega) (by omega), above (by omega) (by omega), above (by omega) (by omega)⟩
          next =>
              simp only [List.mem_cons, List.not_mem_nil, or_false, not_or]
              exact ⟨above (by omega) (by omega), above (by omega) (by omega),
                above (by omega) (by omega), above (by omega) (by omega)⟩

theorem mem_encode_iff {character : Char} (ascii : character.val.toNat < 128) (text : List Char) :
    UInt8.ofNat character.val.toNat ∈ encode text ↔ character ∈ text := by
  have value : (UInt8.ofNat character.val.toNat).toNat = character.val.toNat := by
    rw [UInt8.toNat_ofNat', Nat.mod_eq_of_lt (by omega)]
  have same : ∀ other : Char, other.val.toNat = character.val.toNat ↔ other = character := by
    intro other
    rw [UInt32.toNat_inj, Char.val_inj]
  unfold encode
  rw [List.mem_flatMap]
  have ascii : (UInt8.ofNat character.val.toNat).toNat < 128 := by omega
  simp only [mem_encodeChar_iff ascii, value, same, exists_eq_right]

theorem encode_append (front back : List Char) : encode (front ++ back) = encode front ++ encode back :=
  List.flatMap_append

theorem encode_ne_nil {text : List Char} (filled : text ≠ []) : encode text ≠ [] := by
  obtain ⟨character, member⟩ := List.exists_mem_of_ne_nil text filled
  obtain ⟨byte, isFirst⟩ := List.exists_mem_of_ne_nil _ (@String.utf8EncodeChar_ne_nil character)
  exact List.ne_nil_of_mem (List.mem_flatMap.mpr ⟨character, member, isFirst⟩)

/-! ## Decoding -/

/-- Strict: nothing but the encoding of a text is decoded. -/
def decode (bytes : List UInt8) : Option String := String.fromUTF8? ⟨bytes.toArray⟩

theorem encode_toByteArray (text : String) : ⟨(encode text.toList).toArray⟩ = text.toByteArray := by
  rw [← String.utf8Encode_toList, List.utf8Encode]
  apply ByteArray.ext
  simp [encode]

theorem decode_encode (text : String) : decode (encode text.toList) = some text := by
  unfold decode String.fromUTF8?
  rw [encode_toByteArray, dif_pos text.isValidUTF8]
  rfl

theorem encode_of_decode {bytes : List UInt8} {text : String} (decoded : decode bytes = some text) :
    encode text.toList = bytes := by
  unfold decode String.fromUTF8? at decoded
  split at decoded
  next valid =>
      have same : text.toByteArray = ⟨bytes.toArray⟩ := by
        cases decoded
        rfl
      rw [← encode_toByteArray] at same
      simpa using congrArg (fun array : ByteArray => array.data.toList) same
  next => cases decoded

end Utf8
