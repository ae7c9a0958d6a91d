import TcpSim.Engine.FramerProperties
import TcpSim.Engine.SinkFile
import TcpSim.Lib.Utf8

/-! The JSON Lines format read back: one line for each record, and in it all that a reader
needs to have the record's bytes again. -/

set_option autoImplicit false

namespace TcpSim.Engine

open Splitting

/-! ## Base64 -/

/-- The place of a character in the alphabet. -/
def base64Value (c : Char) : Option Nat :=
  let code := c.toNat
  if 0x41 ≤ code ∧ code ≤ 0x5A then some (code - 0x41)
  else if 0x61 ≤ code ∧ code ≤ 0x7A then some (code - 0x61 + 26)
  else if 0x30 ≤ code ∧ code ≤ 0x39 then some (code - 0x30 + 52)
  else if c = '+' then some 62
  else if c = '/' then some 63
  else none

/-- `base64.b64decode` of padded text; other text is not decoded here. -/
def b64decode : List Char → Option Bytes
  | [] => some []
  | a :: b :: c :: d :: rest =>
      match base64Value a, base64Value b, base64Value c, base64Value d with
      | some w, some x, some y, some z =>
          (b64decode rest).map
            ([(w * 4 + x / 16).toUInt8, (x % 16 * 16 + y / 4).toUInt8, (y % 4 * 64 + z).toUInt8] ++ ·)
      | some w, some x, some y, none =>
          if d = '=' ∧ rest = [] then
            some [(w * 4 + x / 16).toUInt8, (x % 16 * 16 + y / 4).toUInt8]
          else none
      | some w, some x, none, none =>
          if c = '=' ∧ d = '=' ∧ rest = [] then some [(w * 4 + x / 16).toUInt8] else none
      | _, _, _, _ => none
  | _ => none

theorem base64Value_digit {value : Nat} (small : value < 64) :
    base64Value (base64Digit value) = some value := by
  revert value
  decide

private theorem toUInt8_eq {byte : UInt8} {value : Nat} (same : value = byte.toNat) :
    value.toUInt8 = byte := by
  rw [same]
  exact UInt8.ofNat_toNat

theorem b64decode_b64encode (bytes : Bytes) : b64decode (b64encode bytes) = some bytes := by
  have pad : base64Value '=' = none := by decide
  induction bytes using b64encode.induct with
  | case1 => rfl
  | case2 a =>
      have low := a.toNat_lt
      have first : (a.toNat / 4 * 4 + a.toNat % 4 * 16 / 16).toUInt8 = a := toUInt8_eq (by omega)
      rw [b64encode, b64decode, base64Value_digit (by omega), base64Value_digit (by omega)]
      simp only [pad, and_self, if_true, first]
  | case3 a b =>
      have lowA := a.toNat_lt
      have lowB := b.toNat_lt
      have first : (a.toNat / 4 * 4 + (a.toNat % 4 * 16 + b.toNat / 16) / 16).toUInt8 = a :=
        toUInt8_eq (by omega)
      have second : ((a.toNat % 4 * 16 + b.toNat / 16) % 16 * 16 + b.toNat % 16 * 4 / 4).toUInt8 =
          b := toUInt8_eq (by omega)
      rw [b64encode, b64decode, base64Value_digit (by omega), base64Value_digit (by omega),
        base64Value_digit (by omega)]
      simp only [pad, and_self, if_true, first, second]
  | case4 a b c rest ih =>
      have lowA := a.toNat_lt
      have lowB := b.toNat_lt
      have lowC := c.toNat_lt
      have first : (a.toNat / 4 * 4 + (a.toNat % 4 * 16 + b.toNat / 16) / 16).toUInt8 = a :=
        toUInt8_eq (by omega)
      have second : ((a.toNat % 4 * 16 + b.toNat / 16) % 16 * 16 +
          (b.toNat % 16 * 4 + c.toNat / 64) / 4).toUInt8 = b := toUInt8_eq (by omega)
      have third : ((b.toNat % 16 * 4 + c.toNat / 64) % 4 * 64 + c.toNat % 64).toUInt8 = c :=
        toUInt8_eq (by omega)
      rw [b64encode, b64decode, base64Value_digit (by omega), base64Value_digit (by omega),
        base64Value_digit (by omega), base64Value_digit (by omega)]
      simp only [ih, Option.map_some, first, second, third]
      rfl

/-! ## One line for each record -/

private theorem hexDigit_printable (digit : Nat) (small : digit < 16) : 0x20 ≤ hexDigit digit := by
  revert digit
  decide

private theorem unicodeEscape_printable (unit : Nat) :
    ∀ byte ∈ jsonUnicodeEscape unit, 0x20 ≤ byte := by
  have digit (n : Nat) : 0x20 ≤ hexDigit (n % 0x10) :=
    hexDigit_printable (n % 0x10) (Nat.mod_lt n (by decide))
  simp [jsonUnicodeEscape, digit]

private theorem toUInt8_printable {code : Nat} (low : 0x20 ≤ code) (high : code ≤ 0x7E) :
    (0x20 : UInt8) ≤ code.toUInt8 := by
  change 0x20 ≤ code % 256
  omega

private theorem escapeChar_printable (c : Char) : ∀ byte ∈ jsonEscapeChar c, 0x20 ≤ byte := by
  unfold jsonEscapeChar
  dsimp only
  -- the seven two-character escapes
  iterate 7
    split
    · simp
  split
  next printable => simpa using toUInt8_printable printable.1 printable.2
  next =>
    split
    · exact unicodeEscape_printable _
    · rw [List.forall_mem_append]
      exact ⟨unicodeEscape_printable _, unicodeEscape_printable _⟩

/-- Control characters are escaped. -/
theorem jsonString_printable (text : String) : ∀ byte ∈ jsonString text, 0x20 ≤ byte := by
  have escaped : ∀ byte ∈ text.toList.flatMap jsonEscapeChar, 0x20 ≤ byte := by
    intro byte member
    obtain ⟨c, _, inside⟩ := List.mem_flatMap.mp member
    exact escapeChar_printable c byte inside
  rw [jsonString, List.forall_mem_append, List.forall_mem_append]
  exact ⟨⟨by simp, escaped⟩, by simp⟩

private theorem newline_not_mem_jsonString (text : String) : (0x0A : UInt8) ∉ jsonString text :=
  fun member => absurd (jsonString_printable text _ member) (by decide)

private theorem newline_not_mem_number (value : Nat) : (0x0A : UInt8) ∉ ascii (toString value) := by
  unfold ascii
  rw [List.mem_map]
  rintro ⟨c, member, same⟩
  rw [Nat.toString_eq_repr, Nat.toList_repr] at member
  obtain ⟨low, high⟩ := Char.isDigit_iff_toNat.mp (Nat.isDigit_of_mem_toDigits (by decide) (by decide) member)
  have zero : '0'.toNat = 0x30 := rfl
  have nine : '9'.toNat = 0x39 := rfl
  have printable := @toUInt8_printable c.toNat (by omega) (by omega)
  rw [same] at printable
  exact absurd printable (by decide)

private theorem newline_not_mem_dumps (value : JsonValue) : (0x0A : UInt8) ∉ value.dumps := by
  cases value with
  | string text => exact newline_not_mem_jsonString text
  | number value => exact newline_not_mem_number value
  | bool value => cases value <;> decide

theorem newline_not_mem_jsonDumps (fields : List (String × JsonValue)) :
    (0x0A : UInt8) ∉ jsonDumps fields := by
  have members : (0x0A : UInt8) ∉ List.intercalate [0x2C]
      (fields.map fun field => jsonString field.1 ++ [0x3A] ++ field.2.dumps) := by
    apply not_mem_intercalate (by decide)
    intro part member
    obtain ⟨field, _, rfl⟩ := List.mem_map.mp member
    simp [newline_not_mem_jsonString, newline_not_mem_dumps]
  simp only [jsonDumps, List.mem_append, not_or]
  exact ⟨⟨by decide, members⟩, by decide⟩

/-! ## Reading a line -/

/-- What a reader has of a record. -/
structure ReadRecord where
  src : String
  truncated : Bool
  bytesLen : Nat
  payload : Bytes
  deriving DecidableEq, Repr

/-- A line's object taken apart: the payload is Base64 when the object says so, and text
otherwise. -/
def readRecord (object : List (String × JsonValue)) : Option ReadRecord :=
  match object.lookup "src", object.lookup "truncated", object.lookup "bytes_len",
      object.lookup "payload" with
  | some (.string src), some (.bool truncated), some (.number bytesLen), some (.string text) =>
      let payload :=
        if object.lookup "encoding" = some (.string "base64") then b64decode text.toList
        else some (Utf8.encode text.toList)
      payload.map fun payload => { src, truncated, bytesLen, payload }
  | _, _, _, _ => none

theorem readRecord_recordObject (item : QueueItem) (now : String) :
    readRecord (recordObject item now) = some {
      src := item.src
      truncated := item.record.truncated
      bytesLen := item.record.payload.length
      payload := item.record.payload } := by
  unfold recordObject
  cases decoded : decodeUtf8 item.record.payload with
  | some text =>
      have payload : Utf8.encode text.toList = item.record.payload := Utf8.encode_of_decode decoded
      simp [readRecord, List.lookup_cons, payload, QueueItem.size]
  | none =>
      simp [readRecord, List.lookup_cons, b64decode_b64encode, QueueItem.size]

/-! ## The whole output -/

/-- What a JSON Lines sink has written of any records, with any clock readings, is one line for
each of them, and each line gives its record back. -/
theorem jsonl_round_trip (loads : Bytes → Option (List (String × JsonValue))) {written : List WrittenRecord}
    (jsonl : ∀ entry ∈ written, entry.cfg.format = .jsonl)
    (inverts : ∀ entry ∈ written,
      loads (jsonDumps (recordObject entry.item entry.now)) = some (recordObject entry.item entry.now)) :
    let output := (written.map WrittenRecord.blob).flatten
    output.count 0x0A = written.length ∧
      (pieces lfSeparator output).2 = [] ∧
      (pieces lfSeparator output).1.map (fun line => (loads line).bind readRecord) =
        written.map fun entry => some {
          src := entry.item.src
          truncated := entry.item.record.truncated
          bytesLen := entry.item.record.payload.length
          payload := entry.item.record.payload } := by
  intro output
  let lines := written.map fun entry => jsonDumps (recordObject entry.item entry.now)
  have oneLine : ∀ line ∈ lines, (0x0A : UInt8) ∉ line := by
    intro line member
    obtain ⟨entry, _, rfl⟩ := List.mem_map.mp member
    exact newline_not_mem_jsonDumps _
  have terminated : output = (lines.map (· ++ [0x0A])).flatten := by
    unfold output lines
    rw [List.map_map]
    congr 1
    apply List.map_congr_left
    intro entry member
    simp only [WrittenRecord.blob, encode, jsonl entry member, Function.comp_apply]
  have parts : pieces lfSeparator output = (lines, []) := by
    rw [terminated]
    exact pieces_of_terminated (terminates_of_length_one lfSeparator_single)
      fun line member => cut?_of_not_mem List.mem_cons_self (oneLine line member)
  refine ⟨?_, ?_, ?_⟩
  · rw [terminated, count_terminated oneLine]
    exact List.length_map _
  · rw [parts]
  · rw [parts]
    unfold lines
    rw [List.map_map]
    apply List.map_congr_left
    intro entry member
    rw [Function.comp_apply, inverts entry member, Option.bind_some, readRecord_recordObject]

/-- A payload that is a newline, and one that is no text. -/
theorem jsonl_round_trip_newline_binary :
    let newline : WrittenRecord := {
      item := { record := { payload := [0x0A] }, src := "a" }
      cfg := { format := .jsonl }
      now := "" }
    let binary : WrittenRecord := {
      item := { record := { payload := [0xFF], truncated := true }, src := "b" }
      cfg := { format := .jsonl }
      now := "" }
    let output := newline.blob ++ binary.blob
    let objects := [newline, binary].map fun entry => recordObject entry.item entry.now
    let loads := fun line => objects.find? fun object => jsonDumps object = line
    (pieces lfSeparator output).1.map (fun line => (loads line).bind readRecord) =
      [some { src := "a", truncated := false, bytesLen := 1, payload := [0x0A] },
        some { src := "b", truncated := true, bytesLen := 1, payload := [0xFF] }] := by
  intro newline binary output objects loads
  have jsonl : ∀ entry ∈ [newline, binary], entry.cfg.format = .jsonl := by decide
  have inverts : ∀ entry ∈ [newline, binary],
      loads (jsonDumps (recordObject entry.item entry.now)) = some (recordObject entry.item entry.now) := by
    decide +kernel
  have whole : output = ([newline, binary].map WrittenRecord.blob).flatten := by
    simp [output]
  rw [whole]
  exact (jsonl_round_trip loads jsonl inverts).2.2

end TcpSim.Engine
