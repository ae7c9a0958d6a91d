import TcpSim.Config.Migration
import TcpSim.Engine.JsonLines
import Mathlib.Data.Finset.Sort
import Mathlib.Data.String.Basic

/-! What `json.dumps` makes of a configuration, with an indentation of two and sorted keys. -/

set_option autoImplicit false

namespace TcpSim.Config

/-! ## Encoding -/

/-- A line break and the indentation of a level. -/
def lineBreak (level : Nat) : List Char := '\n' :: List.replicate (2 * level) ' '

/-- A string literal, which is ASCII. -/
def stringText (text : String) : List Char :=
  (Engine.jsonString text).map fun byte => Char.ofNat byte.toNat

/-- An array or an object, with a line for each of its parts. -/
def layoutParts (level : Nat) (first last : Char) (parts : List (List Char)) : List Char :=
  if parts = [] then [first, last]
  else
    first :: lineBreak (level + 1) ++
      List.intercalate (',' :: lineBreak (level + 1)) parts ++ lineBreak level ++ [last]

mutual

def Json.layout (level : Nat) : Json → List Char
  | .null => "null".toList
  | .bool value => (if value then "true" else "false").toList
  | .int value => (toString value).toList
  | .float text => text.toList
  | .string text => stringText text
  | .array items => layoutParts level '[' ']' (layoutItems level items)
  | .object members => layoutParts level '{' '}' (layoutMembers level members)

def layoutItems (level : Nat) : List Json → List (List Char)
  | [] => []
  | item :: rest => item.layout (level + 1) :: layoutItems level rest

/-- In the order of the keys. -/
def layoutMembers (level : Nat) : Members → List (List Char)
  | ⟨keys, value⟩ => (keys.sort (· ≤ ·)).attach.map fun key =>
      stringText key.1 ++ ": ".toList ++
        (value ⟨key.1, (Finset.mem_sort _).mp key.2⟩).layout (level + 1)

end

def jsonDumps (value : Json) : String := String.ofList (value.layout 0)

/-! ## Carriage returns -/

/-- The `repr` of a float is on one line. -/
inductive Json.FloatsInLine : Json → Prop where
  | null : FloatsInLine .null
  | bool (value : Bool) : FloatsInLine (.bool value)
  | int (value : Int) : FloatsInLine (.int value)
  | float {text : String} (absent : '\r' ∉ text.toList) : FloatsInLine (.float text)
  | string (text : String) : FloatsInLine (.string text)
  | array {items : List Json} (all : ∀ item ∈ items, FloatsInLine item) :
      FloatsInLine (.array items)
  | object {members : Members}
      (all : ∀ key value, members.get? key = some value → FloatsInLine value) :
      FloatsInLine (.object members)

theorem return_not_mem_lineBreak (level : Nat) : '\r' ∉ lineBreak level := by
  simp [lineBreak, List.mem_replicate]

theorem return_not_mem_stringText (text : String) : '\r' ∉ stringText text := by
  intro member
  obtain ⟨byte, inside, same⟩ := List.mem_map.mp member
  have low : 0x20 ≤ byte.toNat := Engine.jsonString_printable text byte inside
  have code : (Char.ofNat byte.toNat).toNat = byte.toNat := by
    rw [Char.ofNat, dif_pos (.inl (byte.toNat_lt.trans (by decide)))]
    rfl
  rw [same] at code
  have control : '\r'.toNat = 0x0D := rfl
  omega

theorem return_not_mem_int (value : Int) : '\r' ∉ (toString value).toList := by
  have digits (magnitude : Nat) : '\r' ∉ magnitude.repr.toList := by
    rw [Nat.toList_repr]
    intro member
    exact absurd (Nat.isDigit_of_mem_toDigits (by decide) (by decide) member) (by decide)
  rw [Int.toString_eq_repr, Int.repr_eq_if]
  split
  · exact digits _
  · rw [String.toList_append, List.mem_append, not_or]
    exact ⟨by decide, digits _⟩

theorem return_not_mem_layoutParts (level : Nat) {first last : Char} (opens : '\r' ≠ first)
    (closes : '\r' ≠ last) {parts : List (List Char)} (absent : ∀ part ∈ parts, '\r' ∉ part) :
    '\r' ∉ layoutParts level first last parts := by
  have between : '\r' ∉ ',' :: lineBreak (level + 1) := by
    simp [return_not_mem_lineBreak]
  have inside := Splitting.not_mem_intercalate between absent
  unfold layoutParts
  split
  · simp [opens, closes]
  · simp [opens, closes, inside, return_not_mem_lineBreak]

theorem layoutItems_eq (level : Nat) (items : List Json) :
    layoutItems level items = items.map fun item => item.layout (level + 1) := by
  induction items with
  | nil => rw [layoutItems, List.map_nil]
  | cons item rest ih => rw [layoutItems, ih, List.map_cons]

theorem mem_layoutMembers {level : Nat} {members : Members} {part : List Char}
    (member : part ∈ layoutMembers level members) : ∃ key value,
      members.get? key = some value ∧
        part = stringText key ++ ": ".toList ++ value.layout (level + 1) := by
  obtain ⟨keys, values⟩ := members
  rw [layoutMembers] at member
  obtain ⟨key, _, rfl⟩ := List.mem_map.mp member
  have present : key.1 ∈ keys := (Finset.mem_sort _).mp key.2
  exact ⟨key.1, values ⟨key.1, present⟩, dif_pos present, rfl⟩

theorem Json.FloatsInLine.layout {value : Json} (floats : value.FloatsInLine) (level : Nat) :
    '\r' ∉ value.layout level := by
  induction floats generalizing level with
  | null =>
      rw [Json.layout]
      decide
  | bool value =>
      rw [Json.layout]
      cases value <;> decide
  | int value =>
      rw [Json.layout]
      exact return_not_mem_int value
  | float absent =>
      rw [Json.layout]
      exact absent
  | string text =>
      rw [Json.layout]
      exact return_not_mem_stringText text
  | array _ ih =>
      rw [Json.layout, layoutItems_eq]
      apply return_not_mem_layoutParts level (by decide) (by decide)
      intro part member
      obtain ⟨item, inside, rfl⟩ := List.mem_map.mp member
      exact ih item inside (level + 1)
  | object _ ih =>
      rw [Json.layout]
      apply return_not_mem_layoutParts level (by decide) (by decide)
      intro part member
      obtain ⟨key, value, found, rfl⟩ := mem_layoutMembers member
      have key_ := return_not_mem_stringText key
      have value_ := ih key value found (level + 1)
      simp [key_, value_]

/-! ## Configurations -/

namespace Json.FloatsInLine

theorem value_of_get? {members : Members} (floats : (Json.object members).FloatsInLine)
    {key : String} {value : Json} (found : members.get? key = some value) : value.FloatsInLine := by
  cases floats with
  | object all => exact all key value found

theorem ofList {entries : List (String × Json)} (all : ∀ entry ∈ entries, entry.2.FloatsInLine) :
    (Json.object (.ofList entries)).FloatsInLine := by
  refine .object fun key value found => ?_
  rw [FiniteMap.ofList_get?] at found
  obtain ⟨before, after, rfl, _⟩ := List.lookup_eq_some_iff.mp found
  exact all (key, value) (by simp)

theorem update {members override : Members} (floats : (Json.object members).FloatsInLine)
    (overriding : (Json.object override).FloatsInLine) :
    (Json.object (members.update override)).FloatsInLine := by
  refine .object fun key value found => ?_
  rw [FiniteMap.update_get?, Option.or_eq_some_iff] at found
  rcases found with overridden | ⟨_, kept⟩
  · exact overriding.value_of_get? overridden
  · exact floats.value_of_get? kept

theorem set {members : Members} (floats : (Json.object members).FloatsInLine) (key : String)
    {value : Json} (inLine : value.FloatsInLine) :
    (Json.object (members.set key value)).FloatsInLine := by
  refine .object fun other found isFound => ?_
  rw [FiniteMap.set_get?] at isFound
  by_cases same : other = key
  · rw [same, Function.update_self] at isFound
    exact Option.some.inj isFound ▸ inLine
  · rw [Function.update_of_ne same] at isFound
    exact floats.value_of_get? isFound

theorem asDict {value : Option Json} (inLine : ∀ given ∈ value, given.FloatsInLine)
    {members : Members} (isDict : value.bind Json.asDict? = some members) :
    (Json.object members).FloatsInLine := by
  obtain ⟨given, present, dict⟩ := Option.bind_eq_some_iff.mp isDict
  cases given with
  | object members =>
      cases dict
      exact inLine _ present
  | _ => cases dict

end Json.FloatsInLine

theorem defaultSinkConfig_floatsInLine : (Json.object defaultSinkConfig).FloatsInLine := by
  apply Json.FloatsInLine.ofList
  simp only [List.forall_mem_cons]
  exact ⟨.bool _, .null, .string _, .string _, .int _, .int _, .int _, .int _, .int _,
    List.forall_mem_nil _⟩

theorem defaultReceiverConfig_floatsInLine : (Json.object defaultReceiverConfig).FloatsInLine := by
  apply Json.FloatsInLine.ofList
  simp only [List.forall_mem_cons]
  exact ⟨.string _, .int _, .null, .string _, .null, .float (by decide), .bool _,
    defaultSinkConfig_floatsInLine, List.forall_mem_nil _⟩

theorem defaultConfig_floatsInLine : (Json.object defaultConfig).FloatsInLine := by
  apply Json.FloatsInLine.ofList
  simp only [List.forall_mem_cons]
  exact ⟨.int _, .string _, .string _, .string _, .string _, .int _, .string _, .string _, .bool _,
    .bool _, .int _, .bool _, .int _, .string _, .bool _, .null, .null, .null, .string _,
    .string _, .string _, .int _, .int _, .int _, .int _, .int _, .int _, .int _, .bool _, .null,
    .null, .null, .bool _, .null, .int _, .int _, .string _, .int _, .int _, .int _, .string _,
    defaultReceiverConfig_floatsInLine, List.forall_mem_nil _⟩

section Normalized

variable {value : Option Json} (inLine : ∀ given ∈ value, given.FloatsInLine)

include inLine

theorem normalizeSink_floatsInLine : (Json.object (normalizeSink value)).FloatsInLine := by
  unfold normalizeSink
  split
  next sink isDict => exact defaultSinkConfig_floatsInLine.update (.asDict inLine isDict)
  next => exact defaultSinkConfig_floatsInLine

theorem normalizeReceiver_floatsInLine : (Json.object (normalizeReceiver value)).FloatsInLine := by
  have receiver : (Json.object ((value.bind Json.asDict?).getD .empty)).FloatsInLine := by
    cases isDict : value.bind Json.asDict? with
    | none => exact .object fun key value found => by simp at found
    | some members => exact .asDict inLine isDict
  refine (defaultReceiverConfig_floatsInLine.update receiver).set "sink"
    (normalizeSink_floatsInLine ?_)
  exact fun given found => receiver.value_of_get? found

end Normalized

theorem normalizeConfig_floatsInLine {raw : Members} (floats : (Json.object raw).FloatsInLine) :
    (Json.object (normalizeConfig raw)).FloatsInLine := by
  have merged := (defaultConfig_floatsInLine.update floats).set "schema_version"
    (.int currentSchemaVersion)
  exact merged.set "receiver" (normalizeReceiver_floatsInLine fun _ found =>
    merged.value_of_get? found)

/-- What is saved has no carriage return. -/
theorem jsonDumps_noReturn {raw : Members} (floats : (Json.object raw).FloatsInLine) :
    '\r' ∉ (jsonDumps (.object (normalizeConfig raw))).toList := by
  rw [jsonDumps, String.toList_ofList]
  exact (normalizeConfig_floatsInLine floats).layout 0

end TcpSim.Config
