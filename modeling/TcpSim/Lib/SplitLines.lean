import Mathlib.Data.List.Basic

/-! `str.splitlines`: lines end at any of Python's line boundaries, which are dropped. -/

set_option autoImplicit false

namespace SplitLines

/-- The characters that end a line; `\r\n` ends one line. -/
def isBoundary (character : Char) : Bool :=
  character ∈ ['\n', '\r', '\x0b', '\x0c', '\x1c', '\x1d', '\x1e', '\u0085', '\u2028', '\u2029']

/-- A character that belongs to the first of the lines. -/
def extend (character : Char) : List (List Char) → List (List Char)
  | [] => [[character]]
  | line :: rest => (character :: line) :: rest

def splitlines : List Char → List (List Char)
  | [] => []
  | '\r' :: '\n' :: rest => [] :: splitlines rest
  | character :: rest =>
      if isBoundary character then [] :: splitlines rest else extend character (splitlines rest)

def Unbroken (line : List Char) : Prop := ∀ character ∈ line, isBoundary character = false

theorem unbroken_nil : Unbroken [] := fun _ member => by cases member

theorem splitlines_of_other {character : Char} (other : isBoundary character = false)
    (rest : List Char) : splitlines (character :: rest) = extend character (splitlines rest) := by
  rw [splitlines]
  · rw [other]
    rfl
  · rintro _ rfl _
    exact absurd other (by decide)

theorem splitlines_newline (rest : List Char) : splitlines ('\n' :: rest) = [] :: splitlines rest := by
  rw [splitlines]
  · rfl
  · intro _ same
    exact absurd same (by decide)

theorem extend_unbroken {character : Char} (other : isBoundary character = false)
    {lines : List (List Char)} (unbroken : ∀ line ∈ lines, Unbroken line) :
    ∀ line ∈ extend character lines, Unbroken line := by
  intro line member
  cases lines with
  | nil =>
      rw [List.mem_singleton.mp member]
      exact List.forall_mem_singleton.mpr other
  | cons first rest =>
      obtain ⟨whole, others⟩ := List.forall_mem_cons.mp unbroken
      rcases List.mem_cons.mp member with rfl | later
      · exact List.forall_mem_cons.mpr ⟨other, whole⟩
      · exact others line later

theorem splitlines_unbroken (text : List Char) : ∀ line ∈ splitlines text, Unbroken line := by
  fun_induction splitlines text with
  | case1 =>
      intro line member
      cases member
  | case2 rest ih => exact List.forall_mem_cons.mpr ⟨unbroken_nil, ih⟩
  | case3 character rest _ boundary ih =>
      exact List.forall_mem_cons.mpr ⟨unbroken_nil, ih⟩
  | case4 character rest _ other ih =>
      exact extend_unbroken (Bool.eq_false_iff.mpr other) ih

theorem splitlines_line {line : List Char} (unbroken : Unbroken line) (rest : List Char) :
    splitlines (line ++ '\n' :: rest) = line :: splitlines rest := by
  induction line with
  | nil => exact splitlines_newline rest
  | cons character line ih =>
      obtain ⟨other, others⟩ := List.forall_mem_cons.mp unbroken
      rw [List.cons_append, splitlines_of_other other, ih others]
      rfl

/-- Lines without boundaries are found again when each has been ended by a line break. -/
theorem splitlines_ended {lines : List (List Char)} (unbroken : ∀ line ∈ lines, Unbroken line) :
    splitlines (lines.flatMap (· ++ ['\n'])) = lines := by
  induction lines with
  | nil => rfl
  | cons line rest ih =>
      obtain ⟨first, others⟩ := List.forall_mem_cons.mp unbroken
      rw [List.flatMap_cons, List.append_assoc, List.singleton_append, splitlines_line first, ih others]

end SplitLines
