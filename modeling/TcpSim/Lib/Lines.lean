import Mathlib.Data.List.Basic
import Mathlib.Data.List.Flatten

/-! Text as lines that keep their ends: LF, CR or CRLF. The lines put together are the text. -/

set_option autoImplicit false

namespace Lines

/-- One more character at the front of the first line. -/
def extend (character : Char) : List (List Char) → List (List Char)
  | [] => [[character]]
  | line :: others => (character :: line) :: others

def split : List Char → List (List Char)
  | [] => []
  | '\r' :: '\n' :: rest => ['\r', '\n'] :: split rest
  | character :: rest =>
      if character = '\n' ∨ character = '\r' then [character] :: split rest
      else extend character (split rest)

def Ended (line : List Char) : Prop := ∃ last ∈ line.getLast?, last = '\n' ∨ last = '\r'

theorem extend_flatten (character : Char) (lines : List (List Char)) :
    (extend character lines).flatten = character :: lines.flatten := by
  cases lines <;> rfl

theorem split_of_break {character : Char} {rest : List Char}
    (notPair : ∀ tail, character = '\r' → rest = '\n' :: tail → False)
    (isBreak : character = '\n' ∨ character = '\r') :
    split (character :: rest) = [character] :: split rest := by
  rw [split]
  · exact if_pos isBreak
  · exact notPair

theorem split_of_other {character : Char} {rest : List Char}
    (notPair : ∀ tail, character = '\r' → rest = '\n' :: tail → False)
    (noBreak : ¬(character = '\n' ∨ character = '\r')) :
    split (character :: rest) = extend character (split rest) := by
  rw [split]
  · exact if_neg noBreak
  · exact notPair

theorem split_flatten (text : List Char) : (split text).flatten = text := by
  induction text using split.induct with
  | case1 => rfl
  | case2 rest ih => simp [split, ih]
  | case3 character rest notPair isBreak ih =>
      rw [split_of_break notPair isBreak, List.flatten_cons, ih]
      rfl
  | case4 character rest notPair noBreak ih =>
      rw [split_of_other notPair noBreak, extend_flatten, ih]

theorem extend_ne_nil (character : Char) {lines : List (List Char)} (filled : ∀ line ∈ lines, line ≠ []) :
    ∀ line ∈ extend character lines, line ≠ [] := by
  intro line member
  cases lines with
  | nil =>
      cases List.mem_singleton.mp member
      exact List.cons_ne_nil _ _
  | cons first others =>
      rcases List.mem_cons.mp member with rfl | later
      · exact List.cons_ne_nil _ _
      · exact filled line (List.mem_cons_of_mem first later)

theorem split_ne_nil (text : List Char) : ∀ line ∈ split text, line ≠ [] := by
  induction text using split.induct with
  | case1 => simp [split]
  | case2 rest ih => simpa [split] using ih
  | case3 character rest notPair isBreak ih =>
      rw [split_of_break notPair isBreak]
      simpa using ih
  | case4 character rest notPair noBreak ih =>
      rw [split_of_other notPair noBreak]
      exact extend_ne_nil character ih

theorem Ended.cons {line : List Char} (ended : Ended line) (character : Char) :
    Ended (character :: line) := by
  obtain ⟨last, isLast, isBreak⟩ := ended
  have isLast : line.getLast? = some last := isLast
  exact ⟨last, by simp [List.getLast?_cons, isLast], isBreak⟩

theorem extend_pairwise (character : Char) {lines : List (List Char)}
    (ended : lines.Pairwise fun earlier _ => Ended earlier) :
    (extend character lines).Pairwise fun earlier _ => Ended earlier := by
  cases lines with
  | nil => exact List.pairwise_singleton _ _
  | cons first others =>
      obtain ⟨firstEnded, othersEnded⟩ := List.pairwise_cons.mp ended
      exact .cons (fun later member => (firstEnded later member).cons character) othersEnded

theorem split_pairwise (text : List Char) : (split text).Pairwise fun earlier _ => Ended earlier := by
  induction text using split.induct with
  | case1 => exact .nil
  | case2 rest ih =>
      rw [split]
      exact .cons (fun _ _ => ⟨'\n', rfl, .inl rfl⟩) ih
  | case3 character rest notPair isBreak ih =>
      rw [split_of_break notPair isBreak]
      exact .cons (fun _ _ => ⟨character, rfl, isBreak⟩) ih
  | case4 character rest notPair noBreak ih =>
      rw [split_of_other notPair noBreak]
      exact extend_pairwise character ih

theorem not_break_before {character : Char} {rest front : List Char} (isFront : front <+: rest)
    (notPair : ∀ tail, character = '\r' → rest = '\n' :: tail → False) :
    ∀ tail, character = '\r' → front = '\n' :: tail → False := by
  rintro tail isCr rfl
  obtain ⟨behind, rfl⟩ := isFront
  exact notPair (tail ++ behind) isCr rfl

theorem extend_take (character : Char) (lines : List (List Char)) (count : Nat) :
    (extend character lines).take (count + 1) = extend character (lines.take (count + 1)) := by
  cases lines <;> simp [extend]

/-- The first lines of a text are the lines of its first part. -/
theorem split_take (text : List Char) (count : Nat) :
    split ((split text).take count).flatten = (split text).take count := by
  have front : ∀ (text : List Char) (count : Nat), ((split text).take count).flatten <+: text := by
    intro text count
    obtain ⟨rest, whole⟩ := List.take_prefix count (split text)
    exact ⟨rest.flatten, by rw [← List.flatten_append, whole, split_flatten]⟩
  induction text using split.induct generalizing count with
  | case1 => simp [split]
  | case2 rest ih =>
      cases count with
      | zero => simp [split]
      | succ count => simp [split, ih]
  | case3 character rest notPair isBreak ih =>
      rw [split_of_break notPair isBreak]
      cases count with
      | zero => simp [split]
      | succ count =>
          rw [List.take_succ_cons, List.flatten_cons, List.singleton_append,
            split_of_break (not_break_before (front rest count) notPair) isBreak, ih]
  | case4 character rest notPair noBreak ih =>
      rw [split_of_other notPair noBreak]
      cases count with
      | zero => simp [split]
      | succ count =>
          rw [extend_take, extend_flatten,
            split_of_other (not_break_before (front rest _) notPair) noBreak, ih]

/-- The other lines of a text are the lines of its last part. -/
theorem split_drop (text : List Char) (count : Nat) :
    split ((split text).drop count).flatten = (split text).drop count := by
  induction text using split.induct generalizing count with
  | case1 => simp [split]
  | case2 rest ih =>
      cases count with
      | zero => rw [List.drop_zero, split_flatten]
      | succ count => simpa [split] using ih count
  | case3 character rest notPair isBreak ih =>
      cases count with
      | zero => rw [List.drop_zero, split_flatten]
      | succ count => rw [split_of_break notPair isBreak, List.drop_succ_cons, ih]
  | case4 character rest notPair noBreak ih =>
      cases count with
      | zero => rw [List.drop_zero, split_flatten]
      | succ count =>
          have behind : (extend character (split rest)).drop (count + 1) =
              (split rest).drop (count + 1) := by
            cases split rest <;> simp [extend]
          rw [split_of_other notPair noBreak, behind, ih]

end Lines
