import Mathlib.Data.List.Basic
import Mathlib.Data.List.Infix

/-! Splitting a sequence at a separator, and how that splitting composes when
the sequence arrives in pieces. A separator may be longer than one symbol, so
an occurrence can begin in one piece and end in the next. -/

set_option autoImplicit false

namespace Splitting

/-- A nonempty separator. -/
structure Separator (α : Type) where
  symbols : List α
  ne_nil : symbols ≠ []

variable {α : Type} [DecidableEq α]

/-- What stands before and after the first occurrence of the separator. -/
def cut? (sep : Separator α) : List α → Option (List α × List α)
  | [] => none
  | x :: xs =>
      if sep.symbols <+: x :: xs then some ([], (x :: xs).drop sep.symbols.length)
      else (cut? sep xs).map fun found => (x :: found.1, found.2)

theorem cut?_cons_of_isPrefix (sep : Separator α) {x : α} {xs : List α}
    (occurs : sep.symbols <+: x :: xs) :
    cut? sep (x :: xs) = some ([], (x :: xs).drop sep.symbols.length) := by
  rw [cut?, if_pos occurs]

theorem cut?_cons_of_not_isPrefix (sep : Separator α) {x : α} {xs : List α}
    (absent : ¬ sep.symbols <+: x :: xs) :
    cut? sep (x :: xs) = (cut? sep xs).map fun found => (x :: found.1, found.2) := by
  rw [cut?, if_neg absent]

theorem cut?_decompose {sep : Separator α} {xs piece rest : List α}
    (found : cut? sep xs = some (piece, rest)) :
    xs = piece ++ sep.symbols ++ rest := by
  induction xs generalizing piece with
  | nil => simp [cut?] at found
  | cons x xs ih =>
      by_cases occurs : sep.symbols <+: x :: xs
      · rw [cut?_cons_of_isPrefix sep occurs] at found
        simp only [Option.some.injEq, Prod.mk.injEq] at found
        obtain ⟨rfl, rfl⟩ := found
        obtain ⟨suffix, split⟩ := occurs
        simp [← split]
      · rw [cut?_cons_of_not_isPrefix sep occurs, Option.map_eq_some_iff] at found
        obtain ⟨⟨earlier, later⟩, recursive, shape⟩ := found
        simp only [Prod.mk.injEq] at shape
        obtain ⟨rfl, rfl⟩ := shape
        simpa using ih recursive

theorem cut?_length_lt {sep : Separator α} {xs piece rest : List α}
    (found : cut? sep xs = some (piece, rest)) : rest.length < xs.length := by
  have decomposed := congrArg List.length (cut?_decompose found)
  have positive := List.length_pos_iff.mpr sep.ne_nil
  simp only [List.length_append] at decomposed
  omega

theorem cut?_append_of_some {sep : Separator α} {xs piece rest : List α} (ys : List α)
    (found : cut? sep xs = some (piece, rest)) :
    cut? sep (xs ++ ys) = some (piece, rest ++ ys) := by
  induction xs generalizing piece with
  | nil => simp [cut?] at found
  | cons x xs ih =>
      by_cases occurs : sep.symbols <+: x :: xs
      · have still : sep.symbols <+: x :: (xs ++ ys) := by
          exact occurs.trans (List.prefix_append (x :: xs) ys)
        rw [cut?_cons_of_isPrefix sep occurs] at found
        rw [List.cons_append, cut?_cons_of_isPrefix sep still]
        simp only [Option.some.injEq, Prod.mk.injEq] at found ⊢
        obtain ⟨rfl, rfl⟩ := found
        refine ⟨rfl, ?_⟩
        rw [← List.cons_append, List.drop_append_of_le_length occurs.length_le]
      · rw [cut?_cons_of_not_isPrefix sep occurs, Option.map_eq_some_iff] at found
        obtain ⟨⟨earlier, later⟩, recursive, shape⟩ := found
        simp only [Prod.mk.injEq] at shape
        obtain ⟨rfl, rfl⟩ := shape
        have fits := congrArg List.length (cut?_decompose recursive)
        have absent : ¬ sep.symbols <+: x :: (xs ++ ys) := by
          intro early
          apply occurs
          apply List.prefix_of_prefix_length_le early
            (List.prefix_append (x :: xs) ys)
          simp only [List.length_append, List.length_cons] at fits ⊢
          omega
        rw [List.cons_append, cut?_cons_of_not_isPrefix sep absent, ih recursive]
        rfl

/-- An occurrence of the separator that begins in `held` and ends in `later`. -/
def Straddles (sep : Separator α) (held later : List α) : Prop :=
  ∃ before left right, held = before ++ left ∧ left ≠ [] ∧ right ≠ [] ∧
    sep.symbols = left ++ right ∧ right <+: later

omit [DecidableEq α] in
theorem Straddles.cons {sep : Separator α} {held later : List α} (x : α)
    (straddles : Straddles sep held later) : Straddles sep (x :: held) later := by
  obtain ⟨before, left, right, shape, leftNe, rightNe, whole, arrives⟩ := straddles
  exact ⟨x :: before, left, right, by simp [shape], leftNe, rightNe, whole, arrives⟩

omit [DecidableEq α] in
theorem not_straddles_of_length_one {sep : Separator α} (single : sep.symbols.length = 1)
    (held later : List α) : ¬ Straddles sep held later := by
  intro straddles
  obtain ⟨before, left, right, -, leftNe, rightNe, whole, -⟩ := straddles
  have lengths := congrArg List.length whole
  have leftPos := List.length_pos_iff.mpr leftNe
  have rightPos := List.length_pos_iff.mpr rightNe
  simp only [List.length_append] at lengths
  omega

omit [DecidableEq α] in
theorem Straddles.append {sep : Separator α} {held later : List α} (more : List α)
    (straddles : Straddles sep held later) : Straddles sep held (later ++ more) := by
  obtain ⟨before, left, right, shape, leftNe, rightNe, whole, arrives⟩ := straddles
  exact ⟨before, left, right, shape, leftNe, rightNe, whole,
    arrives.trans (List.prefix_append later more)⟩

/-- When nothing is found in `held` and no occurrence straddles the boundary,
searching the longer sequence is searching its later part. -/
theorem cut?_append_of_none {sep : Separator α} {held : List α} (later : List α)
    (absent : cut? sep held = none) (clean : ¬ Straddles sep held later) :
    cut? sep (held ++ later) =
      (cut? sep later).map fun found => (held ++ found.1, found.2) := by
  induction held with
  | nil => simp
  | cons x held ih =>
      have missing : ¬ sep.symbols <+: x :: held := by
        intro occurs
        rw [cut?_cons_of_isPrefix sep occurs] at absent
        simp at absent
      rw [cut?_cons_of_not_isPrefix sep missing, Option.map_eq_none_iff] at absent
      have notHere : ¬ sep.symbols <+: x :: (held ++ later) := by
        intro isPrefix
        obtain ⟨suffix, split⟩ := isPrefix
        rw [← List.cons_append, List.append_eq_append_iff] at split
        rcases split with ⟨right, whole, arrives⟩ | ⟨right, whole, arrives⟩
        · exact missing ⟨right, whole.symm⟩
        · by_cases rightNil : right = []
          · subst right
            exact missing (by simp [whole])
          · exact clean ⟨[], x :: held, right, rfl, by simp, rightNil, whole,
              suffix, arrives.symm⟩
      rw [List.cons_append, cut?_cons_of_not_isPrefix sep notHere,
        ih absent fun straddles => clean (straddles.cons x), Option.map_map]
      rfl

theorem cut?_left_of_none {sep : Separator α} {xs ys : List α}
    (absent : cut? sep (xs ++ ys) = none) : cut? sep xs = none := by
  cases found : cut? sep xs with
  | none => rfl
  | some cut =>
      obtain ⟨piece, rest⟩ := cut
      rw [cut?_append_of_some ys found] at absent
      cases absent

theorem cut?_right_of_none {sep : Separator α} {xs ys : List α}
    (absent : cut? sep (xs ++ ys) = none) (clean : ¬ Straddles sep xs ys) :
    cut? sep ys = none := by
  rw [cut?_append_of_none ys (cut?_left_of_none absent) clean] at absent
  exact Option.map_eq_none_iff.mp absent

theorem cut?_rest_length_le {sep : Separator α} {held later piece rest : List α}
    (absent : cut? sep held = none) (found : cut? sep (held ++ later) = some (piece, rest)) :
    rest.length ≤ later.length := by
  induction held generalizing piece with
  | nil => exact (cut?_length_lt found).le
  | cons x xs ih =>
      by_cases occurs : sep.symbols <+: x :: (xs ++ later)
      · have reaches : (x :: xs).length < sep.symbols.length := by
          by_contra short
          have within : sep.symbols <+: x :: xs :=
            List.prefix_of_prefix_length_le occurs (List.prefix_append (x :: xs) later) (by omega)
          rw [cut?_cons_of_isPrefix sep within] at absent
          cases absent
        rw [List.cons_append, cut?_cons_of_isPrefix sep occurs] at found
        cases found
        simp only [List.length_drop, List.length_cons, List.length_append] at reaches ⊢
        omega
      · have earlier : ¬ sep.symbols <+: x :: xs :=
          fun within => occurs (within.trans (List.prefix_append (x :: xs) later))
        rw [cut?_cons_of_not_isPrefix sep earlier] at absent
        rw [List.cons_append, cut?_cons_of_not_isPrefix sep occurs] at found
        obtain ⟨cut, inner, same⟩ := Option.map_eq_some_iff.mp found
        cases same
        exact ih (Option.map_eq_none_iff.mp absent) inner

/-- All terminated pieces, and the unterminated tail. -/
def pieces (sep : Separator α) (xs : List α) : List (List α) × List α :=
  match _found : cut? sep xs with
  | none => ([], xs)
  | some (piece, rest) => (piece :: (pieces sep rest).1, (pieces sep rest).2)
termination_by xs.length
decreasing_by all_goals exact cut?_length_lt _found

theorem pieces_of_none {sep : Separator α} {xs : List α} (absent : cut? sep xs = none) :
    pieces sep xs = ([], xs) := by
  rw [pieces]
  split
  · rfl
  · simp_all

theorem pieces_of_some {sep : Separator α} {xs piece rest : List α}
    (found : cut? sep xs = some (piece, rest)) :
    pieces sep xs = (piece :: (pieces sep rest).1, (pieces sep rest).2) := by
  rw [pieces]
  split
  · simp_all
  · simp_all

@[simp] theorem pieces_nil (sep : Separator α) : pieces sep [] = ([], []) :=
  pieces_of_none rfl

theorem cut?_tail (sep : Separator α) (xs : List α) : cut? sep (pieces sep xs).2 = none := by
  induction xs using pieces.induct sep with
  | case1 xs absent => simpa [pieces_of_none absent] using absent
  | case2 xs piece rest found ih => simpa [pieces_of_some found] using ih

theorem pieces_length_le (sep : Separator α) (xs : List α) :
    (pieces sep xs).1.flatten.length + (pieces sep xs).2.length ≤ xs.length := by
  induction xs using pieces.induct sep with
  | case1 xs absent => simp [pieces_of_none absent]
  | case2 xs piece rest found ih =>
      have whole := congrArg List.length (cut?_decompose found)
      simp only [List.length_append] at whole
      simp only [pieces_of_some found, List.flatten_cons, List.length_append]
      omega

theorem tail_length_le (sep : Separator α) (xs : List α) :
    (pieces sep xs).2.length ≤ xs.length :=
  (Nat.le_add_left _ _).trans (pieces_length_le sep xs)

theorem pieces_join (sep : Separator α) (xs : List α) :
    ((pieces sep xs).1.map (· ++ sep.symbols)).flatten ++ (pieces sep xs).2 = xs := by
  induction xs using pieces.induct sep with
  | case1 xs absent => simp [pieces_of_none absent]
  | case2 xs piece rest found ih =>
      rw [pieces_of_some found, List.map_cons, List.flatten_cons, List.append_assoc, ih]
      exact (cut?_decompose found).symm

/-- Splitting may stop at any point and go on from the unterminated tail. -/
theorem pieces_append (sep : Separator α) (xs ys : List α) :
    pieces sep (xs ++ ys) =
      ((pieces sep xs).1 ++ (pieces sep ((pieces sep xs).2 ++ ys)).1,
        (pieces sep ((pieces sep xs).2 ++ ys)).2) := by
  induction xs using pieces.induct sep with
  | case1 xs absent => simp [pieces_of_none absent]
  | case2 xs piece rest found ih =>
      rw [pieces_of_some found, pieces_of_some (cut?_append_of_some ys found), ih]
      rfl

/-- The records of a finished sequence: every terminated piece, empty ones
included, and the unterminated tail when it is not empty. -/
def records (sep : Separator α) (xs : List α) : List (List α) :=
  (pieces sep xs).1 ++ if (pieces sep xs).2 = [] then [] else [(pieces sep xs).2]

@[simp] theorem records_nil (sep : Separator α) : records sep [] = [] := by
  simp [records]

theorem records_of_none {sep : Separator α} {xs : List α} (absent : cut? sep xs = none) :
    records sep xs = if xs = [] then [] else [xs] := by
  simp [records, pieces_of_none absent]

theorem records_of_some {sep : Separator α} {xs piece rest : List α}
    (found : cut? sep xs = some (piece, rest)) :
    records sep xs = piece :: records sep rest := by
  simp [records, pieces_of_some found]

theorem records_append (sep : Separator α) (xs ys : List α) :
    records sep (xs ++ ys) =
      (pieces sep xs).1 ++ records sep ((pieces sep xs).2 ++ ys) := by
  simp [records, pieces_append sep xs ys]

/-- What follows the first occurrence of the separator; nothing if there is none. -/
def skip (sep : Separator α) (xs : List α) : List α :=
  match cut? sep xs with
  | none => []
  | some (_, rest) => rest

theorem skip_of_none {sep : Separator α} {xs : List α} (absent : cut? sep xs = none) :
    skip sep xs = [] := by
  rw [skip, absent]

theorem skip_of_some {sep : Separator α} {xs piece rest : List α}
    (found : cut? sep xs = some (piece, rest)) : skip sep xs = rest := by
  rw [skip, found]

@[simp] theorem skip_nil (sep : Separator α) : skip sep [] = [] := rfl

theorem skip_append_of_none {sep : Separator α} {held : List α} (later : List α)
    (absent : cut? sep held = none) (clean : ¬ Straddles sep held later) :
    skip sep (held ++ later) = skip sep later := by
  rw [skip, skip, cut?_append_of_none later absent clean]
  cases cut? sep later <;> rfl

/-- Dropping the piece in progress drops at most that one record. -/
theorem records_skip_length_le (sep : Separator α) (xs : List α) :
    (records sep (skip sep xs)).length ≤ (records sep xs).length := by
  cases found : cut? sep xs with
  | none => simp [skip_of_none found]
  | some cut =>
      obtain ⟨piece, rest⟩ := cut
      simp [skip_of_some found, records_of_some found]

theorem records_skip_length_lt (sep : Separator α) {xs : List α} (nonempty : xs ≠ []) :
    (records sep (skip sep xs)).length < (records sep xs).length := by
  cases found : cut? sep xs with
  | none => simp [skip_of_none found, records_of_none found, nonempty]
  | some cut =>
      obtain ⟨piece, rest⟩ := cut
      simp [skip_of_some found, records_of_some found]

/-- No second occurrence can begin inside one that straddles a boundary, so a
search that starts at the boundary misses that occurrence and nothing else. -/
def Resumes (sep : Separator α) : Prop :=
  ∀ held later, cut? sep held = none → Straddles sep held later →
    ∃ piece rest, cut? sep (held ++ later) = some (piece, rest) ∧
      piece.length < held.length ∧ skip sep later = skip sep rest

/-- Leaving a record in progress unread to its end costs at most the records
after it, whether or not its separator straddles the boundary. -/
theorem records_skip_add_one_le {sep : Separator α} (resumes : Resumes sep)
    {held : List α} (later : List α) (absent : cut? sep held = none) (nonempty : held ≠ []) :
    (records sep (skip sep later)).length + 1 ≤ (records sep (held ++ later)).length := by
  by_cases straddles : Straddles sep held later
  · obtain ⟨piece, rest, found, -, skipped⟩ := resumes held later absent straddles
    rw [records_of_some found, skipped]
    simpa using records_skip_length_le sep rest
  · have joined : held ++ later ≠ [] := by simp [nonempty]
    rw [← skip_append_of_none later absent straddles]
    exact records_skip_length_lt sep joined

theorem resumes_of_length_one {sep : Separator α} (single : sep.symbols.length = 1) :
    Resumes sep :=
  fun held later _ straddles =>
    absurd straddles (not_straddles_of_length_one single held later)

omit [DecidableEq α] in
theorem straddles_pair_iff {sep : Separator α} {a b : α} (pair : sep.symbols = [a, b])
    {held later : List α} :
    Straddles sep held later ↔
      ∃ before rest, held = before ++ [a] ∧ later = b :: rest := by
  constructor
  · intro straddles
    obtain ⟨before, left, right, shape, leftNe, rightNe, whole, rest, arrives⟩ := straddles
    rw [pair] at whole
    match left, right with
    | [x], [y] =>
        simp only [List.cons_append, List.nil_append, List.cons.injEq, and_true] at whole
        obtain ⟨rfl, rfl⟩ := whole
        exact ⟨before, rest, shape, arrives.symm⟩
    | [], _ => exact absurd rfl leftNe
    | _ :: _, [] => exact absurd rfl rightNe
    | _ :: _ :: _, _ :: _ =>
        have lengths := congrArg List.length whole
        simp only [List.length_cons, List.length_append, List.length_nil] at lengths
        omega
    | [_], _ :: _ :: _ =>
        have lengths := congrArg List.length whole
        simp only [List.length_cons, List.length_append, List.length_nil] at lengths
        omega
  · intro shapes
    obtain ⟨before, rest, rfl, rfl⟩ := shapes
    exact ⟨before, [a], [b], rfl, by simp, by simp, by simp [pair], rest, rfl⟩

theorem resumes_of_pair {sep : Separator α} {a b : α} (pair : sep.symbols = [a, b])
    (differ : a ≠ b) : Resumes sep := by
  intro held later absent straddles
  obtain ⟨before, rest, rfl, rfl⟩ := (straddles_pair_iff pair).mp straddles
  have clean : ¬ Straddles sep before (a :: b :: rest) := by
    rw [straddles_pair_iff pair]
    intro cuts
    obtain ⟨_, _, _, heads⟩ := cuts
    exact differ (List.cons.inj heads).1
  have occurs : cut? sep (a :: b :: rest) = some ([], rest) := by
    rw [cut?_cons_of_isPrefix sep ⟨rest, by simp [pair]⟩, pair]
    rfl
  refine ⟨before, rest, ?_, by simp, ?_⟩
  · rw [List.append_assoc, List.singleton_append,
      cut?_append_of_none _ (cut?_left_of_none absent) clean, occurs]
    simp
  · have alone : cut? sep [b] = none := by
      rw [cut?_cons_of_not_isPrefix sep]
      · rfl
      · intro isPrefix
        obtain ⟨suffix, split⟩ := isPrefix
        simp [pair] at split
    have fresh : ¬ Straddles sep [b] rest := by
      rw [straddles_pair_iff pair]
      intro cuts
      obtain ⟨front, _, shape, _⟩ := cuts
      have last := congrArg List.getLast? shape
      simp only [List.getLast?_singleton, List.getLast?_append, Option.some_or,
        Option.some.injEq] at last
      exact differ last.symm
    exact skip_append_of_none rest alone fresh

/-! ## Putting pieces together again -/

theorem cut?_piece {sep : Separator α} {xs piece rest : List α}
    (found : cut? sep xs = some (piece, rest)) : cut? sep piece = none := by
  cases earlier : cut? sep piece with
  | none => rfl
  | some cut =>
      obtain ⟨front, back⟩ := cut
      have again := cut?_append_of_some (sep.symbols ++ rest) earlier
      rw [← List.append_assoc, ← cut?_decompose found, found] at again
      have same : piece = front := congrArg Prod.fst (Option.some.inj again)
      have lengths := congrArg List.length (cut?_decompose earlier)
      have positive := List.length_pos_iff.mpr sep.ne_nil
      rw [same] at lengths
      simp only [List.length_append] at lengths
      omega

theorem cut?_of_mem_pieces {sep : Separator α} {xs piece : List α} (member : piece ∈ (pieces sep xs).1) :
    cut? sep piece = none := by
  induction xs using pieces.induct sep with
  | case1 xs absent => simp [pieces_of_none absent] at member
  | case2 xs first rest found ih =>
      rw [pieces_of_some found] at member
      rcases List.mem_cons.mp member with rfl | later
      · exact cut?_piece found
      · exact ih later

theorem cut?_take_of_none {sep : Separator α} {xs : List α} (absent : cut? sep xs = none) (count : Nat) :
    cut? sep (xs.take count) = none := by
  rw [← List.take_append_drop count xs] at absent
  exact cut?_left_of_none absent

/-- Behind whatever comes before it, the separator is not found too early. -/
def Terminates (sep : Separator α) : Prop :=
  ∀ held rest, ¬Straddles sep held (sep.symbols ++ rest)

omit [DecidableEq α] in
theorem terminates_of_length_one {sep : Separator α} (single : sep.symbols.length = 1) : Terminates sep :=
  fun held _ => not_straddles_of_length_one single held _

omit [DecidableEq α] in
theorem terminates_of_pair {sep : Separator α} {a b : α} (pair : sep.symbols = [a, b]) (differ : a ≠ b) :
    Terminates sep := by
  intro held _ straddles
  obtain ⟨_, _, _, heads⟩ := (straddles_pair_iff pair).mp straddles
  rw [pair] at heads
  exact differ (List.cons.inj heads).1

theorem cut?_of_terminated {sep : Separator α} (terminates : Terminates sep) {piece : List α}
    (absent : cut? sep piece = none) (rest : List α) :
    cut? sep (piece ++ sep.symbols ++ rest) = some (piece, rest) := by
  have here : cut? sep (sep.symbols ++ rest) = some ([], rest) := by
    obtain ⟨x, xs, symbols⟩ := List.exists_cons_of_ne_nil sep.ne_nil
    have occurs : sep.symbols <+: x :: (xs ++ rest) := ⟨rest, by rw [symbols]; rfl⟩
    have dropped := cut?_cons_of_isPrefix sep occurs
    rw [← List.cons_append, ← symbols, List.drop_left] at dropped
    exact dropped
  rw [List.append_assoc, cut?_append_of_none _ absent (terminates piece rest), here]
  simp

/-- Pieces that are terminated and put together are found again. -/
theorem pieces_of_terminated {sep : Separator α} (terminates : Terminates sep) {parts : List (List α)}
    (absent : ∀ part ∈ parts, cut? sep part = none) :
    pieces sep (parts.map (· ++ sep.symbols)).flatten = (parts, []) := by
  induction parts with
  | nil => exact pieces_nil sep
  | cons part rest ih =>
      have found := cut?_of_terminated terminates (absent part List.mem_cons_self)
        (rest.map (· ++ sep.symbols)).flatten
      have later := ih fun other member => absent other (List.mem_cons_of_mem part member)
      rw [List.map_cons, List.flatten_cons, pieces_of_some found, later]

theorem cut?_of_not_mem {sep : Separator α} {x : α} (marks : x ∈ sep.symbols) {xs : List α}
    (absent : x ∉ xs) : cut? sep xs = none := by
  cases found : cut? sep xs with
  | none => rfl
  | some cut =>
      obtain ⟨piece, rest⟩ := cut
      rw [cut?_decompose found] at absent
      simp [marks] at absent

/-- What has arrived of terminated pieces: the first ones whole, and an initial part of the next. -/
theorem pieces_of_prefix {sep : Separator α} {x : α} (single : sep.symbols = [x])
    {parts : List (List α)} (absent : ∀ part ∈ parts, x ∉ part) {received : List α}
    (initialPart : received <+: (parts.map (· ++ sep.symbols)).flatten) :
    ∃ count tail, pieces sep received = (parts.take count, tail) ∧
      (tail = [] ∨ ∃ part, parts[count]? = some part ∧ tail <+: part) := by
  have marks : x ∈ sep.symbols := by simp [single]
  have terminates : Terminates sep := terminates_of_length_one (by simp [single])
  induction parts generalizing received with
  | nil =>
      obtain rfl := List.prefix_nil.mp initialPart
      exact ⟨0, [], pieces_nil sep, .inl rfl⟩
  | cons part rest ih =>
      have own := absent part List.mem_cons_self
      rw [List.map_cons, List.flatten_cons] at initialPart
      rcases List.prefix_or_prefix_of_prefix initialPart (List.prefix_append _ _) with less | more
      · rw [single] at less
        rcases List.prefix_concat_iff.mp less with whole | partly
        · refine ⟨1, [], ?_, .inl rfl⟩
          have found := cut?_of_terminated terminates (cut?_of_not_mem marks own) []
          rw [whole, ← single, ← List.append_nil (part ++ sep.symbols), pieces_of_some found]
          simp
        · refine ⟨0, received, ?_, .inr ⟨part, rfl, partly⟩⟩
          exact pieces_of_none (cut?_of_not_mem marks fun member => own (partly.subset member))
      · obtain ⟨later, rfl⟩ := more
        have goesOn := (List.prefix_append_right_inj _).mp initialPart
        obtain ⟨count, tail, split, shape⟩ :=
          ih (fun other member => absent other (List.mem_cons_of_mem part member)) goesOn
        refine ⟨count + 1, tail, ?_, shape⟩
        rw [pieces_of_some (cut?_of_terminated terminates (cut?_of_not_mem marks own) later), split]
        rfl

/-- A symbol that is in no part terminates each of them once. -/
theorem count_terminated {x : α} {parts : List (List α)} (absent : ∀ part ∈ parts, x ∉ part) :
    (parts.map (· ++ [x])).flatten.count x = parts.length := by
  induction parts with
  | nil => rfl
  | cons part rest ih =>
      have later := ih fun other member => absent other (List.mem_cons_of_mem part member)
      have here := List.count_eq_zero.mpr (absent part List.mem_cons_self)
      simp only [List.map_cons, List.flatten_cons, List.count_append, here, later, List.count_singleton_self,
        List.length_cons]
      omega

omit [DecidableEq α] in
theorem not_mem_intercalate {x : α} {glue : List α} (outside : x ∉ glue) {parts : List (List α)}
    (absent : ∀ part ∈ parts, x ∉ part) : x ∉ glue.intercalate parts := by
  induction parts with
  | nil => simp
  | cons part rest ih =>
      have first := absent part List.mem_cons_self
      have later := ih fun other member => absent other (List.mem_cons_of_mem part member)
      by_cases last : rest = []
      · rw [last, List.intercalate_singleton]
        exact first
      · rw [List.intercalate_cons_of_ne_nil last]
        simp only [List.mem_append, not_or]
        exact ⟨⟨first, outside⟩, later⟩

/-! ## Replacing -/

/-- Every occurrence of the separator, found from the left, is replaced. -/
def replace (sep : Separator α) (other xs : List α) : List α :=
  ((pieces sep xs).1.map (· ++ other)).flatten ++ (pieces sep xs).2

omit [DecidableEq α] in
theorem not_straddles_of_head_not_mem {sep : Separator α} {x : α} {tail held : List α}
    (symbols : sep.symbols = x :: tail) (absent : x ∉ held) (later : List α) :
    ¬ Straddles sep held later := by
  intro straddles
  obtain ⟨before, left, right, rfl, leftNe, _, whole, _⟩ := straddles
  obtain ⟨first, more, rfl⟩ := List.exists_cons_of_ne_nil leftNe
  rw [symbols, List.cons_append] at whole
  rw [(List.cons.inj whole).1] at absent
  simp at absent

theorem replace_of_last {sep : Separator α} {x : α} {tail held : List α}
    (symbols : sep.symbols = x :: tail) (absent : x ∉ held) (other : List α) :
    replace sep other (held ++ sep.symbols) = held ++ other := by
  have occurs : sep.symbols <+: x :: tail := symbols ▸ List.prefix_rfl
  have here : cut? sep sep.symbols = some ([], []) := by
    have found := cut?_cons_of_isPrefix sep occurs
    rwa [← symbols, List.drop_length] at found
  have missing : cut? sep held = none := cut?_of_not_mem (by simp [symbols]) absent
  have found : cut? sep (held ++ sep.symbols) = some (held, []) := by
    rw [cut?_append_of_none _ missing (not_straddles_of_head_not_mem symbols absent _), here]
    simp
  simp [replace, pieces_of_some found]

end Splitting
