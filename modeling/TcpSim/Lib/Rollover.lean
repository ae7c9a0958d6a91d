import Mathlib.Data.List.Basic
import Mathlib.Data.List.Infix
import Mathlib.Logic.Function.Basic

/-! Numbered slots that hold the segments of a log, the newest in slot 0, some
slots possibly empty. Shifting them up by one makes room for a new segment and
loses at most one whole segment, the oldest. -/

set_option autoImplicit false

namespace Rollover

variable {α : Type}

/-- The segments in the slots below `n`, oldest first; empty slots are skipped. -/
def live (slots : Nat → Option α) : Nat → List α
  | 0 => []
  | n + 1 => (slots n).toList ++ live slots n

/-- Move slot `i` to slot `i + 1`, if it is not empty. -/
def moveUp (slots : Nat → Option α) (i : Nat) : Nat → Option α :=
  if (slots i).isSome then
    Function.update (Function.update slots i none) (i + 1) (slots i)
  else slots

/-- Move the slots `n - 1`, …, 0 up, in this order. -/
def shift : Nat → (Nat → Option α) → Nat → Option α
  | 0, slots => slots
  | n + 1, slots => shift n (moveUp slots n)

/-! ## One move -/

theorem moveUp_self (slots : Nat → Option α) (i : Nat) : moveUp slots i i = none := by
  unfold moveUp
  split
  · simp
  · simpa using ‹¬(slots i).isSome›

theorem moveUp_of_some {slots : Nat → Option α} {i : Nat} {content : α}
    (found : slots i = some content) : moveUp slots i (i + 1) = some content := by
  simp [moveUp, found]

theorem moveUp_of_none {slots : Nat → Option α} {i : Nat} (empty : slots i = none) :
    moveUp slots i = slots := by
  simp [moveUp, empty]

theorem moveUp_other {slots : Nat → Option α} {i j : Nat} (source : j ≠ i)
    (target : j ≠ i + 1) : moveUp slots i j = slots j := by
  unfold moveUp
  split
  · rw [Function.update_of_ne target, Function.update_of_ne source]
  · rfl

/-! ## The loop without slot 0 -/

/-- Move the slots `n`, …, 1 up, in this order. -/
def raise : Nat → (Nat → Option α) → Nat → Option α
  | 0, slots => slots
  | n + 1, slots => raise n (moveUp slots (n + 1))

theorem raise_zero_slot (slots : Nat → Option α) (n : Nat) : raise n slots 0 = slots 0 := by
  induction n generalizing slots with
  | zero => rfl
  | succ n ih => rw [raise, ih, moveUp_other (by omega) (by omega)]

theorem moveUp_raise (slots : Nat → Option α) (n : Nat) :
    moveUp (raise n slots) 0 = shift (n + 1) slots := by
  induction n generalizing slots with
  | zero => rfl
  | succ n ih => exact ih (moveUp slots (n + 1))

/-! ## The live segments -/

theorem live_succ (slots : Nat → Option α) (n : Nat) :
    live slots (n + 1) = (slots n).toList ++ live slots n := rfl

theorem live_congr {slots other : Nat → Option α} {n : Nat}
    (same : ∀ i < n, slots i = other i) : live slots n = live other n := by
  induction n with
  | zero => rfl
  | succ n ih =>
      rw [live_succ, live_succ, same n (by omega), ih fun i below => same i (by omega)]

theorem live_moveUp (slots : Nat → Option α) (n : Nat) :
    live (moveUp slots n) n = live slots n :=
  live_congr fun _ below => moveUp_other (by omega) (by omega)

theorem shift_above {slots : Nat → Option α} {n j : Nat} (above : n < j) :
    shift n slots j = slots j := by
  induction n generalizing slots with
  | zero => rfl
  | succ n ih =>
      rw [shift, ih (by omega), moveUp_other (by omega) (by omega)]

theorem shift_zero_slot (slots : Nat → Option α) (n : Nat) : shift (n + 1) slots 0 = none := by
  induction n generalizing slots with
  | zero => exact moveUp_self slots 0
  | succ n ih => exact ih (moveUp slots (n + 1))

theorem live_shift_of_none {slots : Nat → Option α} {n : Nat} (empty : slots n = none) :
    live (shift n slots) (n + 1) = live slots (n + 1) := by
  induction n generalizing slots with
  | zero => rfl
  | succ n ih =>
      have lower := ih (moveUp_self slots n)
      simp only [live, moveUp_self, Option.toList_none, List.nil_append] at lower
      simp only [live, shift, shift_above (Nat.lt_succ_self n), lower, live_moveUp, empty,
        Option.toList_none, List.nil_append]
      cases found : slots n with
      | none => simp [moveUp_of_none found, empty]
      | some content => simp [moveUp_of_some found]

theorem live_shift_suffix (slots : Nat → Option α) (n : Nat) :
    live (shift (n + 1) slots) (n + 2) <:+ live slots (n + 2) := by
  have lower := live_shift_of_none (moveUp_self slots n)
  simp only [live, moveUp_self, Option.toList_none, List.nil_append, live_moveUp] at lower
  simp only [live, shift, shift_above (Nat.lt_succ_self n), lower]
  cases found : slots n with
  | none => simp [moveUp_of_none found]
  | some content =>
      simp only [moveUp_of_some found, Option.toList_some]
      exact List.suffix_append _ _

theorem live_update_zero {slots : Nat → Option α} (empty : slots 0 = none) (segment : α)
    (n : Nat) :
    live (Function.update slots 0 (some segment)) (n + 1) = live slots (n + 1) ++ [segment] := by
  induction n with
  | zero => simp [live, empty]
  | succ n ih =>
      rw [live_succ _ (n + 1), ih, Function.update_of_ne (by omega), live_succ slots (n + 1),
        List.append_assoc]

theorem live_of_zero {slots : Nat → Option α} {segment : α} (found : slots 0 = some segment)
    (n : Nat) :
    ∃ older, live slots (n + 1) = older ++ [segment] ∧
      ∀ grown, live (Function.update slots 0 (some grown)) (n + 1) = older ++ [grown] := by
  induction n with
  | zero => exact ⟨[], by simp [live, found], fun grown => by simp [live]⟩
  | succ n ih =>
      obtain ⟨older, now, later⟩ := ih
      refine ⟨(slots (n + 1)).toList ++ older, ?_, ?_⟩
      · rw [live_succ, now, List.append_assoc]
      · intro grown
        rw [live_succ, later, Function.update_of_ne (by omega), List.append_assoc]

/-! ## Room for a new segment -/

/-- With `count` slots above it, slot 0 is moved up; without any it is emptied. -/
def makeRoom (count : Nat) (slots : Nat → Option α) : Nat → Option α :=
  match count with
  | 0 => Function.update slots 0 none
  | n + 1 => shift (n + 1) slots

theorem makeRoom_zero_slot (count : Nat) (slots : Nat → Option α) : makeRoom count slots 0 = none := by
  cases count with
  | zero => simp [makeRoom]
  | succ n => exact shift_zero_slot slots n

theorem live_makeRoom_suffix (count : Nat) (slots : Nat → Option α) :
    live (makeRoom count slots) (count + 1) <:+ live slots (count + 1) := by
  cases count with
  | zero => simp [makeRoom, live]
  | succ n => exact live_shift_suffix slots n

theorem makeRoom_above {slots : Nat → Option α} {count j : Nat} (above : count < j) :
    makeRoom count slots j = slots j := by
  cases count with
  | zero => exact Function.update_of_ne (Nat.ne_of_gt above) none slots
  | succ n => exact shift_above above

/-- Without a gap below it, every slot moves up. -/
theorem shift_succ_slot {slots : Nat → Option α} {n : Nat}
    (noGap : ∀ i < n, slots i = none → slots (i + 1) = none) {i : Nat} (below : i < n) :
    shift n slots (i + 1) = slots i := by
  induction n generalizing slots with
  | zero => omega
  | succ n ih =>
      rw [shift]
      by_cases inside : i < n
      · have stillNoGap : ∀ j < n, moveUp slots n j = none → moveUp slots n (j + 1) = none := by
          intro j lower empty
          by_cases last : j + 1 = n
          · rw [last]
            exact moveUp_self slots n
          · rw [moveUp_other (by omega) (by omega)] at empty ⊢
            exact noGap j (by omega) empty
        rw [ih stillNoGap inside, moveUp_other (by omega) (by omega)]
      · obtain rfl : i = n := by omega
        rw [shift_above (Nat.lt_succ_self i)]
        cases found : slots i with
        | none => rw [moveUp_of_none found, noGap i (by omega) found]
        | some content => exact moveUp_of_some found

/-- Where the slots hold a list from slot 0 on, moving it up keeps its first part. -/
theorem makeRoom_getElem? {segments : List α} {count : Nat} (fits : segments.length ≤ count + 1) (i : Nat) :
    makeRoom count (fun i => segments[i]?) (i + 1) = (segments.take count)[i]? := by
  by_cases inside : i < count
  · obtain ⟨n, rfl⟩ : ∃ n, count = n + 1 := ⟨count - 1, by omega⟩
    have noGap : ∀ i < n + 1, segments[i]? = none → segments[i + 1]? = none := by
      intro i _ empty
      rw [List.getElem?_eq_none_iff] at empty ⊢
      omega
    rw [List.getElem?_take_of_lt inside]
    exact shift_succ_slot noGap inside
  · rw [makeRoom_above (by omega), List.getElem?_eq_none_iff.mpr (by omega),
      List.getElem?_eq_none_iff.mpr ((List.length_take_le _ _).trans (by omega))]

/-! ## The history of a segmented log -/

/-- All segments of a log so far, given the segments it started with and the
blobs appended to it: a blob extends the newest segment. -/
inductive Segmented {β : Type} (initial : List (List β)) : List (List β) → List (List β) → Prop where
  | start : Segmented initial [] initial
  | roll {blobs segments : List (List β)} :
      Segmented initial blobs segments → Segmented initial blobs (segments ++ [[]])
  | grow {blobs older : List (List β)} {newest : List β} (blob : List β) :
      Segmented initial blobs (older ++ [newest]) →
        Segmented initial (blobs ++ [blob]) (older ++ [newest ++ blob])

/-- However it is cut into segments, the log is what it was plus the blobs in order. -/
theorem Segmented.flatten {β : Type} {initial blobs segments : List (List β)}
    (log : Segmented initial blobs segments) :
    segments.flatten = initial.flatten ++ blobs.flatten := by
  induction log with
  | start => simp
  | roll _ ih => simpa using ih
  | grow blob _ ih =>
      simp only [List.flatten_append, List.flatten_cons, List.flatten_nil,
        List.append_nil] at ih ⊢
      rw [← List.append_assoc, ih, List.append_assoc]

/-- The kept segments are a suffix of the whole history, cut between segments. -/
structure Kept {β : Type} (initial blobs kept : List (List β)) : Prop where
  history : ∃ segments, Segmented initial blobs segments ∧ kept <:+ segments

theorem Kept.start {β : Type} (initial : List (List β)) : Kept initial [] initial :=
  ⟨initial, .start, List.suffix_refl initial⟩

theorem Kept.drop {β : Type} {initial blobs kept fewer : List (List β)}
    (log : Kept initial blobs kept) (suffix : fewer <:+ kept) : Kept initial blobs fewer := by
  obtain ⟨segments, segmented, cut⟩ := log.history
  exact ⟨segments, segmented, suffix.trans cut⟩

theorem Kept.roll {β : Type} {initial blobs kept : List (List β)}
    (log : Kept initial blobs kept) : Kept initial blobs (kept ++ [[]]) := by
  obtain ⟨segments, segmented, dropped, rfl⟩ := log.history
  exact ⟨_, segmented.roll, dropped, by simp⟩

theorem Kept.grow {β : Type} {initial blobs older : List (List β)} {newest : List β}
    (log : Kept initial blobs (older ++ [newest])) (blob : List β) :
    Kept initial (blobs ++ [blob]) (older ++ [newest ++ blob]) := by
  obtain ⟨segments, segmented, dropped, rfl⟩ := log.history
  rw [← List.append_assoc] at segmented
  exact ⟨_, segmented.grow blob, dropped, by simp⟩

/-- The kept content is a suffix of the initial content followed by the blobs. -/
theorem Kept.flatten_suffix {β : Type} {initial blobs kept : List (List β)}
    (log : Kept initial blobs kept) :
    kept.flatten <:+ initial.flatten ++ blobs.flatten := by
  obtain ⟨segments, segmented, dropped, rfl⟩ := log.history
  exact ⟨dropped.flatten, by rw [← segmented.flatten, List.flatten_append]⟩

end Rollover
