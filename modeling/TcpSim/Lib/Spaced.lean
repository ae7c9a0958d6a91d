import Mathlib.Algebra.Order.Field.Basic
import Mathlib.Data.List.Basic
import Mathlib.Tactic.Linarith

/-! Moments that keep a distance from each other, and how many of them a window of time holds. -/

set_option autoImplicit false

variable {K : Type} [Field K] [LinearOrder K] [IsStrictOrderedRing K]

/-- Each moment is at least a gap after those before it. -/
def Spaced (gap : K) (moments : List K) : Prop :=
  moments.Pairwise fun earlier later => earlier + gap ≤ later

namespace Spaced

variable {gap : K} {moments : List K}

omit [IsStrictOrderedRing K] in
theorem concat (spaced : Spaced gap moments) {moment : K}
    (after : ∀ earlier ∈ moments, earlier + gap ≤ moment) : Spaced gap (moments ++ [moment]) := by
  refine List.pairwise_append.mpr ⟨spaced, List.pairwise_singleton _ _, ?_⟩
  intro earlier member last same
  rw [List.mem_singleton.mp same]
  exact after earlier member

theorem length_mul_le (spaced : Spaced gap moments) (filled : moments ≠ []) {low high : K}
    (within : ∀ moment ∈ moments, low ≤ moment ∧ moment ≤ high) :
    moments.length * gap ≤ high - low + gap := by
  induction moments generalizing low with
  | nil => exact absurd rfl filled
  | cons first rest ih =>
      obtain ⟨after, spaced⟩ := List.pairwise_cons.mp spaced
      obtain ⟨above, below⟩ := within first List.mem_cons_self
      by_cases last : rest = []
      · subst last
        simp only [List.length_singleton, Nat.cast_one]
        linarith
      · have later := ih spaced last fun moment member =>
          ⟨after moment member, (within moment (List.mem_cons_of_mem _ member)).2⟩
        rw [List.length_cons, Nat.cast_add, Nat.cast_one]
        linarith

/-- A window of time holds at most as many moments as gaps fit into it, and one. -/
theorem window (spaced : Spaced gap moments) (gap_pos : 0 < gap) {low high : K}
    (forward : low ≤ high) :
    ((moments.filter fun moment => low ≤ moment ∧ moment ≤ high).length : K) ≤
      (high - low) / gap + 1 := by
  have wide : 0 ≤ (high - low) / gap := div_nonneg (sub_nonneg.mpr forward) gap_pos.le
  by_cases filled : moments.filter (fun moment => low ≤ moment ∧ moment ≤ high) = []
  · rw [filled, List.length_nil, Nat.cast_zero]
    linarith
  · have inside : Spaced gap (moments.filter fun moment => low ≤ moment ∧ moment ≤ high) :=
      List.Pairwise.filter _ spaced
    have bound := inside.length_mul_le filled fun moment member => by
      simpa using (List.mem_filter.mp member).2
    rw [div_add_one gap_pos.ne', le_div_iff₀ gap_pos]
    exact bound

end Spaced
