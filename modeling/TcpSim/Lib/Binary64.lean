import Mathlib.Data.Int.Log
import Mathlib.Data.Rat.Floor
import Mathlib.Tactic.Linarith
import Mathlib.Tactic.FieldSimp

/-! Doubles as the rationals that they stand for: rounding to the nearest one, and how far it goes
wrong. Subnormal numbers and overflows are left out. -/

set_option autoImplicit false

/-! ## Integers -/

/-- The nearest integer, the even one of two. -/
def roundHalfEven (x : ℚ) : Int :=
  if x - ⌊x⌋ < 1 / 2 then ⌊x⌋
  else if 1 / 2 < x - ⌊x⌋ then ⌊x⌋ + 1
  else if ⌊x⌋ % 2 = 0 then ⌊x⌋
  else ⌊x⌋ + 1

theorem abs_roundHalfEven_sub_le (x : ℚ) : |(roundHalfEven x : ℚ) - x| ≤ 1 / 2 := by
  have low := Int.floor_le x
  have high := Int.lt_floor_add_one x
  unfold roundHalfEven
  split_ifs
  all_goals
    push_cast
    rw [abs_le]
    constructor <;> linarith

theorem roundHalfEven_of_near {x : ℚ} {n : Int} (near : |x - n| < 1 / 2) : roundHalfEven x = n := by
  have error := abs_roundHalfEven_sub_le x
  have apart : |(roundHalfEven x : ℚ) - n| < 1 := by
    have both := abs_sub_le (roundHalfEven x : ℚ) x n
    linarith
  have integers : |roundHalfEven x - n| < 1 := by exact_mod_cast apart
  have same := Int.abs_lt_one_iff.mp integers
  omega

/-- The integral part of `modf`. -/
def truncate (x : ℚ) : Int := if 0 ≤ x then ⌊x⌋ else ⌈x⌉

theorem abs_sub_truncate_lt (x : ℚ) : |x - truncate x| < 1 := by
  rw [abs_lt]
  unfold truncate
  split
  · have low := Int.floor_le x
    have high := Int.lt_floor_add_one x
    constructor <;> linarith
  · have low := Int.le_ceil x
    have high := Int.ceil_lt_add_one x
    constructor <;> linarith

/-! ## Doubles -/

namespace Binary64

/-- The distance between neighbouring doubles of the magnitude. -/
def ulp (x : ℚ) : ℚ := 2 ^ (Int.log 2 |x| - 52)

theorem ulp_pos (x : ℚ) : 0 < ulp x := zpow_pos two_pos _

/-- The double that is nearest to a number. -/
def ofRat (x : ℚ) : ℚ := roundHalfEven (x / ulp x) * ulp x

theorem abs_ofRat_sub_le (x : ℚ) : |ofRat x - x| ≤ ulp x / 2 := by
  have positive := ulp_pos x
  have scaled : ofRat x - x = (roundHalfEven (x / ulp x) - x / ulp x) * ulp x := by
    unfold ofRat
    field_simp
  rw [scaled, abs_mul, abs_of_pos positive]
  have error := mul_le_mul_of_nonneg_right (abs_roundHalfEven_sub_le (x / ulp x)) positive.le
  linarith

@[simp] theorem ofRat_zero : ofRat 0 = 0 := by
  have zero : roundHalfEven 0 = 0 := roundHalfEven_of_near (by norm_num)
  simp [ofRat, zero]

/-- A number below `2 ^ k` is rounded to one that is at most `2 ^ (k - 54)` away. -/
theorem abs_ofRat_sub_le_of_lt {x : ℚ} {k : Int} (small : |x| < 2 ^ k) :
    |ofRat x - x| ≤ 2 ^ (k - 54) := by
  by_cases zero : x = 0
  · subst zero
    simpa using (zpow_pos (two_pos : (0 : ℚ) < 2) (k - 54)).le
  · have magnitude : Int.log 2 |x| < k :=
      (Int.lt_zpow_iff_log_lt one_lt_two (abs_pos.mpr zero)).mp (by exact_mod_cast small)
    have half : ulp x / 2 = 2 ^ (Int.log 2 |x| - 53) := by
      unfold ulp
      rw [show Int.log 2 |x| - 52 = Int.log 2 |x| - 53 + 1 by ring, zpow_add_one₀ two_ne_zero]
      field_simp
    calc |ofRat x - x| ≤ ulp x / 2 := abs_ofRat_sub_le x
      _ = 2 ^ (Int.log 2 |x| - 53) := half
      _ ≤ 2 ^ (k - 54) := zpow_le_zpow_right₀ one_le_two (by omega)

end Binary64
