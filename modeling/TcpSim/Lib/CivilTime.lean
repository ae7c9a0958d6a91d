import Mathlib.Algebra.Ring.Nat
import Mathlib.Data.List.Basic

/-! Dates of the proleptic Gregorian calendar by their ordinal, the 1 January of year 1 being
the first, and numerals of a fixed width. -/

set_option autoImplicit false

namespace CivilTime

/-! ## Dates -/

structure Date where
  year : Nat
  month : Nat
  day : Nat
  deriving DecidableEq, Repr

def isLeap (year : Nat) : Bool := year % 4 = 0 && (year % 100 ≠ 0 || year % 400 = 0)

def daysBeforeYear (year : Nat) : Nat :=
  let y := year - 1
  y * 365 + y / 4 - y / 100 + y / 400

/-- Of a year with or without 29 February. -/
def daysBeforeMonth (leap : Bool) (month : Nat) : Nat :=
  [0, 0, 31, 59, 90, 120, 151, 181, 212, 243, 273, 304, 334].getD month 0 +
    if 2 < month ∧ leap then 1 else 0

def Date.toOrdinal (self : Date) : Nat :=
  daysBeforeYear self.year + daysBeforeMonth (isLeap self.year) self.month + self.day

/-- Month and day of a day of the year, counted from 0: an estimate that is at most one month
too large. -/
def monthDay (leap : Bool) (n : Nat) : Nat × Nat :=
  let month := (n + 50) / 32
  if daysBeforeMonth leap month > n then (month - 1, n - daysBeforeMonth leap (month - 1) + 1)
  else (month, n - daysBeforeMonth leap month + 1)

/-- The date by cycles of 400, 100, 4 and 1 years; only the last day of a cycle of 400 or of 4
years overflows its last part. -/
def Date.ofOrdinal (ordinal : Nat) : Date :=
  let n := ordinal - 1
  let n400 := n / 146097
  let n100 := n % 146097 / 36524
  let n4 := n % 146097 % 36524 / 1461
  let n1 := n % 146097 % 36524 % 1461 / 365
  let day := n % 146097 % 36524 % 1461 % 365
  let year := n400 * 400 + 1 + n100 * 100 + n4 * 4 + n1
  if n1 = 4 ∨ n100 = 4 then { year := year - 1, month := 12, day := 31 }
  else
    let found := monthDay (n1 = 3 && (n4 ≠ 24 || n100 = 3)) day
    { year, month := found.1, day := found.2 }

theorem daysBeforeYear_cycles {n400 n100 n4 n1 : Nat} (hundreds : n100 ≤ 3) (fours : n4 ≤ 24)
    (ones : n1 ≤ 3) :
    daysBeforeYear (n400 * 400 + 1 + n100 * 100 + n4 * 4 + n1) =
      n400 * 146097 + n100 * 36524 + n4 * 1461 + n1 * 365 := by
  have before : n400 * 400 + 1 + n100 * 100 + n4 * 4 + n1 - 1 =
      n400 * 400 + n100 * 100 + n4 * 4 + n1 := by omega
  rw [daysBeforeYear, before]
  omega

theorem isLeap_cycles {n400 n100 n4 n1 : Nat} (hundreds : n100 ≤ 3) (fours : n4 ≤ 24)
    (ones : n1 ≤ 3) :
    isLeap (n400 * 400 + 1 + n100 * 100 + n4 * 4 + n1) = (n1 = 3 && (n4 ≠ 24 || n100 = 3)) := by
  unfold isLeap
  have byFour : (n400 * 400 + 1 + n100 * 100 + n4 * 4 + n1) % 4 = 0 ↔ n1 = 3 := by omega
  have byHundred : (n400 * 400 + 1 + n100 * 100 + n4 * 4 + n1) % 100 = 0 ↔ n4 = 24 ∧ n1 = 3 := by
    omega
  have byFourHundred : (n400 * 400 + 1 + n100 * 100 + n4 * 4 + n1) % 400 = 0 ↔
      n100 = 3 ∧ n4 = 24 ∧ n1 = 3 := by omega
  simp only [byFour, byHundred, byFourHundred, ne_eq]
  grind

theorem monthDay_spec (leap : Bool) {n : Nat} (within : n < 365) :
    daysBeforeMonth leap (monthDay leap n).1 + (monthDay leap n).2 = n + 1 ∧
      (monthDay leap n).1 ≤ 12 ∧ (monthDay leap n).2 ≤ 31 := by
  have each : ∀ leap : Bool, ∀ n : Fin 365,
      daysBeforeMonth leap (monthDay leap n).1 + (monthDay leap n).2 = n + 1 ∧
        (monthDay leap n).1 ≤ 12 ∧ (monthDay leap n).2 ≤ 31 := by
    decide +kernel
  exact each leap ⟨n, within⟩

/-- 31 December of a leap year. -/
theorem toOrdinal_last {n400 n100 n4 : Nat} (hundreds : n100 ≤ 3) (fours : n4 ≤ 24)
    (leap : n4 ≠ 24 ∨ n100 = 3) :
    (Date.mk (n400 * 400 + 1 + n100 * 100 + n4 * 4 + 3) 12 31).toOrdinal =
      n400 * 146097 + n100 * 36524 + n4 * 1461 + 1461 := by
  have isLeap := @isLeap_cycles n400 n100 n4 3 hundreds fours (Nat.le_refl 3)
  rw [Date.toOrdinal, daysBeforeYear_cycles hundreds fours (Nat.le_refl 3), isLeap]
  have days : daysBeforeMonth (decide (3 = 3) && (decide (n4 ≠ 24) || decide (n100 = 3))) 12 = 335 := by
    simp [leap, daysBeforeMonth]
  dsimp only
  omega

theorem Date.toOrdinal_ofOrdinal {ordinal : Nat} (pos : 0 < ordinal) :
    (ofOrdinal ordinal).toOrdinal = ordinal := by
  unfold ofOrdinal
  dsimp only
  generalize years : (ordinal - 1) / 146097 = n400
  generalize hundreds : (ordinal - 1) % 146097 / 36524 = n100
  generalize fours : (ordinal - 1) % 146097 % 36524 / 1461 = n4
  generalize ones : (ordinal - 1) % 146097 % 36524 % 1461 / 365 = n1
  generalize days : (ordinal - 1) % 146097 % 36524 % 1461 % 365 = day
  have whole : ordinal = n400 * 146097 + n100 * 36524 + n4 * 1461 + n1 * 365 + day + 1 := by omega
  split
  next last =>
      rcases last with rfl | rfl
      · have inside : n100 ≤ 3 ∧ n4 ≤ 23 ∧ day = 0 := by omega
        have year : n400 * 400 + 1 + n100 * 100 + n4 * 4 + 4 - 1 =
            n400 * 400 + 1 + n100 * 100 + n4 * 4 + 3 := by omega
        rw [year, toOrdinal_last inside.1 (by omega) (.inl (by omega))]
        omega
      · have inside : n4 = 0 ∧ n1 = 0 ∧ day = 0 := by omega
        have year : n400 * 400 + 1 + 4 * 100 + n4 * 4 + n1 - 1 =
            n400 * 400 + 1 + 3 * 100 + 24 * 4 + 3 := by omega
        rw [year, toOrdinal_last (Nat.le_refl 3) (Nat.le_refl 24) (.inr rfl)]
        omega
  next inside =>
      have bounds : n100 ≤ 3 ∧ n4 ≤ 24 ∧ n1 ≤ 3 ∧ day < 365 := by omega
      obtain ⟨hundred, four, one, within⟩ := bounds
      have found := (monthDay_spec (n1 = 3 && (n4 ≠ 24 || n100 = 3)) within).1
      rw [toOrdinal, daysBeforeYear_cycles hundred four one, isLeap_cycles hundred four one]
      dsimp only at found ⊢
      omega

/-- The ordinals of the years 1 to 9999. -/
theorem Date.ofOrdinal_small {ordinal : Nat} (pos : 0 < ordinal) (small : ordinal ≤ 3652059) :
    (ofOrdinal ordinal).year < 10000 ∧ (ofOrdinal ordinal).month < 100 ∧
      (ofOrdinal ordinal).day < 100 := by
  unfold ofOrdinal
  dsimp only
  split
  next last =>
      dsimp only
      omega
  next inside =>
      have within : (ordinal - 1) % 146097 % 36524 % 1461 % 365 < 365 := Nat.mod_lt _ (by decide)
      have found := monthDay_spec ((ordinal - 1) % 146097 % 36524 % 1461 / 365 = 3 &&
        ((ordinal - 1) % 146097 % 36524 / 1461 ≠ 24 || (ordinal - 1) % 146097 / 36524 = 3)) within
      dsimp only
      omega

/-! ## Numerals -/

/-- The last digits of a number, with leading zeros. -/
def numeral : (width n : Nat) → List Char
  | 0, _ => []
  | width + 1, n => numeral width (n / 10) ++ [Nat.digitChar (n % 10)]

def readNumeral (text : List Char) : Nat :=
  text.foldl (fun value digit => value * 10 + (digit.toNat - 48)) 0

theorem readNumeral_numeral {width n : Nat} (small : n < 10 ^ width) :
    readNumeral (numeral width n) = n := by
  induction width generalizing n with
  | zero =>
      have none_ : n = 0 := by simpa using small
      rw [none_]
      rfl
  | succ width ih =>
      have upper : n / 10 < 10 ^ width := by
        rw [pow_succ] at small
        omega
      have leading := ih upper
      have last : (Nat.digitChar (n % 10)).toNat = 48 + n % 10 :=
        Nat.toNat_digitChar_of_lt_ten (by omega)
      unfold readNumeral at leading ⊢
      rw [numeral, List.foldl_append, leading, List.foldl_cons, List.foldl_nil, last]
      omega

theorem isDigit_of_mem_numeral {width n : Nat} {digit : Char} (member : digit ∈ numeral width n) :
    digit.isDigit = true := by
  induction width generalizing n with
  | zero => cases member
  | succ width ih =>
      rcases List.mem_append.mp member with leading | last
      · exact ih leading
      · rw [List.mem_singleton.mp last]
        rw [Nat.isDigit_digitChar, decide_eq_true_iff]
        omega

end CivilTime
