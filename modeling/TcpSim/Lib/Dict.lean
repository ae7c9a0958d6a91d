import Mathlib.Data.List.Nodup
import Mathlib.Logic.Function.Basic

/-! Dictionaries that remember the order in which their keys were inserted. -/

set_option autoImplicit false

variable {κ ν : Type}

structure Dict (κ ν : Type) where
  get? : κ → Option ν
  keys : List κ
  nodup : keys.Nodup
  mem_keys : ∀ key, key ∈ keys ↔ (get? key).isSome = true

namespace Dict

def empty : Dict κ ν where
  get? := fun _ => none
  keys := []
  nodup := List.nodup_nil
  mem_keys := by simp

@[simp] theorem empty_get? (key : κ) : (empty : Dict κ ν).get? key = none := rfl

variable [DecidableEq κ] (self : Dict κ ν)

/-- A key that is there already keeps its place. -/
def set (key : κ) (value : ν) : Dict κ ν where
  get? := Function.update self.get? key (some value)
  keys := if key ∈ self.keys then self.keys else self.keys ++ [key]
  nodup := by
    split
    · exact self.nodup
    · next absent =>
        rw [List.nodup_append]
        refine ⟨self.nodup, List.nodup_singleton key, ?_⟩
        intro old member other same
        rw [List.mem_singleton.mp same]
        intro equal
        exact absent (equal ▸ member)
  mem_keys := by
    intro other
    by_cases same : other = key
    · subst same
      split
      · next present => simpa using present
      · simp
    · rw [Function.update_of_ne same, ← self.mem_keys other]
      split
      · exact Iff.rfl
      · simp [same]

/-- Remove a key, if it is there. -/
def pop (key : κ) : Dict κ ν where
  get? := Function.update self.get? key none
  keys := self.keys.erase key
  nodup := self.nodup.erase key
  mem_keys := by
    intro other
    rw [self.nodup.mem_erase_iff]
    by_cases same : other = key
    · simp [same]
    · rw [Function.update_of_ne same, ← self.mem_keys other]
      simp [same]

@[simp] theorem set_get?_self (key : κ) (value : ν) :
    (self.set key value).get? key = some value := by
  simp [set]

theorem set_get?_of_ne {key other : κ} (distinct : other ≠ key) (value : ν) :
    (self.set key value).get? other = self.get? other := by
  simp [set, distinct]

@[simp] theorem pop_get?_self (key : κ) : (self.pop key).get? key = none := by
  simp [pop]

theorem pop_get?_of_ne {key other : κ} (distinct : other ≠ key) :
    (self.pop key).get? other = self.get? other := by
  simp [pop, distinct]

end Dict
