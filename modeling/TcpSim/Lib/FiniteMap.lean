import Mathlib.Data.Finset.Basic
import Mathlib.Data.Finset.Lattice.Basic
import Mathlib.Logic.Function.Basic

/-! Finite partial maps. Two of them are equal as soon as they look the same at every key:
the order in which keys were inserted is no part of a map. -/

set_option autoImplicit false

structure FiniteMap (κ ν : Type) where
  keys : Finset κ
  value : {key // key ∈ keys} → ν

namespace FiniteMap

variable {κ ν : Type} [DecidableEq κ]

def get? (map : FiniteMap κ ν) (key : κ) : Option ν :=
  if present : key ∈ map.keys then some (map.value ⟨key, present⟩) else none

theorem mem_keys_iff {map : FiniteMap κ ν} {key : κ} :
    key ∈ map.keys ↔ (map.get? key).isSome = true := by
  unfold get?
  split <;> simp [*]

@[ext] theorem ext {map other : FiniteMap κ ν} (same : ∀ key, map.get? key = other.get? key) :
    map = other := by
  obtain ⟨keys, value⟩ := map
  obtain ⟨otherKeys, otherValue⟩ := other
  obtain rfl : keys = otherKeys := by
    apply Finset.ext
    intro key
    have alike := congrArg Option.isSome (same key)
    rw [← Bool.coe_iff_coe] at alike
    exact mem_keys_iff.trans (alike.trans mem_keys_iff.symm)
  refine congrArg (FiniteMap.mk keys) (funext fun key => ?_)
  have alike := same key.1
  simp only [get?, key.2, dif_pos, Option.some.injEq] at alike
  exact alike

/-- The map with the values that `lookup` gives on `keys`. -/
def restrict (keys : Finset κ) (lookup : κ → Option ν) : FiniteMap κ ν where
  keys := keys.filter fun key => (lookup key).isSome
  value key := (lookup key.1).get (Finset.mem_filter.mp key.2).2

theorem restrict_get? {keys : Finset κ} {lookup : κ → Option ν}
    (covered : ∀ key, (lookup key).isSome = true → key ∈ keys) (key : κ) :
    (restrict keys lookup).get? key = lookup key := by
  unfold get?
  split
  next => exact Option.some_get _
  next absent =>
    simp only [restrict, Finset.mem_filter, not_and, Bool.not_eq_true, Option.isSome_eq_false_iff,
      Option.isNone_iff_eq_none] at absent
    by_cases found : (lookup key).isSome = true
    · exact (absent (covered key found)).symm
    · exact (Option.not_isSome_iff_eq_none.mp found).symm

def empty : FiniteMap κ ν := restrict ∅ fun _ => none

@[simp] theorem empty_get? (key : κ) : (empty : FiniteMap κ ν).get? key = none :=
  restrict_get? (by simp) key

def set (map : FiniteMap κ ν) (key : κ) (value : ν) : FiniteMap κ ν :=
  restrict (insert key map.keys) (Function.update map.get? key (some value))

@[simp] theorem set_get? (map : FiniteMap κ ν) (key : κ) (value : ν) :
    (map.set key value).get? = Function.update map.get? key (some value) := by
  refine funext (restrict_get? fun other found => ?_)
  by_cases same : other = key
  · exact same ▸ Finset.mem_insert_self _ _
  · rw [Function.update_of_ne same] at found
    exact Finset.mem_insert_of_mem (mem_keys_iff.mpr found)

/-- Remove a key, if it is there. -/
def pop (map : FiniteMap κ ν) (key : κ) : FiniteMap κ ν :=
  restrict map.keys (Function.update map.get? key none)

@[simp] theorem pop_get? (map : FiniteMap κ ν) (key : κ) :
    (map.pop key).get? = Function.update map.get? key none := by
  refine funext (restrict_get? fun other found => ?_)
  by_cases same : other = key
  · subst same
    rw [Function.update_self] at found
    cases found
  · rw [Function.update_of_ne same] at found
    exact mem_keys_iff.mpr found

/-- Every value of `override`, and those of `map` at the other keys. -/
def update (map override : FiniteMap κ ν) : FiniteMap κ ν :=
  restrict (map.keys ∪ override.keys) fun key => (override.get? key).or (map.get? key)

@[simp] theorem update_get? (map override : FiniteMap κ ν) (key : κ) :
    (map.update override).get? key = (override.get? key).or (map.get? key) := by
  refine restrict_get? (fun other found => ?_) key
  rw [Option.isSome_or, Bool.or_eq_true] at found
  rcases found with overridden | kept
  · exact Finset.mem_union_right _ (mem_keys_iff.mpr overridden)
  · exact Finset.mem_union_left _ (mem_keys_iff.mpr kept)

/-- The map of a list of entries; of two entries with one key the first counts. -/
def ofList (entries : List (κ × ν)) : FiniteMap κ ν :=
  restrict (entries.map Prod.fst).toFinset fun key => entries.lookup key

theorem ofList_get? (entries : List (κ × ν)) (key : κ) :
    (ofList entries).get? key = entries.lookup key := by
  refine restrict_get? (fun other found => ?_) key
  simp only [List.mem_toFinset]
  induction entries with
  | nil => cases found
  | cons entry rest ih =>
      obtain ⟨first, value⟩ := entry
      by_cases same : other = first
      · simp [same]
      · rw [List.lookup_cons, beq_eq_false_iff_ne.mpr same] at found
        exact List.mem_cons_of_mem _ (ih found)

end FiniteMap
