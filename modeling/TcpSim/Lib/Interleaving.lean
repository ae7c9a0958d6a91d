import Mathlib.Data.List.Basic

/-! Requests that share a state and give way to each other at their awaits. A block runs
from one await to the next and says where the request now waits. -/

set_option autoImplicit false

namespace Interleaving

variable {σ ρ : Type}

/-- The shared state, and where each request waits. -/
structure Pool (σ ρ : Type) where
  shared : σ
  points : List ρ

def Pool.launch (pool : Pool σ ρ) (block : σ → σ × ρ) : Pool σ ρ where
  shared := (block pool.shared).1
  points := pool.points ++ [(block pool.shared).2]

/-- The await of one request is over: it runs on to its next. -/
def Pool.advance (pool : Pool σ ρ) (index : Nat) (block : ρ → Option (σ → σ × ρ)) :
    Option (Pool σ ρ) := do
  let next ← block (← pool.points[index]?)
  return { shared := (next pool.shared).1, points := pool.points.set index (next pool.shared).2 }

theorem advance_eq_some {pool next : Pool σ ρ} {index : Nat} {block : ρ → Option (σ → σ × ρ)} :
    pool.advance index block = some next ↔
      ∃ point run, pool.points[index]? = some point ∧ block point = some run ∧
        next = { shared := (run pool.shared).1
                 points := pool.points.set index (run pool.shared).2 } := by
  simp only [Pool.advance, Option.bind_eq_bind, Option.bind_eq_some_iff, Option.pure_def,
    Option.some.injEq]
  constructor
  · intro advanced
    obtain ⟨point, found, run, chosen, rfl⟩ := advanced
    exact ⟨point, run, found, chosen, rfl⟩
  · intro taken
    obtain ⟨point, run, found, chosen, rfl⟩ := taken
    exact ⟨point, found, run, chosen, rfl⟩

/-- `launch` with a block that the shared state may not allow. -/
def Pool.tryLaunch (pool : Pool σ ρ) (block : σ → Option (σ × ρ)) : Option (Pool σ ρ) := do
  let next ← block pool.shared
  return { shared := next.1, points := pool.points ++ [next.2] }

def Pool.tryAdvance (pool : Pool σ ρ) (index : Nat) (block : ρ → σ → Option (σ × ρ)) :
    Option (Pool σ ρ) := do
  let point ← pool.points[index]?
  let next ← block point pool.shared
  return { shared := next.1, points := pool.points.set index next.2 }

theorem tryLaunch_eq_some {pool next : Pool σ ρ} {block : σ → Option (σ × ρ)} :
    pool.tryLaunch block = some next ↔
      ∃ shared point, block pool.shared = some (shared, point) ∧
        next = { shared, points := pool.points ++ [point] } := by
  simp only [Pool.tryLaunch, Option.bind_eq_bind, Option.bind_eq_some_iff, Option.pure_def,
    Option.some.injEq]
  constructor
  · intro launched
    obtain ⟨result, ran, rfl⟩ := launched
    exact ⟨result.1, result.2, ran, rfl⟩
  · intro taken
    obtain ⟨shared, point, ran, rfl⟩ := taken
    exact ⟨(shared, point), ran, rfl⟩

theorem tryAdvance_eq_some {pool next : Pool σ ρ} {index : Nat}
    {block : ρ → σ → Option (σ × ρ)} :
    pool.tryAdvance index block = some next ↔
      ∃ point shared replacement, pool.points[index]? = some point ∧
        block point pool.shared = some (shared, replacement) ∧
        next = { shared, points := pool.points.set index replacement } := by
  simp only [Pool.tryAdvance, Option.bind_eq_bind, Option.bind_eq_some_iff, Option.pure_def,
    Option.some.injEq]
  constructor
  · intro advanced
    obtain ⟨point, found, result, ran, rfl⟩ := advanced
    exact ⟨point, result.1, result.2, found, ran, rfl⟩
  · intro taken
    obtain ⟨point, shared, replacement, found, ran, rfl⟩ := taken
    exact ⟨point, found, (shared, replacement), ran, rfl⟩

/-! ## What holds of every request -/

section Points

variable {valid : σ → ρ → Prop} {pool : Pool σ ρ}
  (held : ∀ point ∈ pool.points, valid pool.shared point)

include held

theorem points_launch (block : σ → σ × ρ)
    (others : ∀ point, valid pool.shared point → valid (block pool.shared).1 point)
    (new : valid (block pool.shared).1 (block pool.shared).2) :
    ∀ point ∈ (pool.launch block).points, valid (pool.launch block).shared point := by
  intro point member
  rcases List.mem_append.mp member with old | added
  · exact others point (held point old)
  · rw [List.mem_singleton.mp added]
    exact new

theorem points_set {after : σ} (index : Nat) {replacement : ρ}
    (others : ∀ point, valid pool.shared point → valid after point)
    (new : valid after replacement) :
    ∀ point ∈ pool.points.set index replacement, valid after point := by
  intro point member
  rcases List.mem_or_eq_of_mem_set member with old | replaced
  · exact others point (held point old)
  · rw [replaced]
    exact new

end Points

/-! ## What some request is about to do -/

/-- Some request waits at a point of the kind. -/
def Waits (points : List ρ) (kind : ρ → Prop) : Prop :=
  ∃ point ∈ points, kind point

theorem Waits.mono {points : List ρ} {narrow wide : ρ → Prop} (waits : Waits points narrow)
    (wider : ∀ point, narrow point → wide point) : Waits points wide := by
  obtain ⟨point, member, kind⟩ := waits
  exact ⟨point, member, wider point kind⟩

theorem waits_launch {pool : Pool σ ρ} {kind : ρ → Prop} (block : σ → σ × ρ)
    (waits : Waits pool.points kind ∨ kind (block pool.shared).2) :
    Waits (pool.launch block).points kind := by
  rcases waits with ⟨point, member, waits⟩ | waits
  · exact ⟨point, List.mem_append_left _ member, waits⟩
  · exact ⟨_, List.mem_append_right _ (List.mem_singleton_self _), waits⟩

theorem mem_set_of_ne {points : List ρ} {index : Nat} {point other replacement : ρ}
    (found : points[index]? = some point) (member : other ∈ points) (distinct : other ≠ point) :
    other ∈ points.set index replacement := by
  obtain ⟨place, atPlace⟩ := List.mem_iff_getElem?.mp member
  refine List.mem_iff_getElem?.mpr ⟨place, ?_⟩
  have elsewhere : index ≠ place := by
    intro same
    rw [same] at found
    exact distinct (Option.some.inj (atPlace.symm.trans found))
  rw [List.getElem?_set_ne elsewhere]
  exact atPlace

theorem mem_set_of_others {points : List ρ} {index : Nat} {replacement point : ρ}
    (member : point ∈ points.set index replacement) :
    point ∈ points.eraseIdx index ∨ point = replacement := by
  induction points generalizing index with
  | nil => cases member
  | cons first rest ih =>
      cases index with
      | zero => exact (List.mem_cons.mp member).symm
      | succ index =>
          rcases List.mem_cons.mp member with rfl | member
          · exact Or.inl List.mem_cons_self
          · exact (ih member).imp_left (List.mem_cons_of_mem _)

theorem of_getElem?_singleton {points : List ρ} {index : Nat} {point other : ρ}
    (alone : points = [point]) (found : points[index]? = some other) : index = 0 ∧ point = other := by
  subst alone
  rw [List.getElem?_singleton] at found
  split at found
  next first => exact ⟨first, Option.some.inj found⟩
  · cases found

theorem waits_set {points : List ρ} {index : Nat} {point replacement : ρ} {kind : ρ → Prop}
    (found : points[index]? = some point)
    (waits : kind replacement ∨ ¬kind point ∧ Waits points kind) :
    Waits (points.set index replacement) kind := by
  rcases waits with waits | ⟨unlike, other, member, waits⟩
  · obtain ⟨inside, _⟩ := List.getElem?_eq_some_iff.mp found
    exact ⟨replacement, List.mem_set inside replacement, waits⟩
  · refine ⟨other, mem_set_of_ne found member ?_, waits⟩
    intro same
    rw [same] at waits
    exact unlike waits

/-! ## What the requests hold -/

section Held

variable {κ : Type} {view : ρ → Option κ} {points : List ρ} {index : Nat} {point replacement : ρ}

theorem filterMap_set_of_same (found : points[index]? = some point)
    (same : view replacement = view point) :
    (points.set index replacement).filterMap view = points.filterMap view := by
  induction points generalizing index with
  | nil => rfl
  | cons first rest ih =>
      cases index with
      | zero =>
          obtain rfl := Option.some.inj found
          simp only [List.set_cons_zero, List.filterMap_cons, same]
      | succ index =>
          simp only [List.set_cons_succ, List.filterMap_cons, ih found]

/-- Where one request at most holds something, it is the one found to hold it. -/
theorem filterMap_set_of_single {item : κ} (found : points[index]? = some point)
    (holds : view point = some item) (single : (points.filterMap view).length ≤ 1) :
    points.filterMap view = [item] ∧
      (points.set index replacement).filterMap view = (view replacement).toList := by
  induction points generalizing index with
  | nil => cases found
  | cons first rest ih =>
      cases index with
      | zero =>
          obtain rfl := Option.some.inj found
          rw [List.filterMap_cons, holds] at single
          have others : rest.filterMap view = [] := List.length_eq_zero_iff.mp (by simpa using single)
          simp only [List.set_cons_zero, List.filterMap_cons, holds, others]
          cases view replacement <;> simp
      | succ index =>
          cases held : view first with
          | none =>
              simp only [List.filterMap_cons, held] at single
              simp only [List.set_cons_succ, List.filterMap_cons, held]
              exact ih found single
          | some other =>
              have member : item ∈ rest.filterMap view :=
                List.mem_filterMap.mpr ⟨point, List.mem_of_getElem? found, holds⟩
              have others : rest.filterMap view = [] := by
                simp only [List.filterMap_cons, held] at single
                exact List.length_eq_zero_iff.mp (by simpa using single)
              rw [others] at member
              cases member

end Held

def Pool.Idle (pool : Pool σ ρ) (ended : ρ) : Prop :=
  ∀ point ∈ pool.points, point = ended

theorem Pool.Idle.not_waits {pool : Pool σ ρ} {ended : ρ} {kind : ρ → Prop}
    (idle : pool.Idle ended) (other : ¬kind ended) : ¬Waits pool.points kind := by
  intro waits
  obtain ⟨point, member, waits⟩ := waits
  rw [idle point member] at waits
  exact other waits

end Interleaving
