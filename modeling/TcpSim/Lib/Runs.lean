import Mathlib.Data.List.Basic
import Mathlib.Data.List.Infix
import Mathlib.Order.Basic

/-! Finite runs of a system given by an executable step function. An action
that is not possible in a state has no successor. -/

set_option autoImplicit false

namespace Runs

variable {σ α : Type}

/-- The state after the actions, or `none` as soon as one of them is not possible. -/
def run (step : σ → α → Option σ) (state : σ) (actions : List α) : Option σ :=
  actions.foldlM step state

@[simp] theorem run_nil (step : σ → α → Option σ) (state : σ) :
    run step state [] = some state := rfl

theorem run_cons (step : σ → α → Option σ) (state : σ) (action : α) (rest : List α) :
    run step state (action :: rest) = (step state action).bind (run step · rest) := rfl

theorem run_cons_eq_some {step : σ → α → Option σ} {state final : σ} {action : α}
    {rest : List α} :
    run step state (action :: rest) = some final ↔
      ∃ next, step state action = some next ∧ run step next rest = some final := by
  rw [run_cons, Option.bind_eq_some_iff]

theorem run_append_eq_some {step : σ → α → Option σ} {state final : σ}
    {first second : List α} :
    run step state (first ++ second) = some final ↔
      ∃ middle, run step state first = some middle ∧ run step middle second = some final := by
  simp [run, List.foldlM_append, Option.bind_eq_some_iff]

theorem run_invariant_of {step : σ → α → Option σ} (allowed : α → Prop) (inv : σ → Prop)
    (kept : ∀ state action next, allowed action → inv state →
      step state action = some next → inv next)
    {state final : σ} {actions : List α} (initial : inv state)
    (only : ∀ action ∈ actions, allowed action)
    (ran : run step state actions = some final) : inv final := by
  induction actions generalizing state with
  | nil =>
      cases ran
      exact initial
  | cons action rest ih =>
      obtain ⟨next, taken, ran⟩ := run_cons_eq_some.mp ran
      exact ih (kept state action next (only action (by simp)) initial taken)
        (fun later member => only later (by simp [member])) ran

theorem run_invariant {step : σ → α → Option σ} (inv : σ → Prop)
    (kept : ∀ state action next, inv state → step state action = some next → inv next)
    {state final : σ} {actions : List α} (initial : inv state)
    (ran : run step state actions = some final) : inv final :=
  run_invariant_of (fun _ => True) inv (fun state action next _ => kept state action next) initial
    (fun _ _ => trivial) ran

/-- A value of the state and of what the actions ahead will emit, which no step changes. A step
may also end in a lost state, for which nothing is said and which no step leaves. -/
theorem run_conserves {κ β γ : Type} {step : σ → α → Option σ} (emit : α → List β)
    (value : κ → σ → List β → γ) (inv : κ → σ → Prop) (lost : σ → Prop)
    (stuck : ∀ state action next, lost state → step state action = some next → lost next)
    (kept : ∀ level state action next, inv level state → step state action = some next →
      lost next ∨ ∃ after, inv after next ∧
        ∀ ahead, value after next ahead = value level state (emit action ++ ahead))
    {level : κ} {state final : σ} {actions : List α} (initial : inv level state)
    (ran : run step state actions = some final) :
    lost final ∨ ∃ after, inv after final ∧
      ∀ ahead, value after final ahead = value level state (actions.flatMap emit ++ ahead) := by
  induction actions generalizing level state with
  | nil =>
      cases ran
      exact .inr ⟨level, initial, fun _ => rfl⟩
  | cons action rest ih =>
      obtain ⟨next, taken, ran⟩ := run_cons_eq_some.mp ran
      rcases kept level state action next initial taken with gone | ⟨middle, held, same⟩
      · exact .inl (run_invariant lost stuck gone ran)
      · refine (ih held ran).imp_right ?_
        intro later
        obtain ⟨after, reached, conserved⟩ := later
        refine ⟨after, reached, fun ahead => ?_⟩
        rw [conserved, same, List.flatMap_cons, List.append_assoc]

/-- A state that some initial part of the run leads to. -/
def Visits (step : σ → α → Option σ) (state : σ) (actions : List α) (visited : σ) : Prop :=
  ∃ done, done <+: actions ∧ run step state done = some visited

theorem visits_self (step : σ → α → Option σ) (state : σ) (actions : List α) :
    Visits step state actions state :=
  ⟨[], List.nil_prefix, rfl⟩

theorem visits_cons {step : σ → α → Option σ} {state next visited : σ} {action : α}
    {rest : List α} (taken : step state action = some next)
    (later : Visits step next rest visited) :
    Visits step state (action :: rest) visited := by
  obtain ⟨done, initialPart, ran⟩ := later
  exact ⟨action :: done, List.cons_prefix_cons.mpr ⟨rfl, initialPart⟩,
    run_cons_eq_some.mpr ⟨next, taken, ran⟩⟩

theorem visits_invariant_of {step : σ → α → Option σ} (allowed : α → Prop) (inv : σ → Prop)
    (kept : ∀ state action next, allowed action → inv state →
      step state action = some next → inv next)
    {state visited : σ} {actions : List α} (initial : inv state)
    (only : ∀ action ∈ actions, allowed action)
    (visits : Visits step state actions visited) : inv visited := by
  obtain ⟨done, initialPart, ran⟩ := visits
  exact run_invariant_of allowed inv kept initial
    (fun action member => only action (initialPart.mem member)) ran

/-- If every counted step uses up potential while `good` holds, there are at most as many
of them as the potential at the start. -/
theorem countP_add_le {step : σ → α → Option σ} (allowed : α → Prop) (inv good : σ → Prop)
    (counted : α → Bool) (potential : σ → Nat)
    (kept : ∀ state action next, allowed action → inv state →
      step state action = some next → inv next)
    (spends : ∀ state action next, allowed action → inv state → good state → good next →
      step state action = some next →
      (counted action).toNat + potential next ≤ potential state)
    {state final : σ} {actions : List α} (initial : inv state)
    (only : ∀ action ∈ actions, allowed action)
    (stays : ∀ visited, Visits step state actions visited → good visited)
    (ran : run step state actions = some final) :
    actions.countP counted + potential final ≤ potential state := by
  induction actions generalizing state with
  | nil =>
      cases ran
      simp
  | cons action rest ih =>
      obtain ⟨next, taken, restRan⟩ := run_cons_eq_some.mp ran
      have first := only action (by simp)
      have later : ∀ visited, Visits step next rest visited → good visited :=
        fun visited visits => stays visited (visits_cons taken visits)
      have spent := spends state action next first initial
        (stays state (visits_self step state _)) (later next (visits_self step next rest)) taken
      have others := ih (kept state action next first initial taken)
        (fun other member => only other (by simp [member])) later restRan
      rw [List.countP_cons]
      cases counts : counted action with
      | true =>
          rw [counts, Bool.toNat_true] at spent
          rw [if_pos rfl]
          omega
      | false =>
          rw [counts, Bool.toNat_false] at spent
          rw [if_neg (by simp)]
          omega

/-- A level that a step raises only up to the cap of its own state stays, over a run,
below where it began or below the cap of a visited state. -/
theorem run_le_visited {γ : Type} [Preorder γ] {step : σ → α → Option σ} (level cap : σ → γ)
    (kept : ∀ state action next, step state action = some next →
      level next ≤ level state ∨ level next ≤ cap state)
    {state final : σ} {actions : List α} (ran : run step state actions = some final) :
    level final ≤ level state ∨
      ∃ visited, Visits step state actions visited ∧ level final ≤ cap visited := by
  induction actions generalizing state with
  | nil =>
      cases ran
      exact .inl le_rfl
  | cons action rest ih =>
      obtain ⟨next, taken, ran⟩ := run_cons_eq_some.mp ran
      rcases ih ran with below | ⟨visited, visits, below⟩
      · rcases kept state action next taken with falls | capped
        · exact .inl (below.trans falls)
        · exact .inr ⟨state, visits_self step state _, below.trans capped⟩
      · exact .inr ⟨visited, visits_cons taken visits, below⟩

/-- Every step of the run is taken in a state in which `condition` allows it. -/
def Each (step : σ → α → Option σ) (condition : σ → α → Prop) : σ → List α → Prop
  | _, [] => True
  | state, action :: rest => condition state action ∧
      ∀ next, step state action = some next → Each step condition next rest

instance Each.decidable {step : σ → α → Option σ} {condition : σ → α → Prop}
    [decide : ∀ state action, Decidable (condition state action)] :
    (state : σ) → (actions : List α) → Decidable (Each step condition state actions)
  | _, [] => .isTrue trivial
  | state, action :: rest =>
      match taken : step state action with
      | none => decidable_of_iff (condition state action) (by simp [Each, taken])
      | some next =>
          have : Decidable (Each step condition next rest) := Each.decidable next rest
          decidable_of_iff (condition state action ∧ Each step condition next rest)
            (by simp [Each, taken])

theorem Each.mono {step : σ → α → Option σ} {weaker stronger : σ → α → Prop}
    (implied : ∀ state action, stronger state action → weaker state action) {state : σ}
    {actions : List α} (each : Each step stronger state actions) :
    Each step weaker state actions := by
  induction actions generalizing state with
  | nil => trivial
  | cons action rest ih =>
      obtain ⟨met, later⟩ := each
      exact ⟨implied state action met, fun next taken => ih (later next taken)⟩

theorem Each.of_prefix {step : σ → α → Option σ} {condition : σ → α → Prop} {state : σ}
    {done actions : List α} (each : Each step condition state actions)
    (initialPart : done <+: actions) : Each step condition state done := by
  induction done generalizing state actions with
  | nil => trivial
  | cons action done ih =>
      obtain ⟨rest, rfl⟩ := initialPart
      obtain ⟨met, later⟩ := each
      exact ⟨met, fun next taken => ih (later next taken) (List.prefix_append done rest)⟩

/-- If, among the states satisfying `inv`, an allowed step keeps `good` exactly when
`condition` holds of it, then a run stays good exactly when its steps all meet it. -/
theorem stays_iff_each {step : σ → α → Option σ} (allowed : α → Prop) (inv good : σ → Prop)
    (condition : σ → α → Prop)
    (kept : ∀ state action next, allowed action → inv state →
      step state action = some next → inv next)
    (exactly : ∀ state action next, allowed action → inv state → good state →
      step state action = some next → (good next ↔ condition state action))
    {state final : σ} {actions : List α} (valid : inv state) (initial : good state)
    (only : ∀ action ∈ actions, allowed action)
    (ran : run step state actions = some final) :
    (∀ visited, Visits step state actions visited → good visited) ↔
      Each step condition state actions := by
  induction actions generalizing state with
  | nil =>
      simp only [Each, iff_true]
      intro visited visits
      obtain ⟨done, initialPart, reached⟩ := visits
      obtain rfl := List.prefix_nil.mp initialPart
      cases reached
      exact initial
  | cons action rest ih =>
      obtain ⟨next, taken, restRan⟩ := run_cons_eq_some.mp ran
      have first := only action (by simp)
      have others : ∀ later ∈ rest, allowed later :=
        fun later member => only later (by simp [member])
      have nextValid := kept state action next first valid taken
      constructor
      · intro stays
        have nextGood := stays next (visits_cons taken (visits_self step next rest))
        refine ⟨(exactly state action next first valid initial taken).mp nextGood, ?_⟩
        intro other takenOther
        obtain rfl := Option.some.inj (taken.symm.trans takenOther)
        exact (ih nextValid nextGood others restRan).mp fun visited visits =>
          stays visited (visits_cons taken visits)
      · intro each visited visits
        obtain ⟨met, later⟩ := each
        obtain ⟨done, initialPart, reached⟩ := visits
        have nextGood := (exactly state action next first valid initial taken).mpr met
        cases done with
        | nil =>
            cases reached
            exact initial
        | cons head done =>
            obtain ⟨rfl, restPart⟩ := List.cons_prefix_cons.mp initialPart
            obtain ⟨other, takenOther, reached⟩ := run_cons_eq_some.mp reached
            obtain rfl := Option.some.inj (taken.symm.trans takenOther)
            exact (ih nextValid nextGood others restRan).mpr (later next taken) visited
              ⟨done, restPart, reached⟩

/-- If an allowed step ends in a good state exactly when it starts in one and `condition`
holds of it, then a run ends in one exactly when its steps all meet the condition. -/
theorem final_iff_each {step : σ → α → Option σ} (allowed : α → Prop) (inv good : σ → Prop)
    (condition : σ → α → Prop)
    (kept : ∀ state action next, allowed action → inv state →
      step state action = some next → inv next)
    (exactly : ∀ state action next, allowed action → inv state →
      step state action = some next → (good next ↔ good state ∧ condition state action))
    {state final : σ} {actions : List α} (valid : inv state)
    (only : ∀ action ∈ actions, allowed action)
    (ran : run step state actions = some final) :
    good final ↔ good state ∧ Each step condition state actions := by
  induction actions generalizing state with
  | nil =>
      cases ran
      exact (and_iff_left trivial).symm
  | cons action rest ih =>
      obtain ⟨next, taken, restRan⟩ := run_cons_eq_some.mp ran
      have first := only action (by simp)
      have after := ih (kept state action next first valid taken)
        (fun later member => only later (by simp [member])) restRan
      have one := exactly state action next first valid taken
      constructor
      · intro reached
        obtain ⟨nextGood, later⟩ := after.mp reached
        obtain ⟨before, met⟩ := one.mp nextGood
        refine ⟨before, met, ?_⟩
        intro other takenOther
        obtain rfl := Option.some.inj (taken.symm.trans takenOther)
        exact later
      · intro both
        obtain ⟨before, met, later⟩ := both
        exact after.mpr ⟨one.mpr ⟨before, met⟩, later next taken⟩

/-- If, among the states satisfying `inv`, `property` holds of an allowed step exactly when
`condition` does, and steps that meet it keep `inv`, then one holds throughout a run exactly
when the other does. -/
theorem each_iff_each {step : σ → α → Option σ} (allowed : α → Prop) (inv : σ → Prop)
    {property condition : σ → α → Prop}
    (kept : ∀ state action next, allowed action → inv state → condition state action →
      step state action = some next → inv next)
    (exactly : ∀ state action, allowed action → inv state →
      (property state action ↔ condition state action))
    {state : σ} {actions : List α} (valid : inv state)
    (only : ∀ action ∈ actions, allowed action) :
    Each step property state actions ↔ Each step condition state actions := by
  induction actions generalizing state with
  | nil => exact Iff.rfl
  | cons action rest ih =>
      have first := only action List.mem_cons_self
      have others : ∀ later ∈ rest, allowed later :=
        fun later member => only later (List.mem_cons_of_mem _ member)
      have here := exactly state action first valid
      constructor
      · intro each
        obtain ⟨met, later⟩ := each
        refine ⟨here.mp met, fun next taken => ?_⟩
        exact (ih (kept state action next first valid (here.mp met) taken) others).mp
          (later next taken)
      · intro each
        obtain ⟨met, later⟩ := each
        refine ⟨here.mpr met, fun next taken => ?_⟩
        exact (ih (kept state action next first valid met taken) others).mpr (later next taken)

theorem each_of_only {step : σ → α → Option σ} {condition : σ → α → Prop} {allowed : α → Prop}
    (implied : ∀ state action, allowed action → condition state action) {state : σ}
    {actions : List α} (only : ∀ action ∈ actions, allowed action) :
    Each step condition state actions := by
  induction actions generalizing state with
  | nil => trivial
  | cons action rest ih =>
      refine ⟨implied state action (only action List.mem_cons_self), ?_⟩
      intro next _
      exact ih fun other member => only other (List.mem_cons_of_mem _ member)

/-- In a run that goes through, a condition on the actions alone is one on each of them. -/
theorem each_iff_of_run {step : σ → α → Option σ} {allowed : α → Prop} {state final : σ}
    {actions : List α} (ran : run step state actions = some final) :
    Each step (fun _ action => allowed action) state actions ↔
      ∀ action ∈ actions, allowed action := by
  constructor
  · intro each
    induction actions generalizing state with
    | nil => simp
    | cons action rest ih =>
        obtain ⟨next, taken, ran⟩ := run_cons_eq_some.mp ran
        obtain ⟨met, later⟩ := each
        exact List.forall_mem_cons.mpr ⟨met, ih ran (later next taken)⟩
  · intro only
    exact each_of_only (fun _ _ met => met) only

theorem Each.of_only {step : σ → α → Option σ} {condition : σ → α → Prop} {allowed : α → Prop}
    {state : σ} {actions : List α} (each : Each step condition state actions)
    (only : ∀ action ∈ actions, allowed action) :
    Each step (fun state action => allowed action ∧ condition state action) state actions := by
  induction actions generalizing state with
  | nil => trivial
  | cons action rest ih =>
      obtain ⟨met, later⟩ := each
      refine ⟨⟨only action List.mem_cons_self, met⟩, ?_⟩
      intro next taken
      exact ih (later next taken) fun other member => only other (List.mem_cons_of_mem _ member)

/-- Where an invariant turns the condition of each step into a conclusion about it. -/
theorem Each.conclude {step : σ → α → Option σ} {condition conclusion : σ → α → Prop}
    (inv : σ → Prop)
    (kept : ∀ state action next, condition state action → inv state →
      step state action = some next → inv next)
    (concludes : ∀ state action, condition state action → inv state → conclusion state action)
    {state : σ} {actions : List α} (initial : inv state)
    (each : Each step condition state actions) : Each step conclusion state actions := by
  induction actions generalizing state with
  | nil => trivial
  | cons action rest ih =>
      obtain ⟨met, later⟩ := each
      refine ⟨concludes state action met initial, ?_⟩
      intro next taken
      exact ih (kept state action next met initial taken) (later next taken)

theorem Each.visits_invariant {step : σ → α → Option σ} {condition : σ → α → Prop}
    (inv : σ → Prop)
    (kept : ∀ state action next, condition state action → inv state →
      step state action = some next → inv next)
    {state visited : σ} {actions : List α} (initial : inv state)
    (each : Each step condition state actions) (visits : Visits step state actions visited) :
    inv visited := by
  induction actions generalizing state with
  | nil =>
      obtain ⟨done, initialPart, reached⟩ := visits
      obtain rfl := List.prefix_nil.mp initialPart
      cases reached
      exact initial
  | cons action rest ih =>
      obtain ⟨met, later⟩ := each
      obtain ⟨done, initialPart, reached⟩ := visits
      cases done with
      | nil =>
          cases reached
          exact initial
      | cons head done =>
          obtain ⟨rfl, restPart⟩ := List.cons_prefix_cons.mp initialPart
          obtain ⟨next, taken, reached⟩ := run_cons_eq_some.mp reached
          exact ih (kept state head next met initial taken) (later next taken)
            ⟨done, restPart, reached⟩

/-- An invariant of the state and of what the actions so far have emitted. -/
theorem Each.run_history {β : Type} {step : σ → α → Option σ} {condition : σ → α → Prop}
    (emit : α → List β) (inv : List β → σ → Prop)
    (kept : ∀ past state action next, condition state action → inv past state →
      step state action = some next → inv (past ++ emit action) next)
    {past : List β} {state final : σ} {actions : List α} (initial : inv past state)
    (each : Each step condition state actions)
    (ran : run step state actions = some final) : inv (past ++ actions.flatMap emit) final := by
  induction actions generalizing past state with
  | nil =>
      cases ran
      simpa using initial
  | cons action rest ih =>
      obtain ⟨next, taken, ran⟩ := run_cons_eq_some.mp ran
      obtain ⟨met, later⟩ := each
      rw [List.flatMap_cons, ← List.append_assoc]
      exact ih (kept past state action next met initial taken) (later next taken) ran

theorem run_history {β : Type} {step : σ → α → Option σ} (emit : α → List β)
    (inv : List β → σ → Prop)
    (kept : ∀ past state action next, inv past state → step state action = some next →
      inv (past ++ emit action) next)
    {past : List β} {state final : σ} {actions : List α} (initial : inv past state)
    (ran : run step state actions = some final) : inv (past ++ actions.flatMap emit) final := by
  have each : Each step (fun _ _ => True) state actions := by
    apply each_of_only _ (fun _ _ => trivial)
    exact fun _ _ _ => trivial
  exact each.run_history emit inv (fun past state action next _ => kept past state action next)
    initial ran

/-- A run is mirrored by another system in which each of its actions is translated into some
actions, as soon as each of its steps is. -/
theorem run_simulates {τ β : Type} {step : σ → α → Option σ} {mirror : τ → β → Option τ}
    (translate : α → List β) (related : σ → τ → Prop)
    (simulates : ∀ state image action next, related state image →
      step state action = some next →
        ∃ after, run mirror image (translate action) = some after ∧ related next after)
    {state final : σ} {image : τ} {actions : List α} (initial : related state image)
    (ran : run step state actions = some final) :
    ∃ after, run mirror image (actions.flatMap translate) = some after ∧ related final after := by
  induction actions generalizing state image with
  | nil =>
      cases ran
      exact ⟨image, rfl, initial⟩
  | cons action rest ih =>
      obtain ⟨next, taken, ran⟩ := run_cons_eq_some.mp ran
      obtain ⟨middle, first, meets⟩ := simulates state image action next initial taken
      obtain ⟨after, second, reached⟩ := ih meets ran
      refine ⟨after, ?_, reached⟩
      rw [List.flatMap_cons]
      exact run_append_eq_some.mpr ⟨middle, first, second⟩

end Runs
