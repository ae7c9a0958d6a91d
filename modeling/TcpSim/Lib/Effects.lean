import Mathlib.Data.List.Basic

/-! Frame rules for imperative code over a state that survives an exception:
what a program leaves as it was, whether it returns or raises. -/

set_option autoImplicit false

namespace Effects

variable {ε σ γ α β : Type}

/-- The state a computation ends in. -/
def final : EStateM.Result ε σ α → σ
  | .ok _ state => state
  | .error _ state => state

@[simp] theorem final_ok (value : α) (state : σ) :
    final (.ok value state : EStateM.Result ε σ α) = state := rfl

@[simp] theorem final_error (error : ε) (state : σ) :
    final (.error error state : EStateM.Result ε σ α) = state := rfl

/-- The program does not change what `view` sees of the state. -/
def Unchanged (view : σ → γ) (program : EStateM ε σ α) : Prop :=
  ∀ state, view (final (program state)) = view state

theorem Unchanged.pure (view : σ → γ) (value : α) :
    Unchanged view (Pure.pure value : EStateM ε σ α) :=
  fun _ => rfl

theorem Unchanged.throw (view : σ → γ) (error : ε) :
    Unchanged view (MonadExcept.throw error : EStateM ε σ α) :=
  fun _ => rfl

theorem Unchanged.get (view : σ → γ) : Unchanged view (MonadState.get : EStateM ε σ σ) :=
  fun _ => rfl

theorem Unchanged.of_modify {view : σ → γ} {change : σ → σ}
    (same : ∀ state, view (change state) = view state) :
    Unchanged view (modify change : EStateM ε σ PUnit) :=
  same

theorem Unchanged.bind {view : σ → γ} {program : EStateM ε σ α}
    {next : α → EStateM ε σ β} (first : Unchanged view program)
    (second : ∀ value, Unchanged view (next value)) :
    Unchanged view (program >>= next) := by
  intro state
  have before := first state
  simp only [Bind.bind, EStateM.bind]
  cases result : program state with
  | ok value middle =>
      simp only [result, final_ok] at before
      exact (second value middle).trans before
  | error error middle =>
      simp only [result, final_error] at before
      exact before

theorem Unchanged.ite {view : σ → γ} {condition : Prop} [Decidable condition]
    {first second : EStateM ε σ α} (whenTrue : Unchanged view first)
    (whenFalse : Unchanged view second) :
    Unchanged view (if condition then first else second) := by
  split
  · exact whenTrue
  · exact whenFalse

/-- A program that keeps `view`, followed by one update: either it raised and the
view is as before, or the update was made in a state with the view as before. -/
theorem Unchanged.then_modify {view : σ → γ} {program : EStateM ε σ PUnit}
    (kept : Unchanged view program) (change : σ → σ) (state : σ) :
    (∃ middle, view middle = view state ∧
      (program >>= fun _ => modify change) state = .ok () (change middle)) ∨
    ∃ error after, view after = view state ∧
      (program >>= fun _ => modify change) state = .error error after := by
  have before := kept state
  cases result : program state with
  | ok value middle =>
      rw [result] at before
      refine Or.inl ⟨middle, before, ?_⟩
      simp only [Bind.bind, EStateM.bind, result]
      rfl
  | error error after =>
      rw [result] at before
      refine Or.inr ⟨error, after, before, ?_⟩
      simp only [Bind.bind, EStateM.bind, result]

theorem bind_of_ok {program : EStateM ε σ α} {next : α → EStateM ε σ β} {state middle : σ}
    {value : α} (ran : program state = .ok value middle) :
    (program >>= next) state = next value middle := by
  simp only [Bind.bind, EStateM.bind, ran]

theorem bind_eq_ok {program : EStateM ε σ α} {next : α → EStateM ε σ β} {state after : σ}
    {result : β} (ran : (program >>= next) state = .ok result after) :
    ∃ value middle, program state = .ok value middle ∧ next value middle = .ok result after := by
  simp only [Bind.bind, EStateM.bind] at ran
  cases first : program state with
  | ok value middle =>
      rw [first] at ran
      exact ⟨value, middle, rfl, ran⟩
  | error error middle =>
      rw [first] at ran
      cases ran

theorem Unchanged.of_ok {view : σ → γ} {program : EStateM ε σ α} {state after : σ}
    {value : α} (kept : Unchanged view program) (ran : program state = .ok value after) :
    view after = view state := by
  simpa [ran] using kept state

/-! ## Running a program step by step -/

@[simp] theorem run_get_bind (next : σ → EStateM ε σ β) (state : σ) :
    (MonadState.get >>= next) state = next state state := rfl

@[simp] theorem run_modify (change : σ → σ) (state : σ) :
    (modify change : EStateM ε σ PUnit) state = .ok () (change state) := rfl

@[simp] theorem run_modify_bind (change : σ → σ) (next : PUnit → EStateM ε σ β) (state : σ) :
    (modify change >>= next) state = next () (change state) := rfl

@[simp] theorem run_pure (value : α) (state : σ) :
    (Pure.pure value : EStateM ε σ α) state = .ok value state := rfl

@[simp] theorem run_pure_bind (value : α) (next : α → EStateM ε σ β) (state : σ) :
    (Pure.pure value >>= next) state = next value state := rfl

@[simp] theorem run_throw (error : ε) (state : σ) :
    (MonadExcept.throw error : EStateM ε σ α) state = .error error state := rfl

@[simp] theorem run_throw_bind (error : ε) (next : α → EStateM ε σ β) (state : σ) :
    (MonadExcept.throw error >>= next) state = .error error state := rfl

theorem bind_of_error {program : EStateM ε σ α} {next : α → EStateM ε σ β} {state middle : σ}
    {error : ε} (raised : program state = .error error middle) :
    (program >>= next) state = .error error middle := by
  simp only [Bind.bind, EStateM.bind, raised]

theorem tryCatch_of_ok {program : EStateM ε σ α} {handler : ε → EStateM ε σ α}
    {state after : σ} {value : α} (ran : program state = .ok value after) :
    (tryCatch program handler) state = .ok value after := by
  simp only [MonadExcept.tryCatch, tryCatchThe, MonadExceptOf.tryCatch, EStateM.tryCatch, ran]

/-- The handler starts where the exception left the state. -/
theorem tryCatch_of_error {program : EStateM ε σ α} {handler : ε → EStateM ε σ α}
    {state after : σ} {error : ε} (raised : program state = .error error after) :
    (tryCatch program handler) state = handler error after := by
  simp only [MonadExcept.tryCatch, tryCatchThe, MonadExceptOf.tryCatch, EStateM.tryCatch, raised]
  rfl

/-! ## Invariants -/

/-- Started where `inv` holds, the program ends where it holds, however it ends. -/
def Preserves (inv : σ → Prop) (program : EStateM ε σ α) : Prop :=
  ∀ state, inv state → inv (final (program state))

theorem Preserves.pure (inv : σ → Prop) (value : α) :
    Preserves inv (Pure.pure value : EStateM ε σ α) :=
  fun _ held => held

theorem Preserves.throw (inv : σ → Prop) (error : ε) :
    Preserves inv (MonadExcept.throw error : EStateM ε σ α) :=
  fun _ held => held

theorem Preserves.of_modify {inv : σ → Prop} {change : σ → σ}
    (kept : ∀ state, inv state → inv (change state)) :
    Preserves inv (modify change : EStateM ε σ PUnit) :=
  kept

theorem Preserves.bind {inv : σ → Prop} {program : EStateM ε σ α}
    {next : α → EStateM ε σ β} (first : Preserves inv program)
    (second : ∀ value, Preserves inv (next value)) : Preserves inv (program >>= next) := by
  intro state held
  have middle := first state held
  simp only [Bind.bind, EStateM.bind]
  cases result : program state with
  | ok value after =>
      rw [result] at middle
      exact second value after middle
  | error error after =>
      rw [result] at middle
      exact middle

/-- The rest of a program may rely on what holds where its first part returned. -/
theorem Preserves.bind_of_returns {inv post : σ → Prop} {program : EStateM ε σ α}
    {next : α → EStateM ε σ β} (first : Preserves inv program)
    (returns : ∀ state value after, program state = .ok value after → post after)
    (second : ∀ value, Preserves post (next value)) (weaker : ∀ state, post state → inv state) :
    Preserves inv (program >>= next) := by
  intro state held
  have middle := first state held
  cases result : program state with
  | ok value after =>
      rw [bind_of_ok result]
      exact weaker _ (second value after (returns state value after result))
  | error error after =>
      rw [bind_of_error result]
      rw [result] at middle
      exact middle

theorem Preserves.get_bind {inv : σ → Prop} {next : σ → EStateM ε σ β}
    (second : ∀ value, Preserves inv (next value)) :
    Preserves inv (MonadState.get >>= next) :=
  fun state held => second state state held

theorem Preserves.ite {inv : σ → Prop} {condition : Prop} [Decidable condition]
    {first second : EStateM ε σ α} (whenTrue : Preserves inv first)
    (whenFalse : Preserves inv second) :
    Preserves inv (if condition then first else second) := by
  split
  · exact whenTrue
  · exact whenFalse

/-- A handler that keeps the invariant; the state is not rolled back. -/
theorem Preserves.tryCatch {inv : σ → Prop} {program : EStateM ε σ α}
    {handler : ε → EStateM ε σ α} (body : Preserves inv program)
    (handled : ∀ error, Preserves inv (handler error)) :
    Preserves inv (tryCatch program handler) := by
  intro state held
  have middle := body state held
  simp only [MonadExcept.tryCatch, tryCatchThe, MonadExceptOf.tryCatch, EStateM.tryCatch]
  cases result : program state with
  | ok value after =>
      rw [result] at middle
      exact middle
  | error error after =>
      rw [result] at middle
      exact handled error after middle

end Effects
