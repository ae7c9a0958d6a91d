import TcpSim.Lib.Effects

/-! Programs that raise what is known beforehand: rules for the first exception of a
sequence, and for the state it leaves. -/

set_option autoImplicit false

namespace Effects

variable {ε σ φ α β : Type}

/-- Started where `before` holds, the program raises as the failure says, or returns where
`after` holds if there is none. -/
def Meets (fails : φ → ε → σ → Prop) (before : σ → Prop) (program : EStateM ε σ α)
    (failure : Option φ) (after : α → σ → Prop) : Prop :=
  ∀ state, before state →
    match program state with
    | .ok value next => failure = none ∧ after value next
    | .error error next => ∃ known, failure = some known ∧ fails known error next

section Rules

variable {fails : φ → ε → σ → Prop} {before : σ → Prop} {program : EStateM ε σ α}
  {failure : Option φ} {after : α → σ → Prop}

theorem Meets.returns (meets : Meets fails before program none after) {state : σ}
    (holds : before state) : ∃ value next, program state = .ok value next ∧ after value next := by
  have met := meets state holds
  cases ran : program state with
  | ok value next =>
      rw [ran] at met
      exact ⟨value, next, rfl, met.2⟩
  | error error next =>
      rw [ran] at met
      obtain ⟨known, isKnown, _⟩ := met
      cases isKnown

theorem Meets.raises {known : φ} (meets : Meets fails before program (some known) after) {state : σ}
    (holds : before state) : ∃ error next, program state = .error error next ∧ fails known error next := by
  have met := meets state holds
  cases ran : program state with
  | ok value next =>
      rw [ran] at met
      cases met.1
  | error error next =>
      rw [ran] at met
      obtain ⟨other, isKnown, failed⟩ := met
      obtain rfl := Option.some.inj isKnown
      exact ⟨error, next, rfl, failed⟩

theorem Meets.pure {value : α} (holds : ∀ state, before state → after value state) :
    Meets fails before (Pure.pure value) none after :=
  fun state held => ⟨rfl, holds state held⟩

theorem Meets.throw {error : ε} {known : φ} (failed : ∀ state, before state → fails known error state) :
    Meets fails before (MonadExcept.throw error) (some known) after :=
  fun state held => ⟨known, rfl, failed state held⟩

theorem Meets.of_modify {change : σ → σ} {post : PUnit → σ → Prop}
    (holds : ∀ state, before state → post ⟨⟩ (change state)) :
    Meets fails before (modify change) none post :=
  fun state held => ⟨rfl, holds state held⟩

/-- The first program's failure comes first. -/
theorem Meets.bind {next : α → EStateM ε σ β} {second : Option φ} {post : β → σ → Prop}
    (first : Meets fails before program failure after)
    (later : ∀ value, Meets fails (after value) (next value) second post) :
    Meets fails before (program >>= next) (failure.or second) post := by
  intro state held
  have met := first state held
  cases ran : program state with
  | ok value middle =>
      rw [ran] at met
      rw [bind_of_ok ran, met.1, Option.none_or]
      exact later value middle met.2
  | error error middle =>
      rw [ran] at met
      obtain ⟨known, isKnown, failed⟩ := met
      rw [bind_of_error ran, isKnown, Option.some_or]
      exact ⟨known, rfl, failed⟩

theorem Meets.after_quiet {next : α → EStateM ε σ β} {second : Option φ} {post : β → σ → Prop}
    (first : Meets fails before program none after)
    (later : ∀ value, Meets fails (after value) (next value) second post) :
    Meets fails before (program >>= next) second post :=
  first.bind later

theorem Meets.then_quiet {next : α → EStateM ε σ β} {post : β → σ → Prop}
    (first : Meets fails before program failure after)
    (later : ∀ value, Meets fails (after value) (next value) none post) :
    Meets fails before (program >>= next) failure post := by
  have both := first.bind later
  rw [Option.or_none] at both
  exact both

theorem Meets.modify_bind (middle : σ → Prop) {change : σ → σ} {next : PUnit → EStateM ε σ β}
    {second : Option φ} {post : β → σ → Prop} (holds : ∀ state, before state → middle (change state))
    (later : Meets fails middle (next ⟨⟩) second post) :
    Meets fails before (modify change >>= next) second post :=
  fun state held => later (change state) (holds state held)

theorem Meets.get_bind {next : σ → EStateM ε σ β} {second : Option φ} {post : β → σ → Prop}
    (later : ∀ value, before value → Meets fails before (next value) second post) :
    Meets fails before (MonadState.get >>= next) second post :=
  fun state held => later state held state held

end Rules

end Effects
