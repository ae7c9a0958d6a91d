import TcpSim.Lib.Effects

/-! Programs that give way at their awaits. Between two of them a program has the state for itself;
at an await others may change it, within what the program may rely on, and change what they have of
their own beside it. -/

set_option autoImplicit false

open Effects

variable {ε σ α β γ : Type}

inductive Coroutine (ε σ α : Type) where
  | returns (value : α)
  | raises (error : ε)
  | acts (change : σ → σ) (next : σ → Coroutine ε σ α)
  | awaits (rest : Coroutine ε σ α)

namespace Coroutine

def bind (program : Coroutine ε σ α) (next : α → Coroutine ε σ β) : Coroutine ε σ β :=
  match program with
  | .returns value => next value
  | .raises error => .raises error
  | .acts change rest => .acts change fun state => (rest state).bind next
  | .awaits rest => .awaits (rest.bind next)

instance : Monad (Coroutine ε σ) where
  pure := .returns
  bind := bind

/-- `try` and `except`; the state is not rolled back. -/
def handle (program : Coroutine ε σ α) (handler : ε → Coroutine ε σ α) : Coroutine ε σ α :=
  match program with
  | .returns value => .returns value
  | .raises error => handler error
  | .acts change rest => .acts change fun state => (rest state).handle handler
  | .awaits rest => .awaits (rest.handle handler)

/-- A part without an await. -/
def block (program : EStateM ε σ α) : Coroutine ε σ α :=
  .acts (fun state => final (program state)) fun state =>
    match program state with
    | .ok value _ => .returns value
    | .error error _ => .raises error

def await : Coroutine ε σ Unit := .awaits (.returns ())

/-- Up to the next await: what is left then, unless the program has ended, and the state. -/
def advance : Coroutine ε σ α → σ → Option (Coroutine ε σ α) × σ
  | .returns _, state => (none, state)
  | .raises _, state => (none, state)
  | .acts change next, state => (next state).advance (change state)
  | .awaits rest, state => (some rest, state)

/-! ## Without others -/

/-- The program as it runs if nobody takes a turn at its awaits. -/
def alone : Coroutine ε σ α → EStateM ε σ α
  | .returns value => fun state => .ok value state
  | .raises error => fun state => .error error state
  | .acts change next => fun state => (next state).alone (change state)
  | .awaits rest => rest.alone

@[simp] theorem alone_pure (value : α) :
    (pure value : Coroutine ε σ α).alone = (pure value : EStateM ε σ α) := rfl

@[simp] theorem alone_raises (error : ε) :
    (raises error : Coroutine ε σ α).alone = (throw error : EStateM ε σ α) := rfl

@[simp] theorem alone_await : (await : Coroutine ε σ Unit).alone = pure () := rfl

@[simp] theorem alone_block (program : EStateM ε σ α) : (block program).alone = program := by
  funext state
  simp only [block, alone]
  cases program state with
  | ok value after => rfl
  | error error after => rfl

@[simp] theorem alone_bind (program : Coroutine ε σ α) (next : α → Coroutine ε σ β) :
    (program >>= next).alone = program.alone >>= fun value => (next value).alone := by
  funext state
  change (program.bind next).alone state = _
  induction program generalizing state with
  | returns value => rfl
  | raises error => rfl
  | acts change rest ih => exact ih state (change state)
  | awaits rest ih => exact ih state

@[simp] theorem alone_handle (program : Coroutine ε σ α) (handler : ε → Coroutine ε σ α) :
    (program.handle handler).alone = tryCatch program.alone fun error => (handler error).alone := by
  funext state
  induction program generalizing state with
  | returns value => rfl
  | raises error => rfl
  | acts change rest ih => exact ih state (change state)
  | awaits rest ih => exact ih state

@[simp] theorem alone_ite {condition : Prop} [Decidable condition] (first second : Coroutine ε σ α) :
    (if condition then first else second).alone =
      if condition then first.alone else second.alone := by
  split <;> rfl

/-! ## Among others -/

/-- What is left of the program keeps `inv` at its awaits and ends in `returned` or `raised`, if the
others keep `inv` and change no more than `rely` allows. -/
def Keeps (rely : σ → σ → Prop) (inv : γ → σ → Prop) (returned : α → γ → σ → Prop)
    (raised : γ → σ → Prop) : Coroutine ε σ α → γ → σ → Prop
  | .returns value, others, state => returned value others state
  | .raises _, others, state => raised others state
  | .acts change next, others, state =>
      Keeps rely inv returned raised (next state) others (change state)
  | .awaits rest, others, state => inv others state ∧
      ∀ later after, rely state after → inv later after →
        Keeps rely inv returned raised rest later after

/-- Started in `pre`. -/
def Meets (rely : σ → σ → Prop) (inv pre : γ → σ → Prop) (program : Coroutine ε σ α)
    (returned : α → γ → σ → Prop) (raised : γ → σ → Prop) : Prop :=
  ∀ others state, pre others state → program.Keeps rely inv returned raised others state

variable {rely : σ → σ → Prop} {inv pre : γ → σ → Prop} {returned : α → γ → σ → Prop}
  {raised : γ → σ → Prop} {program : Coroutine ε σ α}

theorem Keeps.mono {more : α → γ → σ → Prop} {worse : γ → σ → Prop}
    (returns : ∀ value others state, returned value others state → more value others state)
    (raises : ∀ others state, raised others state → worse others state) {others : γ} {state : σ}
    (keeps : program.Keeps rely inv returned raised others state) :
    program.Keeps rely inv more worse others state := by
  induction program generalizing others state with
  | returns value => exact returns value others state keeps
  | raises error => exact raises others state keeps
  | acts change next ih => exact ih state keeps
  | awaits rest ih =>
      obtain ⟨here, later⟩ := keeps
      exact ⟨here, fun others after relied held => ih (later others after relied held)⟩

theorem Keeps.bind {next : α → Coroutine ε σ β} {returned : β → γ → σ → Prop} {others : γ}
    {state : σ} (keeps : program.Keeps rely inv
      (fun value => (next value).Keeps rely inv returned raised) raised others state) :
    (program >>= next).Keeps rely inv returned raised others state := by
  change (program.bind next).Keeps rely inv returned raised others state
  induction program generalizing others state with
  | returns value => exact keeps
  | raises error => exact keeps
  | acts change rest ih => exact ih state keeps
  | awaits rest ih =>
      obtain ⟨here, later⟩ := keeps
      exact ⟨here, fun others after relied held => ih (later others after relied held)⟩

theorem Keeps.handle {handler : ε → Coroutine ε σ α} {others : γ} {state : σ} {failed : γ → σ → Prop}
    (handles : ∀ error others state, failed others state →
      (handler error).Keeps rely inv returned raised others state)
    (keeps : program.Keeps rely inv returned failed others state) :
    (program.handle handler).Keeps rely inv returned raised others state := by
  induction program generalizing others state with
  | returns value => exact keeps
  | raises error => exact handles error others state keeps
  | acts change rest ih => exact ih state keeps
  | awaits rest ih =>
      obtain ⟨here, later⟩ := keeps
      exact ⟨here, fun others after relied held => ih (later others after relied held)⟩

/-- Up to the next await, or to the end. -/
theorem Keeps.advance {others : γ} {state : σ}
    (keeps : program.Keeps rely inv returned raised others state) :
    match program.advance state with
    | (some rest, after) => inv others after ∧ ∀ later final, rely after final → inv later final →
        rest.Keeps rely inv returned raised later final
    | (none, after) => (∃ value, returned value others after) ∨ raised others after := by
  induction program generalizing state with
  | returns value => exact .inl ⟨value, keeps⟩
  | raises error => exact .inr keeps
  | acts change next ih => exact ih state keeps
  | awaits rest ih => exact keeps

namespace Meets

theorem pure (value : α) (holds : ∀ others state, pre others state → returned value others state) :
    Meets rely inv pre (Pure.pure value : Coroutine ε σ α) returned raised :=
  holds

theorem block {body : EStateM ε σ α}
    (ends : ∀ others state, pre others state → match body state with
      | .ok value after => returned value others after
      | .error _ after => raised others after) :
    Meets rely inv pre (Coroutine.block body) returned raised := by
  intro others state held
  have after := ends others state held
  simp only [Coroutine.block, Keeps]
  cases result : body state with
  | ok value middle =>
      rw [result] at after
      exact after
  | error error middle =>
      rw [result] at after
      exact after

/-- A part without an await that keeps what holds. -/
theorem preserves {body : EStateM ε σ α} (kept : ∀ others, Preserves (pre others) body) :
    Meets rely inv pre (Coroutine.block body) (fun _ => pre) pre := by
  refine block fun others state held => ?_
  have after := kept others state held
  cases result : body state with
  | ok value middle =>
      rw [result] at after
      exact after
  | error error middle =>
      rw [result] at after
      exact after

/-- What holds at an await must be enough for the others, and something they cannot undo. -/
theorem await (enough : ∀ others state, pre others state → inv others state)
    (stable : ∀ others state later after, pre others state → rely state after → inv later after →
      pre later after) :
    Meets rely inv pre (Coroutine.await : Coroutine ε σ Unit) (fun _ => pre) raised :=
  fun others state held => ⟨enough others state held, fun later after relied kept =>
    stable others state later after held relied kept⟩

theorem bind {next : α → Coroutine ε σ β} {middle : α → γ → σ → Prop} {returned : β → γ → σ → Prop}
    (first : Meets rely inv pre program middle raised)
    (second : ∀ value, Meets rely inv (middle value) (next value) returned raised) :
    Meets rely inv pre (program >>= next) returned raised :=
  fun others state held => Keeps.bind ((first others state held).mono
    (fun value others state reached => second value others state reached) fun _ _ failed => failed)

theorem get_bind {next : σ → Coroutine ε σ β} {returned : β → γ → σ → Prop}
    (second : ∀ seen, Meets rely inv (fun others state => seen = state ∧ pre others state)
      (next seen) returned raised) :
    Meets rely inv pre (Coroutine.block MonadState.get >>= next) returned raised :=
  fun others state held => second state others state ⟨rfl, held⟩

theorem handle {handler : ε → Coroutine ε σ α} {failed : γ → σ → Prop}
    (body : Meets rely inv pre program returned failed)
    (handles : ∀ error, Meets rely inv failed (handler error) returned raised) :
    Meets rely inv pre (program.handle handler) returned raised :=
  fun others state held => (body others state held).handle
    fun error others state reached => handles error others state reached

theorem ite {condition : Prop} [Decidable condition] {first second : Coroutine ε σ α}
    (whenTrue : condition → Meets rely inv pre first returned raised)
    (whenFalse : ¬condition → Meets rely inv pre second returned raised) :
    Meets rely inv pre (if condition then first else second) returned raised := by
  split
  next holds => exact whenTrue holds
  next fails => exact whenFalse fails

theorem mono {stronger : γ → σ → Prop} {more : α → γ → σ → Prop} {worse : γ → σ → Prop}
    (meets : Meets rely inv pre program returned raised)
    (starts : ∀ others state, stronger others state → pre others state)
    (returns : ∀ value others state, returned value others state → more value others state)
    (raises : ∀ others state, raised others state → worse others state) :
    Meets rely inv stronger program more worse :=
  fun others state held => (meets others state (starts others state held)).mono returns raises

end Meets

end Coroutine
