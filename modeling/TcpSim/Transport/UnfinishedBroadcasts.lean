import TcpSim.Transport.Streams

/-! Where broadcasts are under way: only a call of `broadcast` adds one. -/

set_option autoImplicit false

namespace TcpSim.Transport

variable {ι τ : Type}

/-- The task has a broadcast to finish. -/
def PendsAt (points : List (Point ι τ)) (lenient : Bool) (task : Nat) : Prop :=
  ∃ point entry, points[task]? = some point ∧ Point.pending lenient point = some entry

section Points

variable {points : List (Point ι τ)} {lenient : Bool}

theorem pendsAt_iff_of_getElem? {task : Nat} {point : Point ι τ}
    (found : points[task]? = some point) :
    PendsAt points lenient task ↔ ∃ entry, point.pending lenient = some entry := by
  constructor
  · intro pends
    obtain ⟨other, entry, present, pending⟩ := pends
    rw [found] at present
    obtain rfl := Option.some.inj present
    exact ⟨entry, pending⟩
  · intro pends
    obtain ⟨entry, pending⟩ := pends
    exact ⟨point, entry, found, pending⟩

theorem pendsAt_of_set {task index : Nat} {point replacement : Point ι τ}
    (found : points[task]? = some point)
    (goesOn : ∀ entry, replacement.pending lenient = some entry →
      ∃ entry, point.pending lenient = some entry)
    (pends : PendsAt (points.set task replacement) lenient index) : PendsAt points lenient index := by
  by_cases same : task = index
  · subst same
    have set := List.getElem?_set_self (a := replacement) (List.getElem?_eq_some_iff.mp found).1
    obtain ⟨entry, pending⟩ := (pendsAt_iff_of_getElem? set).mp pends
    exact (pendsAt_iff_of_getElem? found).mpr (goesOn entry pending)
  · obtain ⟨other, entry, present, pending⟩ := pends
    rw [List.getElem?_set_ne same] at present
    exact ⟨other, entry, present, pending⟩

theorem pendsAt_of_concat {index : Nat} {point : Point ι τ}
    (pends : PendsAt (points ++ [point]) lenient index) :
    PendsAt points lenient index ∨
      index = points.length ∧ ∃ entry, point.pending lenient = some entry := by
  obtain ⟨other, entry, present, pending⟩ := pends
  rcases Nat.lt_or_ge index points.length with inside | outside
  · rw [List.getElem?_append_left inside] at present
    exact Or.inl ⟨other, entry, present, pending⟩
  · rw [List.getElem?_append_right outside, List.getElem?_singleton] at present
    split at present
    next last =>
      obtain rfl := Option.some.inj present
      exact Or.inr ⟨by omega, entry, pending⟩
    · cases present

end Points

theorem pendings_eq_nil_iff {self : System ι τ} {lenient : Bool} :
    self.pendings lenient = [] ↔ ∀ task, ¬PendsAt self.points lenient task := by
  unfold System.pendings
  rw [List.filterMap_eq_nil_iff]
  constructor
  · intro none task pends
    obtain ⟨point, entry, found, pending⟩ := pends
    rw [none point (List.mem_of_getElem? found)] at pending
    cases pending
  · intro none point member
    obtain ⟨task, found⟩ := List.mem_iff_getElem?.mp member
    cases pending : point.pending lenient with
    | none => rfl
    | some entry => exact absurd ⟨point, entry, found, pending⟩ (none task)

namespace TcpServerSender

variable [DecidableEq ι] (self : TcpServerSender ι τ) (points : List (Point ι τ)) (task : Nat)

theorem pending_of_resume (ok : Bool) {point : Point ι τ} {lenient : Bool}
    {entry : Payload τ × List ι}
    (pending : (self.resume points task ok point).2.pending lenient = some entry) :
    ∃ entry, point.pending lenient = some entry := by
  by_cases goesOn : ∃ teardown payload remaining,
      point = .disconnecting teardown (.broadcast payload remaining) ∧ teardown.await = .closing
  · obtain ⟨teardown, payload, remaining, rfl, closing⟩ := goesOn
    cases remaining with
    | nil =>
        simp only [resume, continueTeardown, closing, continueCaller] at pending
        cases pending
    | cons next others => exact ⟨(payload, next :: others), rfl⟩
  · rw [resume_pending self points task lenient ok fun teardown payload remaining shape closing =>
      goesOn ⟨teardown, payload, remaining, shape, closing⟩] at pending
    exact ⟨entry, pending⟩

end TcpServerSender

namespace System

variable [DecidableEq ι] {self next : System ι τ}

theorem pendsAt_of_own {action : ServerAction ι τ} (own : action.isOwn = true) {lenient : Bool}
    (taken : self.step action = some next) {index : Nat} (pends : PendsAt next.points lenient index) :
    PendsAt self.points lenient index := by
  cases action with
  | connect id =>
      obtain rfl := step_connect_eq_some taken
      rcases pendsAt_of_concat pends with first | ⟨_, entry, pending⟩
      · rcases pendsAt_of_concat first with old | ⟨_, entry, pending⟩
        · exact old
        · cases pending
      · rw [TcpServerSender.greet_pending] at pending
        cases pending
  | resume task ok =>
      obtain ⟨point, found, _, ⟨_, rfl⟩ | ⟨_, rfl⟩⟩ := step_resume_eq_some taken
      · refine pendsAt_of_set found ?_ pends
        intro entry pending
        rw [TcpServerSender.resumeCancelled_pending] at pending
        split at pending
        · cases pending
        · exact ⟨entry, pending⟩
      · exact pendsAt_of_set found (fun entry pending =>
          TcpServerSender.pending_of_resume self.shared self.points task ok pending) pends
  | closeCancelled task =>
      obtain ⟨teardown, caller, found, _, rfl⟩ := step_closeCancelled_eq_some taken
      refine pendsAt_of_set found ?_ pends
      intro entry pending
      simp only [Point.pending] at pending
      split at pending
      · cases pending
      · exact ⟨entry, pending⟩
  | tick now =>
      obtain ⟨_, rfl⟩ := step_tick_eq_some taken
      exact pends
  | _ => cases own

theorem pendsAt_of_broadcast {payload : Payload τ} {order : List ι} {lenient : Bool}
    (taken : self.step (.broadcast payload order) = some next) {index : Nat}
    (pends : PendsAt next.points lenient index) :
    PendsAt self.points lenient index ∨ index = self.points.length := by
  obtain ⟨_, _, rfl⟩ := step_broadcast_eq_some taken
  exact (pendsAt_of_concat pends).imp_right And.left

end System

end TcpSim.Transport
