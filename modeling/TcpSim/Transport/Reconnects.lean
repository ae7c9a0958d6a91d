import TcpSim.Transport.TcpClientReceiver
import TcpSim.Transport.TcpClientSender

/-! Whether the run loops of the two TCP clients go on to another connection attempt after
each outcome. The receiver's handler names the timeout; the sender's names `OSError` alone. -/

set_option autoImplicit false

namespace TcpSim.Transport

open Engine

/-! ## The sender -/

/-- The step raises nothing that `except OSError` lets through. -/
def ClientAction.Caught (python : Interpreter) : ClientAction → Prop
  | .connect (some error) => error.isOSError python = true
  | .drain (some error) => error.isOSError python = true
  | _ => True

/-- Between a lost connection and the next attempt, or after the end of the loop. -/
def ClientPoint.offline : ClientPoint → Bool
  | .unwatching _ => true
  | .closing _ => true
  | .sleeping => true
  | .died _ => true
  | _ => false

/-- The task cleans up or sleeps. -/
def ClientAction.isUnwinding : ClientAction → Bool
  | .unwatched => true
  | .closed => true
  | .slept => true
  | _ => false

namespace TcpClientSender

/-- The task's own next steps lead to one more attempt. -/
def Retries (python : Interpreter) (self : TcpClientSender) : Prop :=
  ∃ own final, (∀ action ∈ own, action.isUnwinding = true) ∧
    Runs.run (step python) self own = some final ∧ final.point = .connecting ∧
    final.attempts.length = self.attempts.length + 1

/-- After the end of a connection or of an attempt there is another attempt. -/
def GoesOn (python : Interpreter) (self : TcpClientSender) : Prop :=
  self.point.offline = true → Retries python self

/-- No exception is on its way out of the loop. -/
def Safe (python : Interpreter) (self : TcpClientSender) : Prop :=
  match self.point with
  | .unwatching error => error.isOSError python = true
  | .closing raised => raised = none
  | .died _ => False
  | _ => True

theorem loopTop_safe {python : Interpreter} (self : TcpClientSender) :
    Safe python self.loopTop := by
  unfold loopTop
  split <;> simp [Safe, NetworkError.isOSError]

theorem connected_safe {python : Interpreter} (self : TcpClientSender) :
    Safe python self.connected := by
  unfold connected
  exact loopTop_safe _

theorem close_safe_iff {python : Interpreter} (self : TcpClientSender)
    (raised : Option NetworkError) : Safe python (self.close raised) ↔ raised = none := by
  unfold close
  split
  · exact Iff.rfl
  · cases raised with
    | none => simp [Safe, closed]
    | some error => simp [Safe, closed]

theorem leaveTry_safe_iff {python : Interpreter} (self : TcpClientSender) (error : NetworkError) :
    Safe python (self.leaveTry python error) ↔ error.isOSError python = true := by
  unfold leaveTry
  split
  next caught => simp [close_safe_iff, caught]
  next uncaught => simp [close_safe_iff, uncaught]

theorem safe_of_point {python : Interpreter} {self : TcpClientSender} {point : ClientPoint}
    (at_ : self.point = point) (calm : point.offline = false) : Safe python self := by
  subst at_
  unfold Safe
  split <;> simp_all [ClientPoint.offline]

/-- From a safe state a step ends in one exactly when what it raises is caught. -/
theorem safe_step_iff {python : Interpreter} {self next : TcpClientSender}
    {action : ClientAction} (safe : Safe python self)
    (taken : self.step python action = some next) :
    Safe python next ↔ action.Caught python := by
  cases steps_of_step taken with
  | starts loads idle =>
      refine iff_of_true ?_ trivial
      unfold enterRun
      split
      · trivial
      · split <;> trivial
  | startsNothing => exact iff_of_true safe trivial
  | sends payload => exact iff_of_true safe trivial
  | connects at_ => exact iff_of_true self.connected_safe trivial
  | connectFails error at_ => exact self.leaveTry_safe_iff error
  | watches outcome => exact iff_of_true safe trivial
  | timesOut at_ => exact iff_of_true self.loopTop_safe trivial
  | @gets raises payload outbound at_ head =>
      refine iff_of_true ?_ trivial
      cases raises with
      | none => trivial
      | some error => rfl
  | drains at_ => exact iff_of_true (loopTop_safe _) trivial
  | drainFails error at_ => exact Iff.rfl
  | @unwatches error at_ =>
      have caught : error.isOSError python = true := by
        simpa only [Safe, at_] using safe
      exact iff_of_true ((self.leaveTry_safe_iff error).mpr caught) trivial
  | @closes raised at_ =>
      obtain rfl : raised = none := by
        simpa only [Safe, at_] using safe
      exact iff_of_true trivial trivial
  | wakes at_ => exact iff_of_true trivial trivial

/-! ## The way to the next attempt -/

/-- The delay is over and the loop begins again. -/
theorem retries_of_sleeping {python : Interpreter} {self : TcpClientSender}
    (at_ : self.point = .sleeping) : Retries python self := by
  have wakes : self.step python .slept = some self.attempt := by
    simp only [step, at_]
  refine ⟨[.slept], self.attempt, by simp [ClientAction.isUnwinding], ?_, rfl, by simp [attempt]⟩
  exact Runs.run_cons_eq_some.mpr ⟨_, wakes, rfl⟩

theorem Retries.cons {python : Interpreter} {self next : TcpClientSender} {action : ClientAction}
    (retries : Retries python next) (unwinds : action.isUnwinding = true)
    (taken : self.step python action = some next) (attempts : next.attempts = self.attempts) :
    Retries python self := by
  obtain ⟨own, final, unwinding, ran, connecting, one⟩ := retries
  refine ⟨action :: own, final, List.forall_mem_cons.mpr ⟨unwinds, unwinding⟩, ?_, connecting, ?_⟩
  · exact Runs.run_cons_eq_some.mpr ⟨next, taken, ran⟩
  · rw [one, attempts]

theorem retries_of_closing {python : Interpreter} {self : TcpClientSender}
    (at_ : self.point = .closing none) : Retries python self := by
  have closes : self.step python .closed = some (self.closed none) := by
    simp only [step, at_]
  have asleep : Retries python (self.closed none) := retries_of_sleeping rfl
  exact asleep.cons rfl closes rfl

theorem retries_of_unwatching {python : Interpreter} {self : TcpClientSender}
    {error : NetworkError} (at_ : self.point = .unwatching error)
    (caught : error.isOSError python = true) : Retries python self := by
  have unwatches : self.step python .unwatched = some (self.leaveTry python error) := by
    simp only [step, at_]
  have retries : Retries python (self.leaveTry python error) := by
    unfold leaveTry close
    rw [if_pos caught]
    split
    · exact retries_of_closing rfl
    · exact retries_of_sleeping rfl
  apply retries.cons rfl unwatches
  unfold leaveTry close
  rw [if_pos caught]
  split <;> rfl

/-- Once an exception is on its way out, cleaning up leads to the end of the task. -/
theorem goesOn_iff_safe {python : Interpreter} {self : TcpClientSender} :
    GoesOn python self ↔ Safe python self := by
  constructor
  · intro goesOn
    by_contra unsafe_
    have offline : self.point.offline = true := by
      by_contra calm
      exact unsafe_ (safe_of_point rfl (eq_false_of_ne_true calm))
    obtain ⟨own, final, unwinding, ran, connecting, _⟩ := goesOn offline
    have still := Runs.run_invariant_of (fun action => action.isUnwinding = true)
      (fun sender : TcpClientSender => ¬Safe python sender ∧ sender.point.offline = true)
      (by
        intro sender action next unwinds unsafe_ taken
        obtain ⟨unsafe_, _⟩ := unsafe_
        cases steps_of_step taken with
        | @unwatches error at_ =>
            have uncaught : error.isOSError python ≠ true := by
              simpa only [Safe, at_] using unsafe_
            refine ⟨fun after => uncaught ((sender.leaveTry_safe_iff error).mp after), ?_⟩
            unfold leaveTry close
            rw [if_neg uncaught]
            split <;> rfl
        | @closes raised at_ =>
            cases raised with
            | none => simp [Safe, at_] at unsafe_
            | some error => exact ⟨id, rfl⟩
        | wakes at_ => simp [Safe, at_] at unsafe_
        | _ => cases unwinds)
      ⟨unsafe_, offline⟩ unwinding ran
    rw [connecting] at still
    cases still.2
  · intro safe offline
    cases at_ : self.point with
    | unwatching error => exact retries_of_unwatching at_ (by simpa only [Safe, at_] using safe)
    | closing raised =>
        obtain rfl : raised = none := by
          simpa only [Safe, at_] using safe
        exact retries_of_closing at_
    | sleeping => exact retries_of_sleeping at_
    | died error => exact absurd safe (by simp [Safe, at_])
    | _ =>
        rw [at_] at offline
        cases offline

end TcpClientSender

/-! ## The receiver -/

/-- Between a lost connection and the next attempt, or after the end of the loop. -/
def ClientReceiverPoint.offline : ClientReceiverPoint → Bool
  | .sleeping => true
  | .died _ => true
  | _ => false

namespace TcpClientReceiver

/-- The task's own next step is one more attempt. -/
def Retries (python : Interpreter) (self : TcpClientReceiver) : Prop :=
  ∃ final, self.step python .slept = some final ∧ final.point = .connecting ∧
    final.attempts.length = self.attempts.length + 1

/-- After the end of a connection or of an attempt there is another attempt. -/
def GoesOn (python : Interpreter) (self : TcpClientReceiver) : Prop :=
  self.point.offline = true → Retries python self

theorem retries_of_sleeping {python : Interpreter} {self : TcpClientReceiver}
    (at_ : self.point = .sleeping) : Retries python self := by
  refine ⟨self.attempt, ?_, rfl, by simp [attempt]⟩
  simp only [step, at_]

theorem catches_all (python : Interpreter) (error : NetworkError) : catches python error = true := by
  cases error with
  | osError error => simp [catches, NetworkError.isOSError]
  | timeout => simp [catches]

theorem nextRead_online (self : TcpClientReceiver) : self.nextRead.point.offline = false := by
  unfold nextRead
  split <;> rfl

theorem setPaused_offline {self : TcpClientReceiver} (paused : Bool)
    (offline : (self.setPaused paused).point.offline = true) :
    (self.setPaused paused).point = self.point := by
  unfold setPaused at offline ⊢
  split
  · split <;> rfl
  · split
    · dsimp only [emit]
      split
      next waiting =>
          rename_i unpaused paused
          simp [unpaused, paused, waiting, emit, ClientReceiverPoint.offline] at offline
      next => rfl
    · rfl

/-- However a connection or an attempt ends, the receiver sleeps and tries again. -/
theorem goesOn_step {python : Interpreter} {self next : TcpClientReceiver}
    {action : ClientReceiverAction} (goesOn : self.point.offline = true → self.point = .sleeping)
    (taken : self.step python action = some next) :
    next.point.offline = true → next.point = .sleeping := by
  cases steps_of_step taken with
  | starts loads idle =>
      unfold enterRun
      split
      · intro offline
        cases offline
      · split <;> exact fun offline => by cases offline
  | startsNothing => exact goesOn
  | pauses paused =>
      intro offline
      have same := setPaused_offline paused offline
      rw [same] at offline ⊢
      exact goesOn offline
  | connects at_ =>
      intro offline
      rw [show self.connected.point.offline = false from nextRead_online _] at offline
      cases offline
  | connectFails error at_ =>
      unfold connectFailed
      rw [if_pos (catches_all python error)]
      exact fun _ => rfl
  | wakes at_ => exact fun offline => by cases offline
  | reads chunk at_ =>
      unfold received
      split
      · exact fun _ => rfl
      · intro offline
        dsimp only at offline
        rw [nextRead_online] at offline
        cases offline
  | readFails error at_ => exact fun _ => rfl
  | retries at_ => exact fun offline => by cases offline

end TcpClientReceiver

/-! ## Runs -/

/-- A wait for the connection or for a drain times out in the step. -/
def ClientAction.timesOut : ClientAction → Bool
  | .connect (some .timeout) => true
  | .drain (some .timeout) => true
  | _ => false

theorem ClientAction.caught_iff {python : Interpreter} (action : ClientAction) :
    action.Caught python ↔ 11 ≤ python.minor ∨ action.timesOut = false := by
  have raised (error : NetworkError) :
      error.isOSError python = true ↔ 11 ≤ python.minor ∨ error ≠ .timeout := by
    cases error with
    | osError error => simp [NetworkError.isOSError]
    | timeout => simp [NetworkError.isOSError]
  cases action with
  | connect raises =>
      cases raises with
      | none => simp [Caught, timesOut]
      | some error => cases error <;> simp [Caught, timesOut, raised]
  | drain raises =>
      cases raises with
      | none => simp [Caught, timesOut]
      | some error => cases error <;> simp [Caught, timesOut, raised]
  | _ => simp [Caught, timesOut]

/-- The sender goes on to another attempt after every outcome exactly when the timeout is an
`OSError` or no connect and no drain times out; the receiver goes on in every case. -/
theorem reconnect_loop_goes_on_iff (python : Interpreter) (config : TcpClientConfig)
    {actions : List ClientAction} {final : TcpClientSender}
    (ran : Runs.run (TcpClientSender.step python) (TcpClientSender.init config) actions =
      some final) :
    ((∀ visited, Runs.Visits (TcpClientSender.step python) (TcpClientSender.init config) actions
        visited → visited.GoesOn python) ↔
      11 ≤ python.minor ∨ ∀ action ∈ actions, action.timesOut = false) ∧
    ∀ (config : TcpClientReceiverConfig) (actions : List ClientReceiverAction) visited,
      Runs.Visits (TcpClientReceiver.step python) (TcpClientReceiver.init config) actions visited →
        visited.GoesOn python := by
  constructor
  · have stays := Runs.stays_iff_each (fun _ => True) (fun _ => True)
      (TcpClientSender.Safe python) (fun _ action => action.Caught python)
      (fun _ _ _ _ _ _ => trivial)
      (fun _ _ _ _ _ safe taken => TcpClientSender.safe_step_iff safe taken)
      trivial (show (TcpClientSender.init config).Safe python from trivial) (fun _ _ => trivial) ran
    rw [Runs.each_iff_of_run ran] at stays
    simp only [TcpClientSender.goesOn_iff_safe, stays, ClientAction.caught_iff]
    by_cases recent : 11 ≤ python.minor
    · simp [recent]
    · simp [recent]
  · intro config actions visited visits offline
    apply TcpClientReceiver.retries_of_sleeping
    exact Runs.visits_invariant_of (fun _ => True)
      (fun receiver : TcpClientReceiver =>
        receiver.point.offline = true → receiver.point = .sleeping)
      (fun _ _ _ _ goesOn taken => TcpClientReceiver.goesOn_step goesOn taken)
      (fun offline => by cases offline) (fun _ _ => trivial) visits offline

/-- A refused connection, one that the server closes, and a third attempt. -/
def refusedThenClosed : List ClientAction :=
  [.start none, .connect (some (.osError ⟨"ConnectionRefusedError", "refused"⟩)), .slept,
    .connect none, .watch .eof, .idleTimeout, .unwatched, .closed, .slept]

theorem reconnect_loop_goes_on_refused :
    ((∀ visited, Runs.Visits (TcpClientSender.step { minor := 10 })
        (TcpClientSender.init { host := "127.0.0.1", port := 9000 }) refusedThenClosed visited →
          visited.GoesOn { minor := 10 }) ↔
      11 ≤ 10 ∨ ∀ action ∈ refusedThenClosed, action.timesOut = false) ∧
    ∀ (config : TcpClientReceiverConfig) (actions : List ClientReceiverAction) visited,
      Runs.Visits (TcpClientReceiver.step { minor := 10 }) (TcpClientReceiver.init config) actions
        visited → visited.GoesOn { minor := 10 } :=
  reconnect_loop_goes_on_iff { minor := 10 } { host := "127.0.0.1", port := 9000 }
    (Option.some_get (by decide +kernel)).symm

/-- On Python 3.10 a connect timeout ends the sender's task; after the same outcome the
receiver makes its second attempt. -/
theorem connect_timeout_ends_sender :
    (∃ final, Runs.run (TcpClientSender.step { minor := 10 })
        (TcpClientSender.init { host := "127.0.0.1", port := 9000 })
        [.start none, .connect (some .timeout)] = some final ∧
      final.point = .died .timeout ∧ ¬final.GoesOn { minor := 10 }) ∧
    ∃ final, Runs.run (TcpClientReceiver.step { minor := 10 })
        (TcpClientReceiver.init { host := "127.0.0.1", port := 9000 })
        [.start none, .connect (some .timeout), .slept] = some final ∧
      final.point = .connecting ∧ final.attempts.length = 2 := by
  constructor
  · have outcome : (Runs.run (TcpClientSender.step { minor := 10 })
        (TcpClientSender.init { host := "127.0.0.1", port := 9000 })
        [.start none, .connect (some .timeout)]).map (·.point) =
        some (.died .timeout) := by decide +kernel
    obtain ⟨final, ran, died⟩ := Option.map_eq_some_iff.mp outcome
    refine ⟨final, ran, died, ?_⟩
    rw [TcpClientSender.goesOn_iff_safe]
    simp [TcpClientSender.Safe, died]
  · have outcome : (Runs.run (TcpClientReceiver.step { minor := 10 })
        (TcpClientReceiver.init { host := "127.0.0.1", port := 9000 })
        [.start none, .connect (some .timeout), .slept]).map
          (fun final => (final.point, final.attempts.length)) =
        some (.connecting, 2) := by decide +kernel
    obtain ⟨final, ran, seen⟩ := Option.map_eq_some_iff.mp outcome
    simp only [Prod.mk.injEq] at seen
    exact ⟨final, ran, seen⟩

end TcpSim.Transport
