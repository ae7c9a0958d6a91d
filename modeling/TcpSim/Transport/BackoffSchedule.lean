import TcpSim.Transport.TcpClientReceiver
import TcpSim.Transport.TcpClientSender

/-! The delays between the connection attempts of the two TCP clients: one schedule, given by
what became of the attempts. -/

set_option autoImplicit false

namespace TcpSim.Transport

open Engine

/-! ## The schedule -/

inductive ConnectionOutcome where
  /-- The connection was not made. -/
  | failed
  /-- The connection was made and lost again. -/
  | disconnected
  deriving DecidableEq, Repr

/-- The delays slept since the most recent connection, where `before` of them were slept when
the attempt began. -/
def ConnectionOutcome.slept (before : Nat) : ConnectionOutcome → Nat
  | .failed => before
  | .disconnected => 0

def delayAfter (maximum : ℚ) (slept : Nat) : ℚ := min (min 1 maximum * 2 ^ slept) maximum

/-- The delay after each outcome; `before` delays were slept since the last connection. -/
def schedule (maximum : ℚ) (before : Nat) : List ConnectionOutcome → List ℚ
  | [] => []
  | outcome :: rest =>
      delayAfter maximum (outcome.slept before) ::
        schedule maximum (outcome.slept before + 1) rest

variable {maximum : ℚ}

theorem delayAfter_zero : delayAfter maximum 0 = min 1 maximum := by
  rw [delayAfter, pow_zero, mul_one, min_eq_left (min_le_right _ _)]

theorem delayAfter_succ (positive : 0 < maximum) (slept : Nat) :
    delayAfter maximum (slept + 1) = min (delayAfter maximum slept * 2) maximum := by
  have doubled : maximum ≤ maximum * 2 := by linarith
  rw [delayAfter, delayAfter, min_mul_of_nonneg _ _ (by norm_num : (0 : ℚ) ≤ 2), min_assoc,
    min_eq_right doubled, pow_succ, mul_assoc]

theorem delayAfter_bounds (positive : 0 < maximum) (slept : Nat) :
    min 1 maximum ≤ delayAfter maximum slept ∧ delayAfter maximum slept ≤ maximum := by
  refine ⟨le_min ?_ (min_le_right _ _), min_le_right _ _⟩
  have initial : 0 ≤ min 1 maximum := le_min zero_le_one positive.le
  exact le_mul_of_one_le_right initial (one_le_pow₀ (by norm_num))

theorem schedule_bounds (positive : 0 < maximum) (before : Nat) (outcomes : List ConnectionOutcome) :
    ∀ delay ∈ schedule maximum before outcomes, min 1 maximum ≤ delay ∧ delay ≤ maximum := by
  induction outcomes generalizing before with
  | nil => simp [schedule]
  | cons outcome rest ih =>
      exact List.forall_mem_cons.mpr ⟨delayAfter_bounds positive _, ih _⟩

/-- A client that can be led through one attempt to its sleep, and woken, can be led through any
sequence of attempts. -/
theorem run_outcomes_of {σ α : Type} {step : σ → α → Option σ} {outcomes : α → List ConnectionOutcome}
    {ready asleep : σ → Prop} {wake : α} (quiet : outcomes wake = [])
    (attempts : ∀ state outcome, ready state → ∃ actions next,
      Runs.run step state actions = some next ∧ asleep next ∧ actions.flatMap outcomes = [outcome])
    (wakes : ∀ state, asleep state → ∃ next, step state wake = some next ∧ ready next)
    {state : σ} (isReady : ready state) (outcome : ConnectionOutcome) (rest : List ConnectionOutcome) :
    ∃ actions final, Runs.run step state actions = some final ∧ asleep final ∧
      actions.flatMap outcomes = outcome :: rest := by
  induction rest generalizing state outcome with
  | nil => exact attempts state outcome isReady
  | cons next rest ih =>
      obtain ⟨first, slept, ran, sleeps, own⟩ := attempts state outcome isReady
      obtain ⟨woken, taken, again⟩ := wakes slept sleeps
      obtain ⟨actions, final, others, finally_, later⟩ := ih again next
      refine ⟨first ++ wake :: actions, final, ?_, finally_, ?_⟩
      · exact Runs.run_append_eq_some.mpr
          ⟨slept, ran, Runs.run_cons_eq_some.mpr ⟨woken, taken, others⟩⟩
      · rw [List.flatMap_append, own, List.flatMap_cons, quiet, later]
        rfl

/-! ## The helper -/

namespace ReconnectBackoff

/-- The next delay is the one after `slept` others since the last connection. -/
structure At (maximum : ℚ) (slept : Nat) (backoff : ReconnectBackoff) : Prop where
  initial : backoff.initial = min 1 maximum
  max : backoff.max = maximum
  current : backoff.current = delayAfter maximum slept

variable {backoff : ReconnectBackoff} {slept : Nat}

theorem at_of_create (created : create 1 maximum = .ok backoff) : At maximum 0 backoff := by
  unfold create at created
  split at created
  · cases created
  · split at created
    · cases created
    · cases created
      exact ⟨rfl, rfl, delayAfter_zero.symm⟩

theorem create_of_pos (positive : 0 < maximum) : ∃ backoff, create 1 maximum = .ok backoff := by
  unfold create
  rw [dif_neg (by norm_num), dif_neg (not_le.mpr positive)]
  exact ⟨_, rfl⟩

theorem At.reset (at_ : At maximum slept backoff) : At maximum 0 backoff.reset :=
  ⟨at_.initial, at_.max, at_.initial.trans delayAfter_zero.symm⟩

theorem At.advance (positive : 0 < maximum) (at_ : At maximum slept backoff) :
    backoff.advance.1 = delayAfter maximum slept ∧ At maximum (slept + 1) backoff.advance.2 := by
  refine ⟨at_.current, at_.initial, at_.max, ?_⟩
  rw [delayAfter_succ positive, ← at_.current, ← at_.max]
  rfl

end ReconnectBackoff

open ReconnectBackoff

/-! ## The sender -/

/-- What becomes of a connection attempt. -/
def ClientAction.outcomes : ClientAction → List ConnectionOutcome
  | .connect (some _) => [.failed]
  | .connect none => [.disconnected]
  | _ => []

/-- The connection stands, or is being closed. -/
def ClientPoint.online : ClientPoint → Bool
  | .getting | .draining _ | .unwatching _ | .closing _ => true
  | _ => false

/-- The task has ended. -/
def ClientPoint.ended : ClientPoint → Prop
  | .unusable _ | .died _ => True
  | _ => False

namespace TcpClientSender

/-- Where the backoff stands, `slept` delays after the last connection. -/
def Follows (maximum : ℚ) (slept : Nat) (self : TcpClientSender) : Prop :=
  match self.point with
  | .idle => slept = 0 ∧ self.config.reconnectMaxBackoffSeconds = maximum ∧ self.writerOpen = false
  | .connecting | .sleeping => At maximum slept self.backoff ∧ self.writerOpen = false
  | .getting | .draining _ | .unwatching _ | .closing _ =>
      At maximum 0 self.backoff ∧ self.writerOpen = true
  | .unusable _ | .died _ => False

/-- The delays so far and those after the outcomes ahead; the outcome of a connection that
stands has no delay yet. -/
def delaysWith (maximum : ℚ) (slept : Nat) (self : TcpClientSender)
    (ahead : List ConnectionOutcome) : List ℚ :=
  self.delays ++ schedule maximum slept
    ((if self.point.online then [.disconnected] else []) ++ ahead)

/-- The state follows the schedule, and the outcomes ahead lead to the same delays as `before`. -/
def Continues (maximum : ℚ) (next : TcpClientSender) (before : List ConnectionOutcome → List ℚ) :
    Prop :=
  next.point.ended ∨ ∃ after, Follows maximum after next ∧
    ∀ ahead, delaysWith maximum after next ahead = before ahead

variable {self : TcpClientSender} {slept : Nat} {python : Interpreter}

theorem follows_online (online : self.point.online = true) :
    Follows maximum slept self ↔ At maximum 0 self.backoff ∧ self.writerOpen = true := by
  unfold Follows
  split <;> simp_all [ClientPoint.online]

theorem delaysWith_online (online : self.point.online = true) (ahead : List ConnectionOutcome) :
    delaysWith maximum slept self ahead =
      self.delays ++ schedule maximum slept (.disconnected :: ahead) := by
  rw [delaysWith, if_pos online, List.singleton_append]

theorem delaysWith_offline (offline : self.point.online = false) (ahead : List ConnectionOutcome) :
    delaysWith maximum slept self ahead = self.delays ++ schedule maximum slept ahead := by
  rw [delaysWith, if_neg (Bool.eq_false_iff.mp offline), List.nil_append]

theorem continues_online {next : TcpClientSender} (online : next.point.online = true)
    (backoff : At maximum 0 next.backoff) (writer : next.writerOpen = true)
    (delays : next.delays = self.delays) :
    Continues maximum next fun ahead =>
      self.delays ++ schedule maximum slept (.disconnected :: ahead) := by
  refine .inr ⟨slept, (follows_online online).mpr ⟨backoff, writer⟩, fun ahead => ?_⟩
  rw [delaysWith_online online, delays]

theorem loopTop_frame (self : TcpClientSender) :
    self.loopTop.point.online = true ∧ self.loopTop.backoff = self.backoff ∧
      self.loopTop.writerOpen = self.writerOpen ∧ self.loopTop.delays = self.delays := by
  unfold loopTop
  split <;> exact ⟨rfl, rfl, rfl, rfl⟩

/-- An outcome is over and its delay begins. -/
theorem closed_continues (positive : 0 < maximum) (backoff : At maximum slept self.backoff) :
    Continues maximum (self.closed none) fun ahead =>
      self.delays ++ delayAfter maximum slept :: schedule maximum (slept + 1) ahead := by
  obtain ⟨delay, next⟩ := backoff.advance positive
  refine .inr ⟨slept + 1, ⟨next, rfl⟩, fun ahead => ?_⟩
  have delays : (self.closed none).delays = self.delays ++ [delayAfter maximum slept] := by
    rw [← delay]
    rfl
  rw [delaysWith, delays, List.append_assoc]
  rfl

theorem enterRun_continues (cap : self.config.reconnectMaxBackoffSeconds = maximum)
    (shut : self.writerOpen = false) (loads : Option String) :
    Continues maximum (self.enterRun loads) fun ahead => self.delays ++ schedule maximum 0 ahead := by
  unfold enterRun
  rw [cap]
  split
  · exact .inl trivial
  next backoff created =>
      split
      · exact .inl trivial
      · exact .inr ⟨0, ⟨at_of_create created, shut⟩, fun _ => rfl⟩

/-- Without a connection the failure ends the turn at once. -/
theorem leaveTry_continues_shut (positive : 0 < maximum) (backoff : At maximum slept self.backoff)
    (shut : self.writerOpen = false) (error : NetworkError) :
    Continues maximum (leaveTry python self error) fun ahead =>
      self.delays ++ schedule maximum slept (.failed :: ahead) := by
  unfold leaveTry
  split
  · have still : ({ self with lastDisconnectReason := error.text }.emit
        (.reconnectPending error.text self.backoff.current)).writerOpen = false := shut
    unfold close
    rw [if_neg (by rw [still]; decide)]
    exact closed_continues positive backoff
  · unfold close
    rw [if_neg (by rw [shut]; decide)]
    exact .inl trivial

/-- A connection is closed first. -/
theorem leaveTry_continues_open (backoff : At maximum 0 self.backoff) (open_ : self.writerOpen = true)
    (error : NetworkError) :
    Continues maximum (leaveTry python self error) fun ahead =>
      self.delays ++ schedule maximum slept (.disconnected :: ahead) := by
  unfold leaveTry
  split
  · have still : ({ self with lastDisconnectReason := error.text }.emit
        (.reconnectPending error.text self.backoff.current)).writerOpen = true := open_
    unfold close
    rw [if_pos still]
    exact continues_online rfl backoff open_ rfl
  · unfold close
    rw [if_pos open_]
    exact continues_online rfl backoff open_ rfl

/-- What a step does to the delays that are slept and to come. -/
theorem follows_step (positive : 0 < maximum) {action : ClientAction} {next : TcpClientSender}
    (follows : Follows maximum slept self) (taken : self.step python action = some next) :
    Continues maximum next fun ahead => delaysWith maximum slept self (action.outcomes ++ ahead) := by
  cases steps_of_step taken with
  | starts loads idle =>
      simp only [Follows, idle] at follows
      obtain ⟨rfl, cap, closed⟩ := follows
      simp only [delaysWith_offline (show self.point.online = false by rw [idle]; rfl)]
      exact enterRun_continues cap closed loads
  | startsNothing => exact .inr ⟨slept, follows, fun _ => rfl⟩
  | sends payload => exact .inr ⟨slept, follows, fun _ => rfl⟩
  | watches outcome => exact .inr ⟨slept, follows, fun _ => rfl⟩
  | connects at_ =>
      simp only [Follows, at_] at follows
      obtain ⟨online, backoff, writer, delays⟩ := loopTop_frame
        { { self with writerOpen := true, connectedEvent := true }.emit
          (.connect self.config.host self.config.port) with
            backoff := self.backoff.reset, watch := .pending }
      simp only [delaysWith_offline (show self.point.online = false by rw [at_]; rfl)]
      exact continues_online online (backoff ▸ follows.1.reset) writer delays
  | connectFails error at_ =>
      simp only [Follows, at_] at follows
      obtain ⟨backoff, closed⟩ := follows
      simp only [delaysWith_offline (show self.point.online = false by rw [at_]; rfl)]
      exact leaveTry_continues_shut positive backoff closed error
  | timesOut at_ =>
      have stands : self.point.online = true := by rw [at_]; rfl
      obtain ⟨backoff, open_⟩ := (follows_online stands).mp follows
      obtain ⟨online, same, writer, delays⟩ := self.loopTop_frame
      simp only [delaysWith_online stands]
      exact continues_online online (same ▸ backoff) (writer.trans open_) delays
  | @gets raises payload outbound at_ head =>
      have stands : self.point.online = true := by rw [at_]; rfl
      obtain ⟨backoff, open_⟩ := (follows_online stands).mp follows
      simp only [delaysWith_online stands]
      cases raises <;> exact continues_online rfl backoff open_ rfl
  | @drains payload at_ =>
      have stands : self.point.online = true := by rw [at_]; rfl
      obtain ⟨backoff, open_⟩ := (follows_online stands).mp follows
      obtain ⟨online, same, writer, delays⟩ := loopTop_frame
        ({ self with completed := self.completed ++ [payload] }.emit (.send payload.length))
      simp only [delaysWith_online stands]
      exact continues_online online (same ▸ backoff) (writer.trans open_) delays
  | drainFails error at_ =>
      have stands : self.point.online = true := by rw [at_]; rfl
      obtain ⟨backoff, open_⟩ := (follows_online stands).mp follows
      simp only [delaysWith_online stands]
      exact continues_online rfl backoff open_ rfl
  | @unwatches error at_ =>
      have stands : self.point.online = true := by rw [at_]; rfl
      obtain ⟨backoff, open_⟩ := (follows_online stands).mp follows
      simp only [delaysWith_online stands]
      exact leaveTry_continues_open backoff open_ error
  | @closes raised at_ =>
      have stands : self.point.online = true := by rw [at_]; rfl
      obtain ⟨backoff, _⟩ := (follows_online stands).mp follows
      simp only [delaysWith_online stands]
      cases raised with
      | none => exact closed_continues positive backoff
      | some error => exact .inl trivial
  | wakes at_ =>
      simp only [Follows, at_] at follows
      simp only [delaysWith_offline (show self.point.online = false by rw [at_]; rfl)]
      exact .inr ⟨slept, follows, fun _ => rfl⟩

theorem ended_step {action : ClientAction} {next : TcpClientSender} (ended : self.point.ended)
    (taken : self.step python action = some next) : next.point.ended := by
  have at_ {point : ClientPoint} (other : ¬ point.ended) : self.point ≠ point := by
    intro same
    exact other (same ▸ ended)
  cases steps_of_step taken with
  | starts loads idle => exact absurd idle (at_ id)
  | connects here => exact absurd here (at_ id)
  | connectFails error here => exact absurd here (at_ id)
  | timesOut here => exact absurd here (at_ id)
  | gets raises here head => exact absurd here (at_ id)
  | drains here => exact absurd here (at_ id)
  | drainFails error here => exact absurd here (at_ id)
  | unwatches here => exact absurd here (at_ id)
  | closes here => exact absurd here (at_ id)
  | wakes here => exact absurd here (at_ id)
  | _ => exact ended

/-- When the task sleeps, it has slept the delays that the outcomes so far call for. -/
theorem delays_of_sleeping (positive : 0 < maximum) {config : TcpClientConfig}
    (cap : config.reconnectMaxBackoffSeconds = maximum) {actions : List ClientAction}
    (ran : Runs.run (step python) (init config) actions = some self)
    (asleep : self.point = .sleeping) :
    self.delays = schedule maximum 0 (actions.flatMap ClientAction.outcomes) := by
  have conserved := Runs.run_conserves ClientAction.outcomes (delaysWith maximum) (Follows maximum)
    (fun sender => sender.point.ended) (fun _ _ _ ended taken => ended_step ended taken)
    (fun _ _ _ _ follows taken => follows_step positive follows taken)
    (show Follows maximum 0 (init config) from ⟨rfl, cap, rfl⟩) ran
  rcases conserved with ended | ⟨after, _, same⟩
  · rw [asleep] at ended
    cases ended
  · have finally_ := same []
    rw [delaysWith_offline (by rw [asleep]; rfl), List.append_nil] at finally_
    simpa [schedule, init, delaysWith, ClientPoint.online] using finally_

/-- A refusal, or a connection that the server closes, up to the delay. -/
def outcomeActions : ConnectionOutcome → List ClientAction
  | .failed => [.connect (some (.osError ⟨"ConnectionRefusedError", "Connection refused"⟩))]
  | .disconnected => [.connect none, .watch .eof, .idleTimeout, .unwatched, .closed]

theorem run_outcomeActions (connecting : self.point = .connecting) (shut : self.writerOpen = false)
    (outcome : ConnectionOutcome) :
    ∃ asleep, Runs.run (step python) self (outcomeActions outcome) = some asleep ∧
      asleep.point = .sleeping ∧ asleep.writerOpen = false := by
  cases outcome with
  | failed =>
      simp [outcomeActions, Runs.run_cons, step, connecting, leaveTry, NetworkError.isOSError, close,
        emit, shut, closed]
  | disconnected =>
      simp [outcomeActions, Runs.run_cons, step, connecting, connected, emit, loopTop, leaveTry,
        NetworkError.isOSError, close, closed]

theorem run_outcomes (connecting : self.point = .connecting) (shut : self.writerOpen = false)
    (outcome : ConnectionOutcome) (rest : List ConnectionOutcome) :
    ∃ actions final, Runs.run (step python) self actions = some final ∧
      (final.point = .sleeping ∧ final.writerOpen = false) ∧
      actions.flatMap ClientAction.outcomes = outcome :: rest := by
  refine @run_outcomes_of _ _ _ _ (fun state => state.point = .connecting ∧ state.writerOpen = false) _
    .slept rfl ?_ ?_ _ ⟨connecting, shut⟩ outcome rest
  · intro state outcome ready
    obtain ⟨asleep, ran, sleeping⟩ := run_outcomeActions ready.1 ready.2 outcome
    exact ⟨outcomeActions outcome, asleep, ran, sleeping, by cases outcome <;> rfl⟩
  · intro state asleep
    exact ⟨state.attempt, by simp only [step, asleep.1], rfl, asleep.2⟩

/-- Every sequence of outcomes is that of a run, which then sleeps. -/
theorem sleeps_after {config : TcpClientConfig} {sslContext : Option SslContext}
    (positive : 0 < config.reconnectMaxBackoffSeconds)
    (context : createClientSslContext config none = .ok sslContext)
    {outcomes : List ConnectionOutcome} (some_ : outcomes ≠ []) :
    ∃ actions final, Runs.run (step python) (init config) actions = some final ∧
      final.point = .sleeping ∧ actions.flatMap ClientAction.outcomes = outcomes := by
  obtain ⟨outcome, rest, rfl⟩ := List.exists_cons_of_ne_nil some_
  obtain ⟨backoff, created⟩ := create_of_pos positive
  have started : (init config).step python (.start none) =
      some { init config with backoff, sslContext }.attempt := by
    simp only [step, init, enterRun, created, context]
  obtain ⟨actions, final, ran, asleep, outcomes⟩ :=
    @run_outcomes { init config with backoff, sslContext }.attempt python rfl rfl outcome rest
  refine ⟨.start none :: actions, final, ?_, asleep.1, outcomes⟩
  exact Runs.run_cons_eq_some.mpr ⟨_, started, ran⟩

end TcpClientSender

/-! ## The receiver -/

def ClientReceiverAction.outcomes : ClientReceiverAction → List ConnectionOutcome
  | .connect (some _) => [.failed]
  | .connect none => [.disconnected]
  | _ => []

def ClientReceiverPoint.online : ClientReceiverPoint → Bool
  | .waiting | .woken | .reading => true
  | _ => false

def ClientReceiverPoint.ended : ClientReceiverPoint → Prop
  | .unusable _ | .died _ => True
  | _ => False

namespace TcpClientReceiver

/-- Where the backoff stands, `slept` delays after the last connection. -/
def Follows (maximum : ℚ) (slept : Nat) (self : TcpClientReceiver) : Prop :=
  match self.point with
  | .idle => slept = 0 ∧ self.config.reconnectMaxBackoffSeconds = maximum
  | .connecting | .sleeping => At maximum slept self.backoff
  | .waiting | .woken | .reading => At maximum 0 self.backoff
  | .unusable _ | .died _ => False

/-- The delays so far and those after the outcomes ahead; the outcome of a connection that
stands has no delay yet. -/
def delaysWith (maximum : ℚ) (slept : Nat) (self : TcpClientReceiver)
    (ahead : List ConnectionOutcome) : List ℚ :=
  self.delays ++ schedule maximum slept
    ((if self.point.online then [.disconnected] else []) ++ ahead)

/-- The state follows the schedule, and the outcomes ahead lead to the same delays as `before`. -/
def Continues (maximum : ℚ) (next : TcpClientReceiver) (before : List ConnectionOutcome → List ℚ) :
    Prop :=
  next.point.ended ∨ ∃ after, Follows maximum after next ∧
    ∀ ahead, delaysWith maximum after next ahead = before ahead

variable {self : TcpClientReceiver} {slept : Nat} {python : Interpreter}

theorem follows_online (online : self.point.online = true) :
    Follows maximum slept self ↔ At maximum 0 self.backoff := by
  unfold Follows
  split <;> simp_all [ClientReceiverPoint.online]

theorem delaysWith_online (online : self.point.online = true) (ahead : List ConnectionOutcome) :
    delaysWith maximum slept self ahead =
      self.delays ++ schedule maximum slept (.disconnected :: ahead) := by
  rw [delaysWith, if_pos online, List.singleton_append]

theorem delaysWith_offline (offline : self.point.online = false) (ahead : List ConnectionOutcome) :
    delaysWith maximum slept self ahead = self.delays ++ schedule maximum slept ahead := by
  rw [delaysWith, if_neg (Bool.eq_false_iff.mp offline), List.nil_append]

theorem continues_online {next : TcpClientReceiver} (online : next.point.online = true)
    (backoff : At maximum 0 next.backoff) (delays : next.delays = self.delays) :
    Continues maximum next fun ahead =>
      self.delays ++ schedule maximum slept (.disconnected :: ahead) := by
  refine .inr ⟨slept, (follows_online online).mpr backoff, fun ahead => ?_⟩
  rw [delaysWith_online online, delays]

theorem nextRead_frame (self : TcpClientReceiver) :
    self.nextRead.point.online = true ∧ self.nextRead.backoff = self.backoff ∧
      self.nextRead.delays = self.delays := by
  unfold nextRead
  split <;> exact ⟨rfl, rfl, rfl⟩

theorem foldl_deliver_frame (records : List FramedRecord) (self : TcpClientReceiver) :
    (records.foldl deliver self).backoff = self.backoff ∧
      (records.foldl deliver self).delays = self.delays := by
  induction records generalizing self with
  | nil => exact ⟨rfl, rfl⟩
  | cons record rest ih =>
      have one : (self.deliver record).backoff = self.backoff ∧
          (self.deliver record).delays = self.delays := by
        unfold deliver
        dsimp only
        split <;> exact ⟨rfl, rfl⟩
      obtain ⟨backoff, delays⟩ := ih (self.deliver record)
      exact ⟨backoff.trans one.1, delays.trans one.2⟩

/-- An outcome is over and its delay begins. -/
theorem sleep_continues (positive : 0 < maximum) (backoff : At maximum slept self.backoff)
    (reason : String) :
    Continues maximum (self.sleep reason) fun ahead =>
      self.delays ++ delayAfter maximum slept :: schedule maximum (slept + 1) ahead := by
  obtain ⟨delay, next⟩ := backoff.advance positive
  refine .inr ⟨slept + 1, next, fun ahead => ?_⟩
  have delays : (self.sleep reason).delays = self.delays ++ [delayAfter maximum slept] := by
    rw [← delay]
    rfl
  rw [delaysWith, delays, List.append_assoc]
  rfl

/-- What comes before the sleep leaves the backoff and the delays as they are. -/
theorem disconnected_eq_sleep (self : TcpClientReceiver) (reason : String) :
    ∃ closed : TcpClientReceiver, self.disconnected reason = closed.sleep reason ∧
      closed.backoff = self.backoff ∧ closed.delays = self.delays := by
  obtain ⟨backoff, delays⟩ := foldl_deliver_frame self.framer.flush.1.toList
    { self with framer := self.framer.flush.2 }
  exact ⟨_, rfl, backoff, delays⟩

theorem disconnected_continues (positive : 0 < maximum) (backoff : At maximum 0 self.backoff)
    (reason : String) :
    Continues maximum (self.disconnected reason) fun ahead =>
      self.delays ++ schedule maximum slept (.disconnected :: ahead) := by
  obtain ⟨closed, sleeps, same, delays⟩ := self.disconnected_eq_sleep reason
  rw [sleeps, ← delays]
  rw [← same] at backoff
  exact sleep_continues positive backoff reason

theorem setPaused_frame (self : TcpClientReceiver) (paused : Bool) :
    (self.setPaused paused).backoff = self.backoff ∧ (self.setPaused paused).delays = self.delays ∧
      (self.setPaused paused).config = self.config ∧
      ((self.setPaused paused).point = self.point ∨
        self.point = .waiting ∧ (self.setPaused paused).point = .woken) := by
  unfold setPaused
  split
  · split <;> exact ⟨rfl, rfl, rfl, .inl rfl⟩
  · split
    · refine ⟨rfl, rfl, rfl, ?_⟩
      dsimp only [emit]
      split
      next waiting => exact .inr ⟨waiting, rfl⟩
      next => exact .inl rfl
    · exact ⟨rfl, rfl, rfl, .inl rfl⟩

theorem enterRun_continues (cap : self.config.reconnectMaxBackoffSeconds = maximum)
    (loads : Option String) :
    Continues maximum (self.enterRun loads) fun ahead => self.delays ++ schedule maximum 0 ahead := by
  unfold enterRun
  rw [cap]
  split
  · exact .inl trivial
  next backoff created =>
      split
      · exact .inl trivial
      · exact .inr ⟨0, at_of_create created, fun _ => rfl⟩

theorem setPaused_continues (follows : Follows maximum slept self) (paused : Bool) :
    Continues maximum (self.setPaused paused) (delaysWith maximum slept self) := by
  obtain ⟨backoff, delays, config, same | ⟨waiting, woken⟩⟩ := self.setPaused_frame paused
  · refine .inr ⟨slept, ?_, fun ahead => ?_⟩
    · unfold Follows at follows ⊢
      rw [same, backoff, config]
      exact follows
    · rw [delaysWith, same, delays]
      rfl
  · have stands : self.point.online = true := by rw [waiting]; rfl
    rw [funext (delaysWith_online stands)]
    refine continues_online (by rw [woken]; rfl) ?_ delays
    rw [backoff]
    exact (follows_online stands).mp follows

theorem received_continues (positive : 0 < maximum) (backoff : At maximum 0 self.backoff)
    (chunk : Bytes) :
    Continues maximum (self.received chunk) fun ahead =>
      self.delays ++ schedule maximum slept (.disconnected :: ahead) := by
  unfold received
  split
  · exact disconnected_continues positive backoff _
  · let counted : TcpClientReceiver := { self with
      bytesReceived := self.bytesReceived + chunk.length
      framer := (self.framer.feed chunk).2 }
    obtain ⟨same, delays⟩ := foldl_deliver_frame (self.framer.feed chunk).1 counted
    obtain ⟨online, kept, slept_⟩ := nextRead_frame ((self.framer.feed chunk).1.foldl deliver counted)
    refine continues_online online ?_ (slept_.trans delays)
    rw [kept, same]
    exact backoff

/-- What a step does to the delays that are slept and to come. -/
theorem follows_step (positive : 0 < maximum) {action : ClientReceiverAction}
    {next : TcpClientReceiver} (follows : Follows maximum slept self)
    (taken : self.step python action = some next) :
    Continues maximum next fun ahead => delaysWith maximum slept self (action.outcomes ++ ahead) := by
  cases steps_of_step taken with
  | starts loads idle =>
      simp only [Follows, idle] at follows
      obtain ⟨rfl, cap⟩ := follows
      simp only [delaysWith_offline (show self.point.online = false by rw [idle]; rfl)]
      exact enterRun_continues cap loads
  | startsNothing => exact .inr ⟨slept, follows, fun _ => rfl⟩
  | pauses paused => exact setPaused_continues follows paused
  | connects at_ =>
      simp only [Follows, at_] at follows
      simp only [delaysWith_offline (show self.point.online = false by rw [at_]; rfl)]
      obtain ⟨online, backoff, delays⟩ := nextRead_frame
        { { self with backoff := self.backoff.reset, connectedEvent := true }.emit
            (.receiverConnected self.src) with
          framer := Framer.fresh self.config.framingMode self.config.maxRecordBytes
            self.config.max_pos }
      exact continues_online online (backoff ▸ follows.reset) delays
  | connectFails error at_ =>
      simp only [Follows, at_] at follows
      simp only [delaysWith_offline (show self.point.online = false by rw [at_]; rfl)]
      unfold connectFailed
      split
      · exact sleep_continues positive follows _
      · exact .inl trivial
  | wakes at_ =>
      have stands : self.point.online = true := by rw [at_]; rfl
      simp only [delaysWith_online stands]
      exact continues_online rfl ((follows_online stands).mp follows) rfl
  | reads chunk at_ =>
      have stands : self.point.online = true := by rw [at_]; rfl
      simp only [delaysWith_online stands]
      exact received_continues positive ((follows_online stands).mp follows) chunk
  | readFails error at_ =>
      have stands : self.point.online = true := by rw [at_]; rfl
      simp only [delaysWith_online stands]
      exact disconnected_continues positive ((follows_online stands).mp follows) _
  | retries at_ =>
      simp only [Follows, at_] at follows
      simp only [delaysWith_offline (show self.point.online = false by rw [at_]; rfl)]
      exact .inr ⟨slept, follows, fun _ => rfl⟩

theorem ended_step {action : ClientReceiverAction} {next : TcpClientReceiver}
    (ended : self.point.ended) (taken : self.step python action = some next) : next.point.ended := by
  have at_ {point : ClientReceiverPoint} (other : ¬ point.ended) : self.point ≠ point := by
    intro same
    exact other (same ▸ ended)
  cases steps_of_step taken with
  | starts loads idle => exact absurd idle (at_ id)
  | pauses paused =>
      obtain ⟨_, _, _, same | ⟨waiting, _⟩⟩ := self.setPaused_frame paused
      · rw [same]
        exact ended
      · exact absurd waiting (at_ id)
  | connects here => exact absurd here (at_ id)
  | connectFails error here => exact absurd here (at_ id)
  | wakes here => exact absurd here (at_ id)
  | reads chunk here => exact absurd here (at_ id)
  | readFails error here => exact absurd here (at_ id)
  | retries here => exact absurd here (at_ id)
  | startsNothing => exact ended

/-- When the task sleeps, it has slept the delays that the outcomes so far call for. -/
theorem delays_of_sleeping (positive : 0 < maximum) {config : TcpClientReceiverConfig}
    (cap : config.reconnectMaxBackoffSeconds = maximum) {actions : List ClientReceiverAction}
    (ran : Runs.run (step python) (init config) actions = some self)
    (asleep : self.point = .sleeping) :
    self.delays = schedule maximum 0 (actions.flatMap ClientReceiverAction.outcomes) := by
  have conserved := Runs.run_conserves ClientReceiverAction.outcomes (delaysWith maximum)
    (Follows maximum) (fun receiver => receiver.point.ended)
    (fun _ _ _ ended taken => ended_step ended taken)
    (fun _ _ _ _ follows taken => follows_step positive follows taken)
    (show Follows maximum 0 (init config) from ⟨rfl, cap⟩) ran
  rcases conserved with ended | ⟨after, _, same⟩
  · rw [asleep] at ended
    cases ended
  · have finally_ := same []
    rw [delaysWith_offline (by rw [asleep]; rfl), List.append_nil] at finally_
    simpa [schedule, init, delaysWith, ClientReceiverPoint.online] using finally_

/-- A refusal, or a connection that the server closes, up to the delay. -/
def outcomeActions : ConnectionOutcome → List ClientReceiverAction
  | .failed => [.connect (some (.osError ⟨"ConnectionRefusedError", "Connection refused"⟩))]
  | .disconnected => [.connect none, .read []]

theorem fresh_flush (mode : FramingMode) (max : Nat) (max_pos : 0 < max) :
    (Framer.fresh mode max max_pos).flush.1 = none := by
  cases mode <;> rfl

theorem run_outcomeActions (connecting : self.point = .connecting) (running : self.paused = false)
    (outcome : ConnectionOutcome) :
    ∃ asleep, Runs.run (step python) self (outcomeActions outcome) = some asleep ∧
      asleep.point = .sleeping ∧ asleep.paused = false := by
  cases outcome with
  | failed =>
      have caught : catches python (.osError ⟨"ConnectionRefusedError", "Connection refused"⟩) = true := by
        simp [catches, NetworkError.isOSError]
      simp [outcomeActions, Runs.run_cons, step, connecting, connectFailed, caught, sleep, emit,
        running]
  | disconnected =>
      simp [outcomeActions, Runs.run_cons, step, connecting, connected, emit, nextRead, running,
        received, disconnected, fresh_flush, sleep]

theorem run_outcomes (connecting : self.point = .connecting) (running : self.paused = false)
    (outcome : ConnectionOutcome) (rest : List ConnectionOutcome) :
    ∃ actions final, Runs.run (step python) self actions = some final ∧
      (final.point = .sleeping ∧ final.paused = false) ∧
      actions.flatMap ClientReceiverAction.outcomes = outcome :: rest := by
  refine @run_outcomes_of _ _ _ _ (fun state => state.point = .connecting ∧ state.paused = false) _
    .slept rfl ?_ ?_ _ ⟨connecting, running⟩ outcome rest
  · intro state outcome ready
    obtain ⟨asleep, ran, sleeping⟩ := run_outcomeActions ready.1 ready.2 outcome
    exact ⟨outcomeActions outcome, asleep, ran, sleeping, by cases outcome <;> rfl⟩
  · intro state asleep
    exact ⟨state.attempt, by simp only [step, asleep.1], rfl, asleep.2⟩

/-- Every sequence of outcomes is that of a run, which then sleeps. -/
theorem sleeps_after {config : TcpClientReceiverConfig} {sslContext : Option SslContext}
    (positive : 0 < config.reconnectMaxBackoffSeconds)
    (context : createClientSslContext config.asClientSenderConfig none = .ok sslContext)
    {outcomes : List ConnectionOutcome} (some_ : outcomes ≠ []) :
    ∃ actions final, Runs.run (step python) (init config) actions = some final ∧
      final.point = .sleeping ∧ actions.flatMap ClientReceiverAction.outcomes = outcomes := by
  obtain ⟨outcome, rest, rfl⟩ := List.exists_cons_of_ne_nil some_
  obtain ⟨backoff, created⟩ := create_of_pos positive
  have started : (init config).step python (.start none) =
      some { init config with backoff, sslContext }.attempt := by
    simp only [step, init, enterRun, created, context]
  obtain ⟨actions, final, ran, asleep, outcomes⟩ :=
    @run_outcomes { init config with backoff, sslContext }.attempt python rfl rfl outcome rest
  refine ⟨.start none :: actions, final, ?_, asleep.1, outcomes⟩
  exact Runs.run_cons_eq_some.mpr ⟨_, started, ran⟩

end TcpClientReceiver

/-! ## The two clients -/

/-- After the same outcomes the two clients have slept the same delays, those of the schedule,
and none of them is out of bounds. -/
theorem backoff_schedules_agree (python : Interpreter) (positive : 0 < maximum)
    {senderConfig : TcpClientConfig} (senderCap : senderConfig.reconnectMaxBackoffSeconds = maximum)
    {receiverConfig : TcpClientReceiverConfig}
    (receiverCap : receiverConfig.reconnectMaxBackoffSeconds = maximum)
    {outcomes : List ConnectionOutcome} {senderActions : List ClientAction}
    {receiverActions : List ClientReceiverAction} {sender : TcpClientSender}
    {receiver : TcpClientReceiver}
    (senderRan : Runs.run (TcpClientSender.step python) (.init senderConfig) senderActions = some sender)
    (receiverRan : Runs.run (TcpClientReceiver.step python) (.init receiverConfig) receiverActions =
      some receiver)
    (senderOutcomes : senderActions.flatMap ClientAction.outcomes = outcomes)
    (receiverOutcomes : receiverActions.flatMap ClientReceiverAction.outcomes = outcomes)
    (senderSleeps : sender.point = .sleeping) (receiverSleeps : receiver.point = .sleeping) :
    sender.delays = schedule maximum 0 outcomes ∧ receiver.delays = schedule maximum 0 outcomes ∧
      ∀ delay ∈ schedule maximum 0 outcomes, min 1 maximum ≤ delay ∧ delay ≤ maximum := by
  refine ⟨?_, ?_, schedule_bounds positive 0 outcomes⟩
  · rw [← senderOutcomes]
    exact TcpClientSender.delays_of_sleeping positive senderCap senderRan senderSleeps
  · rw [← receiverOutcomes]
    exact TcpClientReceiver.delays_of_sleeping positive receiverCap receiverRan receiverSleeps

/-- Two refusals, a connection that is lost, and another refusal, with delays of at most 1.5 s. -/
theorem backoff_schedules_agree_refused :
    ∃ sender receiver,
      Runs.run (TcpClientSender.step { minor := 10 })
        (.init { host := "127.0.0.1", port := 9000, reconnectMaxBackoffSeconds := 3 / 2 })
        [.start none, .connect (some (.osError ⟨"ConnectionRefusedError", "refused"⟩)), .slept,
          .connect (some (.osError ⟨"ConnectionRefusedError", "refused"⟩)), .slept, .connect none,
          .watch .eof, .idleTimeout, .unwatched, .closed, .slept,
          .connect (some (.osError ⟨"ConnectionRefusedError", "refused"⟩))] = some sender ∧
      Runs.run (TcpClientReceiver.step { minor := 10 })
        (.init { host := "127.0.0.1", port := 9000, reconnectMaxBackoffSeconds := 3 / 2 })
        [.start none, .connect (some .timeout), .slept, .connect (some .timeout), .slept,
          .connect none, .read [0x61], .read [], .slept, .connect (some .timeout)] = some receiver ∧
      sender.delays = [1, 3 / 2, 1, 3 / 2] ∧ receiver.delays = [1, 3 / 2, 1, 3 / 2] := by
  have sends : (Runs.run (TcpClientSender.step { minor := 10 })
      (.init { host := "127.0.0.1", port := 9000, reconnectMaxBackoffSeconds := 3 / 2 })
      [.start none, .connect (some (.osError ⟨"ConnectionRefusedError", "refused"⟩)), .slept,
        .connect (some (.osError ⟨"ConnectionRefusedError", "refused"⟩)), .slept, .connect none,
        .watch .eof, .idleTimeout, .unwatched, .closed, .slept,
        .connect (some (.osError ⟨"ConnectionRefusedError", "refused"⟩))]).map (·.point) =
      some .sleeping := by decide +kernel
  have receives : (Runs.run (TcpClientReceiver.step { minor := 10 })
      (.init { host := "127.0.0.1", port := 9000, reconnectMaxBackoffSeconds := 3 / 2 })
      [.start none, .connect (some .timeout), .slept, .connect (some .timeout), .slept,
        .connect none, .read [0x61], .read [], .slept, .connect (some .timeout)]).map (·.point) =
      some .sleeping := by decide +kernel
  obtain ⟨sender, senderRan, senderSleeps⟩ := Option.map_eq_some_iff.mp sends
  obtain ⟨receiver, receiverRan, receiverSleeps⟩ := Option.map_eq_some_iff.mp receives
  obtain ⟨sent, received, _⟩ := backoff_schedules_agree { minor := 10 }
    (show (0 : ℚ) < 3 / 2 by norm_num) rfl rfl senderRan receiverRan rfl rfl senderSleeps
    receiverSleeps
  refine ⟨sender, receiver, senderRan, receiverRan, ?_, ?_⟩
  · rw [sent]
    decide +kernel
  · rw [received]
    decide +kernel

end TcpSim.Transport
