import TcpSim.Gui.TransmissionProperties
import TcpSim.Lib.Runs

/-! The auto loop while no client is ready: whether it leaves the scheduler where it is, and
what is sent once a client is there. -/

set_option autoImplicit false

namespace TcpSim.Gui

open Engine Transport

variable {ι : Type}

/-- The message is the one that the scheduler would hand out next. -/
def Transmission.Designates (self : Transmission ι) (message : Message) : Prop :=
  ∃ designated, self.scheduler.step.1 = some designated ∧
    ∃ number, message = Message.numbered designated number

def SenderPoint.Waits : SenderPoint → Prop
  | .waiting _ _ => True
  | _ => False

theorem SenderPoint.Rests.not_waits {point : SenderPoint} (rests : point.Rests) :
    ¬point.Waits := by
  intro waits
  cases point with
  | waiting sender message => exact rests
  | _ => exact waits

namespace Sending

/-- No sender holds a message back. -/
def NoneWaits (self : Sending ι) : Prop :=
  ∀ point ∈ self.points, ¬point.Waits

theorem NoneWaits.set {self : Sending ι} (none : self.NoneWaits) (index : Nat)
    {replacement : SenderPoint} (other : ¬replacement.Waits) (shared : Transmission ι) :
    NoneWaits ({ shared, points := self.points.set index replacement } : Sending ι) := by
  intro point member
  rcases List.mem_or_eq_of_mem_set member with old | rfl
  · exact none point old
  · exact other

/-- The auto loop does not turn where it would take a message while no client is ready. -/
def TakesForClients (self : Sending ι) : SendingAction ι → Prop
  | .autoTurn _ => self.shared.scheduler.paused = true ∨
      self.shared.server.shared.hasBroadcastClients = true ∨
      self.shared.scheduler.isExhausted = true
  | _ => True

instance (self : Sending ι) (action : SendingAction ι) : Decidable (self.TakesForClients action) :=
  match action with
  | .autoTurn _ => inferInstanceAs (Decidable (self.shared.scheduler.paused = true ∨
      self.shared.server.shared.hasBroadcastClients = true ∨
      self.shared.scheduler.isExhausted = true))
  | .server _ | .wake _ _ | .sent _ | .stepOnce _ | .togglePause | .jumpTo _
  | .setLineControls _ _ _ | .swapFile _ _ => .isTrue trivial

theorem begins_designates {self : Sending ι} {action : SendingAction ι} (none : self.NoneWaits)
    {message : Message} (begun : begins self action = some message) :
    self.shared.Designates message := by
  have of_take : self.shared.take.1 = some message → self.shared.Designates message := by
    intro took
    rcases self.shared.take_cases with ⟨_, nothing⟩ | ⟨designated, stepped, something⟩
    · rw [nothing] at took
      cases took
    · rw [something] at took
      cases took
      exact ⟨designated, stepped, self.shared.produced, rfl⟩
  cases action with
  | autoTurn order =>
      simp only [begins] at begun
      split at begun
      · exact of_take begun
      · cases begun
  | stepOnce order =>
      simp only [begins] at begun
      split at begun
      · exact of_take begun
      · cases begun
  | wake index order =>
      simp only [begins] at begun
      split at begun
      next sender held found => exact (none _ (List.mem_of_getElem? found) trivial).elim
      · cases begun
  | _ => cases begun

variable [DecidableEq ι]

/-- Without clients only requests of the user move the scheduler, and what is broadcast is what
the scheduler designates at that moment. -/
def WaitsInPlace (self : Sending ι) (action : SendingAction ι) : Prop :=
  ∀ next, self.step action = some next →
    (self.shared.server.shared.hasBroadcastClients = false → action.isRequest = false →
      ∃ running, next.shared.scheduler = { self.shared.scheduler with running }) ∧
    ∀ message ∈ begins self action, self.shared.Designates message

theorem autoTurn_takes {self next : Sending ι} {order : List ι}
    (met : self.TakesForClients (.autoTurn order))
    (taken : self.step (.autoTurn order) = some next) :
    (next.shared.scheduler = self.shared.scheduler ∨
      self.shared.server.shared.hasBroadcastClients = true) ∧
    (self.NoneWaits → next.NoneWaits) := by
  obtain ⟨shared, replacement, found, ran, rfl⟩ := step_autoTurn_eq_some taken
  obtain ⟨_, ⟨rfl, rests⟩ | ⟨_, unpaused, taking⟩⟩ := Transmission.autoTurn_eq_some ran
  · exact ⟨Or.inl rfl, fun none => none.set 0 rests.not_waits _⟩
  · cases ready : self.shared.server.shared.hasBroadcastClients with
    | true =>
        refine ⟨Or.inr rfl, fun none => none.set 0 ?_ _⟩
        obtain ⟨_, rfl⟩ | ⟨message, after, took, sent⟩ := taking
        · exact fun waits => waits
        · have same : after.server = self.shared.server := Transmission.take_server took
          obtain ⟨_, server, _, _, rfl⟩ | ⟨unready, _⟩ :=
            Transmission.sendScheduledMessage_cases sent
          · exact fun waits => waits
          · rw [same, ready] at unready
            cases unready
    | false =>
        -- neither a pause nor a client allows the turn, so there is nothing to take
        have exhausted : self.shared.scheduler.isExhausted = true := by
          rcases met with paused | clients | exhausted
          · rw [paused] at unpaused
            cases unpaused
          · rw [ready] at clients
            cases clients
          · exact exhausted
        have nothing : self.shared.take = (none, self.shared) := by
          unfold Transmission.take
          rw [SendScheduler.step_of_isExhausted exhausted]
        obtain ⟨took, rfl⟩ | ⟨message, after, took, _⟩ := taking
        · rw [nothing] at took
          cases took
          refine ⟨Or.inl rfl, fun none => none.set 0 ?_ _⟩
          exact fun waits => waits
        · rw [nothing] at took
          cases took

theorem step_noneWaits {self next : Sending ι} {action : SendingAction ι}
    (auto : action.isStepOnce = false) (met : self.TakesForClients action) (none : self.NoneWaits)
    (taken : self.step action = some next) : next.NoneWaits := by
  cases action with
  | server action =>
      obtain ⟨_, server, _, rfl⟩ := step_server_eq_some taken
      exact none
  | autoTurn order => exact (autoTurn_takes met taken).2 none
  | wake index order =>
      obtain ⟨sender, message, _, _, found, _⟩ := step_wake_eq_some taken
      exact (none _ (List.mem_of_getElem? found) trivial).elim
  | sent index =>
      obtain ⟨sender, message, task, _, ⟨_, rfl⟩ | rfl⟩ := step_sent_eq_some taken
      · exact none.set index (self.shared.finish_rests sender message).not_waits _
      · exact none.set index (self.shared.cancelSender_rests sender).not_waits _
  | stepOnce order => cases auto
  | togglePause | jumpTo | setLineControls | swapFile =>
      cases taken
      exact none

/-- Taking a message is all that moves the scheduler. -/
theorem step_scheduler {self next : Sending ι} {action : SendingAction ι}
    (auto : action.isStepOnce = false) (met : self.TakesForClients action) (none : self.NoneWaits)
    (asked : action.isRequest = false)
    (unready : self.shared.server.shared.hasBroadcastClients = false)
    (taken : self.step action = some next) :
    ∃ running, next.shared.scheduler = { self.shared.scheduler with running } := by
  cases action with
  | server action =>
      obtain ⟨_, server, _, rfl⟩ := step_server_eq_some taken
      exact ⟨self.shared.scheduler.running, rfl⟩
  | autoTurn order =>
      refine ⟨self.shared.scheduler.running, ?_⟩
      rcases (autoTurn_takes met taken).1 with same | ready
      · exact same
      · rw [unready] at ready
        cases ready
  | wake index order =>
      obtain ⟨sender, message, _, _, found, _⟩ := step_wake_eq_some taken
      exact (none _ (List.mem_of_getElem? found) trivial).elim
  | sent index =>
      obtain ⟨sender, message, task, _, ⟨_, rfl⟩ | rfl⟩ := step_sent_eq_some taken
      · refine ⟨self.shared.scheduler.running, ?_⟩
        exact (self.shared.finish_alike sender message).scheduler
      · obtain ⟨running, stopped⟩ := self.shared.cancelSender_scheduler sender
        refine ⟨running, ?_⟩
        rw [stopped]
  | stepOnce order => cases auto
  | togglePause | jumpTo | setLineControls | swapFile => cases asked

/-- If the auto loop takes messages for clients only, it waits in place and what is broadcast
is always what the scheduler designates. -/
theorem auto_loop_waits_in_place (config : TcpServerConfig Origin) (sendHeader loop : Bool)
    (loaded : LoadedFile) {actions : List (SendingAction ι)}
    (auto : ∀ action ∈ actions, action.isStepOnce = false)
    (each : Runs.Each step TakesForClients (started config sendHeader loop loaded) actions) :
    Runs.Each step WaitsInPlace (started config sendHeader loop loaded) actions := by
  refine (each.of_only auto).conclude NoneWaits ?_ ?_ ?_
  · intro self action next met none taken
    exact step_noneWaits met.1 met.2 none taken
  · intro self action met none next taken
    exact ⟨fun unready asked => step_scheduler met.1 met.2 none asked unready taken,
      fun message begun => begins_designates none begun⟩
  · intro point member
    rw [List.mem_singleton.mp member]
    exact fun waits => waits

def threeLines : LoadedFile where
  records := [[49, 10], [50, 10], [51, 10]]
  headerRaw := none

/-- The only client leaves, and nothing happens until another one is there. -/
def pauseWithoutClients : List (SendingAction String) :=
  [.server (.connect "a"), .autoTurn ["a"], .sent 0, .server (.resume 2 true),
    .server (.resume 2 false), .jumpTo 3, .server (.connect "b"), .autoTurn ["b"]]

theorem auto_loop_waits_in_place_two_clients :
    (Runs.run step (started {} false true threeLines) pauseWithoutClients).isSome = true ∧
      Runs.Each step WaitsInPlace (started {} false true threeLines) pauseWithoutClients :=
  ⟨by decide +kernel,
    auto_loop_waits_in_place {} false true threeLines (by decide) (by decide +kernel)⟩

/-- The loop turns before the first client is there. -/
def turnWithoutClients : List (SendingAction String) :=
  [.autoTurn [], .jumpTo 3, .server (.connect "a"), .wake 0 ["a"]]

theorem turnWithoutClients_not_in_place :
    ((Runs.run step (started {} false true threeLines) turnWithoutClients).isSome = true ∧
      ((Runs.run step (started {} false true threeLines) (turnWithoutClients.take 3)).map
        fun self => ((begins self (.wake 0 ["a"])).map (·.lineNumber),
          self.shared.scheduler.step.1.map (·.lineNumber))) = some (some 1, some 3)) ∧
    ¬Runs.Each step WaitsInPlace (started {} false true threeLines) turnWithoutClients := by
  refine ⟨by decide +kernel, ?_⟩
  intro each
  have possible : (step (started {} false true threeLines)
      (.autoTurn [] : SendingAction String)).map (·.shared.scheduler.cursor) = some 1 := by
    decide +kernel
  obtain ⟨next, taken, moved⟩ := Option.map_eq_some_iff.mp possible
  obtain ⟨running, same⟩ := (each.1 next taken).1 rfl rfl
  rw [same] at moved
  cases moved

end Sending

end TcpSim.Gui
