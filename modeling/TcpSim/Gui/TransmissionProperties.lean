import TcpSim.Gui.Transmission
import TcpSim.Transport.TcpServerProperties

/-! What the parts of a transmission do, one lemma for each. -/

set_option autoImplicit false

namespace TcpSim.Gui

open Engine Transport

variable {ι : Type}

/-- The sender holds no message and awaits no broadcast. -/
def SenderPoint.Rests : SenderPoint → Prop
  | .sleeping | .done => True
  | .waiting _ _ | .broadcasting _ _ _ => False

namespace Transmission

/-- Only counts and status lines change. -/
structure Alike (before after : Transmission ι) : Prop where
  scheduler : after.scheduler = before.scheduler
  server : after.server = before.server
  files : after.files = before.files
  produced : after.produced = before.produced

variable (self : Transmission ι)

theorem emit_alike (message : String) : Alike self (self.emit message) :=
  ⟨rfl, rfl, rfl, rfl⟩

/-- A request other than a swap: other lines of the file, another place, or a pause. -/
structure Steers (before after : Transmission ι) : Prop where
  server : after.server = before.server
  files : after.files = before.files
  produced : after.produced = before.produced
  source : after.scheduler.sourceRecords = before.scheduler.sourceRecords
  records : ∀ record ∈ after.scheduler.records,
    record ∈ before.scheduler.records ∨ record ∈ before.scheduler.sourceRecords
  pendingHeader : after.scheduler.pendingHeader = before.scheduler.pendingHeader
  pendingSwap : after.scheduler.pendingSwap = before.scheduler.pendingSwap

theorem Alike.steers {before after : Transmission ι} (alike : Alike before after) :
    Steers before after := by
  obtain ⟨scheduler, server, files, produced⟩ := alike
  refine ⟨server, files, produced, ?_, ?_, ?_, ?_⟩
  · rw [scheduler]
  · rw [scheduler]
    exact fun _ member => Or.inl member
  · rw [scheduler]
  · rw [scheduler]

theorem togglePause_steers : Steers self self.togglePause := by
  unfold togglePause
  split <;> exact ⟨rfl, rfl, rfl, rfl, fun _ member => Or.inl member, rfl, rfl⟩

theorem jumpToLine_steers (lineNumber : Int) : Steers self (self.jumpToLine lineNumber) := by
  unfold jumpToLine
  split
  · exact ⟨rfl, rfl, rfl, rfl, fun _ member => Or.inl member, rfl, rfl⟩
  next scheduler jumped =>
    unfold SendScheduler.jumpTo at jumped
    split at jumped
    · cases jumped
    · cases jumped
      exact ⟨rfl, rfl, rfl, rfl, fun _ member => Or.inl member, rfl, rfl⟩

theorem setLineControls_steers (startLine endLine firstN : Option Int) :
    Steers self (self.setLineControls startLine endLine firstN) := by
  unfold setLineControls
  split
  · exact ⟨rfl, rfl, rfl, rfl, fun _ member => Or.inl member, rfl, rfl⟩
  next scheduler selected =>
    unfold SendScheduler.setLineControls at selected
    cases checked : LineSelection.check startLine endLine firstN with
    | error text =>
        rw [checked] at selected
        cases selected
    | ok lines =>
        rw [checked] at selected
        cases selected
        exact ⟨rfl, rfl, rfl, rfl, fun _ member => Or.inr (lines.mem_of_select member), rfl, rfl⟩

theorem swapFile_cases (stream : StreamSettings) (read : Except Raised LoadedFile) :
    Alike self (self.swapFile stream read) ∨
    ∃ loaded, read = .ok loaded ∧
      Alike (self.swapRecords stream.preset.1.sendHeader loaded) (self.swapFile stream read) := by
  cases read with
  | error raised =>
      refine Or.inl ?_
      simp only [swapFile]
      split <;> exact ⟨rfl, rfl, rfl, rfl⟩
  | ok loaded => exact Or.inr ⟨loaded, rfl, ⟨rfl, rfl, rfl, rfl⟩⟩

theorem finish_alike (sender : Sender) (message : Message) :
    Alike self (self.finish sender message).1 := by
  cases sender <;> exact ⟨rfl, rfl, rfl, rfl⟩

theorem finish_rests (sender : Sender) (message : Message) :
    (self.finish sender message).2.Rests := by
  cases sender <;> trivial

theorem cancelSender_rests (sender : Sender) : (self.cancelSender sender).2.Rests := by
  cases sender <;> trivial

theorem cancelSender_scheduler (sender : Sender) :
    ∃ running, (self.cancelSender sender).1 =
      { self with scheduler := { self.scheduler with running } } := by
  cases sender
  · exact ⟨false, rfl⟩
  · exact ⟨self.scheduler.running, rfl⟩

theorem take_cases :
    (self.scheduler.step.1 = none ∧
      self.take = (none, { self with scheduler := self.scheduler.step.2 })) ∨
    ∃ message, self.scheduler.step.1 = some message ∧
      self.take = (some (Message.numbered message self.produced),
        { self with scheduler := self.scheduler.step.2, produced := self.produced + 1 }) := by
  unfold take
  split
  next stepped => exact Or.inl ⟨by rw [stepped], by rw [stepped]⟩
  next message _ stepped => exact Or.inr ⟨message, by rw [stepped], by rw [stepped]⟩

theorem take_server {self after : Transmission ι} {message : Option Message}
    (took : self.take = (message, after)) : after.server = self.server := by
  rcases self.take_cases with ⟨_, same⟩ | ⟨_, _, same⟩
  · rw [same] at took
    cases took
    rfl
  · rw [same] at took
    cases took
    rfl

theorem sent_eq_some {self next : Transmission ι} {point replacement : SenderPoint}
    (ran : self.sent point = some (next, replacement)) :
    ∃ sender message task, point = .broadcasting sender message task ∧
      ((self.server.points[task]? = some .done ∧ (next, replacement) = self.finish sender message) ∨
        (next, replacement) = self.cancelSender sender) := by
  unfold sent at ran
  split at ran
  next sender message task =>
    refine ⟨sender, message, task, rfl, ?_⟩
    split at ran
    next ended => exact Or.inl ⟨ended, (Option.some.inj ran).symm⟩
    next => exact Or.inr (Option.some.inj ran).symm
    next => cases ran
  next => cases ran

variable [DecidableEq ι]

theorem sendScheduledMessage_cases {self next : Transmission ι} {runs : Bool} {sender : Sender}
    {message : Message} {order : List ι} {point : SenderPoint}
    (ran : self.sendScheduledMessage runs sender message order = some (next, point)) :
    (self.server.shared.hasBroadcastClients = true ∧ ∃ server,
      self.server.step (.broadcast message.payload order) = some server ∧
      next = { self with server } ∧
      point = .broadcasting sender message self.server.points.length) ∨
    (self.server.shared.hasBroadcastClients = false ∧
      (next = self ∧ point = .waiting sender message ∨
        runs = false ∧ (next, point) = self.finish sender message)) := by
  unfold sendScheduledMessage at ran
  split at ran
  next ready =>
    obtain ⟨server, begun, same⟩ := Option.map_eq_some_iff.mp ran
    cases same
    exact Or.inl ⟨ready, server, begun, rfl, rfl⟩
  next unready =>
    refine Or.inr ⟨Bool.eq_false_of_not_eq_true unready, ?_⟩
    split at ran
    · cases ran
      exact Or.inl ⟨rfl, rfl⟩
    next ended => exact Or.inr ⟨Bool.eq_false_of_not_eq_true ended, (Option.some.inj ran).symm⟩

/-- A turn of the auto loop does nothing, takes nothing or sends what it takes. -/
theorem autoTurn_eq_some {self next : Transmission ι} {order : List ι}
    {point replacement : SenderPoint}
    (ran : self.autoTurn order point = some (next, replacement)) :
    point = .sleeping ∧
      ((next = self ∧ replacement.Rests) ∨
      (self.scheduler.running = true ∧ self.scheduler.paused = false ∧
        ((self.take = (none, next) ∧ replacement = .sleeping) ∨
        ∃ message taken, self.take = (some message, taken) ∧
          taken.sendScheduledMessage true .auto message order = some (next, replacement)))) := by
  cases point with
  | sleeping =>
      refine ⟨rfl, ?_⟩
      simp only [autoTurn] at ran
      split at ran
      · cases ran
        exact Or.inl ⟨rfl, trivial⟩
      next runs =>
        split at ran
        · cases ran
          exact Or.inl ⟨rfl, trivial⟩
        next unpaused =>
          refine Or.inr ⟨by simpa using runs, by simpa using unpaused, ?_⟩
          split at ran
          next taken took =>
            cases ran
            exact Or.inl ⟨took, rfl⟩
          next message taken took => exact Or.inr ⟨message, taken, took, ran⟩
  | _ => cases ran

theorem stepOnce_eq_some {self next : Transmission ι} {runs : Bool} {order : List ι}
    {point : SenderPoint} (ran : self.stepOnce runs order = some (next, point)) :
    (∃ taken, self.take = (none, taken) ∧ Alike taken next ∧ point = .done) ∨
    ∃ message taken, self.take = (some message, taken) ∧
      taken.sendScheduledMessage runs .stepOnce message order = some (next, point) := by
  unfold stepOnce at ran
  split at ran
  next taken took =>
    cases ran
    exact Or.inl ⟨taken, took, taken.emit_alike _, rfl⟩
  next message taken took => exact Or.inr ⟨message, taken, took, ran⟩

theorem wake_eq_some {self next : Transmission ι} {runs : Bool} {order : List ι}
    {point replacement : SenderPoint}
    (ran : self.wake runs order point = some (next, replacement)) :
    ∃ sender message, point = .waiting sender message ∧
      self.sendScheduledMessage runs sender message order = some (next, replacement) := by
  cases point with
  | waiting sender message => exact ⟨sender, message, rfl, ran⟩
  | _ => cases ran

end Transmission

namespace Sending

variable [DecidableEq ι] {self next : Sending ι}

theorem step_server_eq_some {action : ServerAction ι Origin}
    (taken : self.step (.server action) = some next) :
    action.isOwn = true ∧ ∃ server, self.shared.server.step action = some server ∧
      next = { self with shared := { self.shared with server } } := by
  simp only [step] at taken
  split at taken
  next own =>
    obtain ⟨server, moved, rfl⟩ := Option.map_eq_some_iff.mp taken
    exact ⟨own, server, moved, rfl⟩
  · cases taken

theorem step_autoTurn_eq_some {order : List ι} (taken : self.step (.autoTurn order) = some next) :
    ∃ shared replacement, self.points[0]? = some .sleeping ∧
      self.shared.autoTurn order .sleeping = some (shared, replacement) ∧
      next = { shared, points := self.points.set 0 replacement } := by
  simp only [step] at taken
  obtain ⟨point, shared, replacement, found, ran, rfl⟩ := Interleaving.tryAdvance_eq_some.mp taken
  obtain ⟨rfl, _⟩ := Transmission.autoTurn_eq_some ran
  exact ⟨shared, replacement, found, ran, rfl⟩

theorem step_wake_eq_some {index : Nat} {order : List ι}
    (taken : self.step (.wake index order) = some next) :
    ∃ sender message shared replacement, self.points[index]? = some (.waiting sender message) ∧
      self.shared.sendScheduledMessage (engineRuns self.points) sender message order =
        some (shared, replacement) ∧
      next = { shared, points := self.points.set index replacement } := by
  simp only [step] at taken
  obtain ⟨point, shared, replacement, found, ran, rfl⟩ := Interleaving.tryAdvance_eq_some.mp taken
  obtain ⟨sender, message, rfl, sent⟩ := Transmission.wake_eq_some ran
  exact ⟨sender, message, shared, replacement, found, sent, rfl⟩

theorem step_sent_eq_some {index : Nat} (taken : self.step (.sent index) = some next) :
    ∃ sender message task, self.points[index]? = some (.broadcasting sender message task) ∧
      ((self.shared.server.points[task]? = some .done ∧
        next = {
          shared := (self.shared.finish sender message).1
          points := self.points.set index (self.shared.finish sender message).2 }) ∨
      next = {
        shared := (self.shared.cancelSender sender).1
        points := self.points.set index (self.shared.cancelSender sender).2 }) := by
  simp only [step] at taken
  obtain ⟨point, shared, replacement, found, ran, rfl⟩ := Interleaving.tryAdvance_eq_some.mp taken
  obtain ⟨sender, message, task, rfl, after⟩ := Transmission.sent_eq_some ran
  refine ⟨sender, message, task, found, ?_⟩
  rcases after with ⟨ended, same⟩ | same
  · rw [← same]
    exact Or.inl ⟨ended, rfl⟩
  · rw [← same]
    exact Or.inr rfl

theorem step_stepOnce_eq_some {order : List ι} (taken : self.step (.stepOnce order) = some next) :
    ∃ shared point, self.shared.stepOnce (engineRuns self.points) order = some (shared, point) ∧
      next = { shared, points := self.points ++ [point] } := by
  simp only [step] at taken
  exact Interleaving.tryLaunch_eq_some.mp taken

/-- A request steers the auto loop, or swaps the file that has been read. -/
theorem step_request_eq_some {action : SendingAction ι} (asked : action.isRequest = true)
    (taken : self.step action = some next) :
    ∃ shared, next = { self with shared } ∧
      (self.shared.Steers shared ∨
        ∃ stream loaded, action = .swapFile stream (.ok loaded) ∧
          Transmission.Alike (self.shared.swapRecords stream.preset.1.sendHeader loaded) shared) := by
  cases action with
  | togglePause =>
      cases taken
      exact ⟨_, rfl, Or.inl self.shared.togglePause_steers⟩
  | jumpTo line =>
      cases taken
      exact ⟨_, rfl, Or.inl (self.shared.jumpToLine_steers line)⟩
  | setLineControls startLine endLine firstN =>
      cases taken
      exact ⟨_, rfl, Or.inl (self.shared.setLineControls_steers startLine endLine firstN)⟩
  | swapFile stream read =>
      cases taken
      refine ⟨_, rfl, ?_⟩
      rcases self.shared.swapFile_cases stream read with alike | ⟨loaded, rfl, alike⟩
      · exact Or.inl alike.steers
      · exact Or.inr ⟨stream, loaded, rfl, alike⟩
  | _ => cases asked

end Sending

/-- The message whose broadcast the action begins. -/
def begins (self : Sending ι) : SendingAction ι → Option Message
  | .autoTurn _ =>
      if self.points[0]? = some .sleeping ∧ self.shared.scheduler.running ∧
        !self.shared.scheduler.paused ∧ self.shared.server.shared.hasBroadcastClients
      then self.shared.take.1 else none
  | .wake sender _ =>
      match self.points[sender]? with
      | some (.waiting _ message) =>
          if self.shared.server.shared.hasBroadcastClients then some message else none
      | _ => none
  | .stepOnce _ =>
      if self.shared.server.shared.hasBroadcastClients then self.shared.take.1 else none
  | _ => none

section Begins

variable {self : Sending ι} (ready : self.shared.server.shared.hasBroadcastClients = true)

include ready

theorem begins_autoTurn {message : Message} {after : Transmission ι}
    (found : self.points[0]? = some .sleeping) (runs : self.shared.scheduler.running = true)
    (unpaused : self.shared.scheduler.paused = false)
    (took : self.shared.take = (some message, after)) (order : List ι) :
    begins self (.autoTurn order) = some message := by
  simp only [begins]
  rw [if_pos ⟨found, runs, by rw [unpaused]; rfl, ready⟩, took]

theorem begins_wake {index : Nat} {sender : Sender} {message : Message}
    (found : self.points[index]? = some (.waiting sender message)) (order : List ι) :
    begins self (.wake index order) = some message := by
  simp only [begins, found, if_pos ready]

theorem begins_stepOnce {message : Message} {after : Transmission ι}
    (took : self.shared.take = (some message, after)) (order : List ι) :
    begins self (.stepOnce order) = some message := by
  simp only [begins, if_pos ready, took]

end Begins

end TcpSim.Gui
