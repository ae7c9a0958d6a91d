import TcpSim.Engine.PlainRuns
import TcpSim.Gui.TransmissionProperties
import TcpSim.Transport.UnfinishedBroadcasts
import TcpSim.Transport.WrittenStreams
import Mathlib.Algebra.Ring.Nat

/-! A transmission in which nobody jumps, steps, selects lines or swaps the file: the auto loop
broadcasts the records one after the other, whatever the clients do. -/

set_option autoImplicit false

namespace TcpSim.Gui

open Engine Transport

variable {ι : Type}

/-! ## The records in their order -/

namespace LoadedFile

variable (self : LoadedFile)

/-- The payload of the message with this number; behind the last record they start over. -/
def message (number : Nat) : Option (Payload Origin) :=
  (self.payloads 0)[number % self.records.length]?.map fun payload =>
    { payload with tag.number := some number }

def traversal (count : Nat) : List (Payload Origin) := (List.range count).filterMap self.message

variable {self}

theorem traversal_succ {number : Nat} {payload : Payload Origin}
    (next : self.message number = some payload) :
    self.traversal (number + 1) = self.traversal number ++ [payload] := by
  simp [traversal, List.range_succ, next]

end LoadedFile

def volume (payloads : List (Payload Origin)) : Nat := (payloads.map (·.bytes.length)).sum

@[simp] theorem volume_concat (payloads : List (Payload Origin)) (payload : Payload Origin) :
    volume (payloads ++ [payload]) = volume payloads + payload.bytes.length := by
  simp [volume]

/-- Broadcasts of nothing are not made. -/
def LoadedFile.broadcasts (self : LoadedFile) (count : Nat) : List (Payload Origin) :=
  (self.traversal count).filter (·.bytes ≠ [])

/-- No single steps, and the user asks for pauses only. -/
def SendingAction.isPlain : SendingAction ι → Bool
  | .server _ | .autoTurn _ | .wake _ _ | .sent _ | .togglePause => true
  | _ => false

/-! ## The scheduler -/

namespace Transmission

/-- The scheduler has the whole file, and has been through its first messages. -/
def Plain (loaded : LoadedFile) (loop : Bool) (transmission : Transmission ι) : Prop :=
  SendScheduler.Plain (loaded.payloads 0) loop transmission.produced transmission.scheduler

namespace Plain

variable {loaded : LoadedFile} {loop : Bool} {self next : Transmission ι}
  (plain : Plain loaded loop self)

include plain

/-- Pauses and the end of the loop do not matter. -/
theorem of_running (running paused : Bool)
    (scheduler : next.scheduler = { self.scheduler with running, paused })
    (produced : next.produced = self.produced) : Plain loaded loop next := by
  unfold Plain
  rw [scheduler, produced]
  exact SendScheduler.Plain.of_running plain running paused

theorem of_same (scheduler : next.scheduler = self.scheduler)
    (produced : next.produced = self.produced) : Plain loaded loop next :=
  plain.of_running self.scheduler.running self.scheduler.paused scheduler produced

/-- The message that is taken is the next one of the traversal. -/
theorem take {message : Option Message} (took : self.take = (message, next)) :
    Plain loaded loop next ∧ next.server = self.server ∧ next.stats = self.stats ∧
      (message = none ∧ next.produced = self.produced ∨
        ∃ sent, message = some sent ∧ loaded.message self.produced = some sent.payload ∧
          next.produced = self.produced + 1) := by
  unfold Transmission.take at took
  cases stepped : self.scheduler.step with
  | mk given scheduler =>
      rw [stepped] at took
      rcases SendScheduler.Plain.step plain stepped with
        ⟨rfl, rfl⟩ | ⟨given, rfl, own, _, later⟩
      · cases took
        exact ⟨plain.of_same rfl rfl, rfl, rfl, .inl ⟨rfl, rfl⟩⟩
      · cases took
        refine ⟨later, rfl, rfl, .inr ⟨_, rfl, ?_, rfl⟩⟩
        rw [show (loaded.payloads 0).length = loaded.records.length from List.length_map _] at own
        unfold LoadedFile.message
        rw [own]
        rfl

theorem produced_le (never : loop = false) : self.produced ≤ loaded.records.length := by
  have within := SendScheduler.Plain.produced_le plain never
  rwa [show (loaded.payloads 0).length = loaded.records.length from List.length_map _] at within

end Plain

/-! ## The auto loop -/

section Phases

variable (loaded : LoadedFile) (count : Nat) (transmission : Transmission ι)

/-- The server has been given the first messages. -/
def Given : Prop := transmission.server.shared.sent = loaded.broadcasts count

/-- The first messages have been counted. -/
def Counted : Prop :=
  transmission.stats = { featuresSent := count, bytesSent := volume (loaded.traversal count) }

/-- No broadcast has clients left. -/
def Idle : Prop := ∀ task, ¬PendsAt transmission.server.points false task

end Phases

/-- How far the server and the counts are, by where the auto loop is. -/
inductive InStep (loaded : LoadedFile) (transmission : Transmission ι) : SenderPoint → Prop where
  | sleeping (given : transmission.Given loaded transmission.produced)
      (counted : transmission.Counted loaded transmission.produced) (idle : transmission.Idle) :
      InStep loaded transmission .sleeping
  | waiting (message : Message) (number : Nat) (taken : transmission.produced = number + 1)
      (own : loaded.message number = some message.payload)
      (given : transmission.Given loaded number) (counted : transmission.Counted loaded number)
      (idle : transmission.Idle) : InStep loaded transmission (.waiting .auto message)
  | broadcasting (message : Message) (task number : Nat) (taken : transmission.produced = number + 1)
      (own : loaded.message number = some message.payload)
      (given : transmission.Given loaded (number + 1)) (counted : transmission.Counted loaded number)
      (alone : ∀ index, PendsAt transmission.server.points false index → index = task) :
      InStep loaded transmission (.broadcasting .auto message task)
  | done (number : Nat) (given : transmission.Given loaded transmission.produced)
      (counted : transmission.Counted loaded number) (low : number ≤ transmission.produced)
      (high : transmission.produced ≤ number + 1) : InStep loaded transmission .done

namespace InStep

variable {loaded : LoadedFile} {self next : Transmission ι} {point : SenderPoint}

/-- The server goes on with what it has to do, and broadcasts nothing new. -/
theorem goesOn (inStep : InStep loaded self point) (produced : next.produced = self.produced)
    (sent : next.server.shared.sent = self.server.shared.sent) (stats : next.stats = self.stats)
    (pends : ∀ index, PendsAt next.server.points false index →
      PendsAt self.server.points false index) : InStep loaded next point := by
  have given (count : Nat) (given : self.Given loaded count) : next.Given loaded count :=
    sent.trans given
  have counted (count : Nat) (counted : self.Counted loaded count) : next.Counted loaded count :=
    stats.trans counted
  have idle (idle : self.Idle) : next.Idle := fun task pending => idle task (pends task pending)
  cases inStep with
  | sleeping sent stats calm =>
      rw [← produced] at sent stats
      exact .sleeping (given _ sent) (counted _ stats) (idle calm)
  | waiting message number taken own sent stats calm =>
      exact .waiting message number (produced.trans taken) own (given _ sent) (counted _ stats)
        (idle calm)
  | broadcasting message task number taken own sent stats alone =>
      exact .broadcasting message task number (produced.trans taken) own (given _ sent)
        (counted _ stats) fun index pending => alone index (pends index pending)
  | done number sent stats low high =>
      rw [← produced] at sent low high
      exact .done number (given _ sent) (counted _ stats) low high

theorem finish {message : Message} {number : Nat} (taken : self.produced = number + 1)
    (own : loaded.message number = some message.payload) (given : self.Given loaded (number + 1))
    (counted : self.Counted loaded number) (idle : self.Idle) :
    InStep loaded (self.finish .auto message).1 (self.finish .auto message).2 := by
  rw [← taken] at given
  refine .sleeping given ?_ idle
  change EngineStats.mk (self.stats.featuresSent + 1)
    (self.stats.bytesSent + message.payload.bytes.length) = _
  unfold Counted at counted
  rw [counted]
  change _ = EngineStats.mk self.produced (volume (loaded.traversal self.produced))
  rw [taken, LoadedFile.traversal_succ own, volume_concat]

end InStep

/-- A broadcast begins while no other has clients left, or nothing happens to the server. -/
def Feeds [DecidableEq ι] (before after : Transport.System ι Origin) : Prop :=
  after = before ∨ ∃ payload order, before.pendings false = [] ∧
    before.step (.broadcast payload order) = some after

theorem idle_iff {self : Transmission ι} : self.Idle ↔ self.server.pendings false = [] :=
  pendings_eq_nil_iff.symm

/-- The message that comes next is broadcast, or waits for clients. -/
theorem InStep.send [DecidableEq ι] {loaded : LoadedFile} {self next : Transmission ι}
    {replacement : SenderPoint} {message : Message} {order : List ι} {number : Nat}
    (taken : self.produced = number + 1) (own : loaded.message number = some message.payload)
    (given : self.Given loaded number) (counted : self.Counted loaded number) (idle : self.Idle)
    (sends : self.sendScheduledMessage true .auto message order = some (next, replacement)) :
    InStep loaded next replacement ∧ Feeds self.server next.server ∧
      next.scheduler = self.scheduler ∧ next.produced = self.produced := by
  rcases sendScheduledMessage_cases sends with
    ⟨_, server, begun, rfl, rfl⟩ | ⟨_, ⟨rfl, rfl⟩ | ⟨runs, _⟩⟩
  · refine ⟨.broadcasting message _ number taken own ?_ counted ?_,
      .inr ⟨message.payload, order, idle_iff.mp idle, begun⟩, rfl, rfl⟩
    · have sent := System.broadcast_sent begun
      unfold Given at given
      change server.shared.sent = _
      rw [sent, given, LoadedFile.broadcasts, LoadedFile.broadcasts, LoadedFile.traversal_succ own,
        List.filter_append]
    · intro index pending
      exact (System.pendsAt_of_broadcast begun pending).resolve_left (idle index)
  · exact ⟨.waiting message number taken own given counted idle, .inl rfl, rfl, rfl⟩
  · cases runs

end Transmission

/-! ## Steps -/

namespace Sending

/-- The auto loop is the only sender, and it goes through the file. -/
structure Traversing (loaded : LoadedFile) (loop : Bool) (state : Sending ι) : Prop where
  point : ∃ point, state.points = [point] ∧ Transmission.InStep loaded state.shared point
  plain : Transmission.Plain loaded loop state.shared

/-- What a step is to the server. -/
def ServerSteps [DecidableEq ι] (before after : Transport.System ι Origin) :
    SendingAction ι → Prop
  | .server action => before.step action = some after
  | _ => Transmission.Feeds before after

namespace Traversing

variable {loaded : LoadedFile} {loop : Bool} {self next : Sending ι}

theorem at_zero {point found : SenderPoint} {index : Nat} (points : self.points = [point])
    (present : self.points[index]? = some found) : index = 0 ∧ found = point := by
  rw [points, List.getElem?_singleton] at present
  split at present
  next first => exact ⟨first, (Option.some.inj present).symm⟩
  next => cases present

variable [DecidableEq ι] (traversing : self.Traversing loaded loop)

include traversing

theorem server {action : ServerAction ι Origin} (taken : self.step (.server action) = some next) :
    next.Traversing loaded loop ∧ self.shared.server.step action = some next.shared.server := by
  obtain ⟨own, server, moved, rfl⟩ := step_server_eq_some taken
  obtain ⟨⟨point, points, inStep⟩, plain⟩ := traversing
  refine ⟨⟨⟨point, points, ?_⟩, plain.of_same rfl rfl⟩, moved⟩
  exact inStep.goesOn rfl (System.own_sent own moved) rfl
    fun _ pending => System.pendsAt_of_own own moved pending

theorem autoTurn {order : List ι} (taken : self.step (.autoTurn order) = some next) :
    next.Traversing loaded loop ∧ Transmission.Feeds self.shared.server next.shared.server := by
  obtain ⟨shared, replacement, found, ran, rfl⟩ := step_autoTurn_eq_some taken
  obtain ⟨⟨point, points, inStep⟩, plain⟩ := traversing
  obtain ⟨_, rfl⟩ := at_zero points found
  have alone : self.points.set 0 replacement = [replacement] := by rw [points]; rfl
  cases inStep with
  | sleeping given counted idle =>
      obtain ⟨_, ⟨rfl, rests⟩ | ⟨_, _, ⟨took, rfl⟩ | ⟨message, taken, took, sends⟩⟩⟩ :=
        Transmission.autoTurn_eq_some ran
      · refine ⟨⟨⟨replacement, alone, ?_⟩, plain⟩, .inl rfl⟩
        cases replacement with
        | sleeping => exact .sleeping given counted idle
        | done => exact .done _ given counted le_rfl (Nat.le_succ _)
        | _ => exact rests.elim
      · obtain ⟨plain, server, stats, ⟨_, produced⟩ | ⟨_, something, _⟩⟩ := plain.take took
        · refine ⟨⟨⟨_, alone, ?_⟩, plain⟩, .inl server⟩
          refine (Transmission.InStep.sleeping given counted idle).goesOn produced ?_ stats ?_
          · rw [server]
          · rw [server]
            exact fun _ pending => pending
        · cases something
      · obtain ⟨plain, server, stats, ⟨nothing, _⟩ | ⟨_, something, own, produced⟩⟩ := plain.take took
        · cases nothing
        · cases something
          have unsent : taken.Given loaded self.shared.produced := by
            unfold Transmission.Given
            rw [server]
            exact given
          have calm : taken.Idle := by
            unfold Transmission.Idle
            rw [server]
            exact idle
          obtain ⟨inStep, feeds, scheduler, same⟩ :=
            Transmission.InStep.send produced own unsent (stats.trans counted) calm sends
          rw [server] at feeds
          exact ⟨⟨⟨_, alone, inStep⟩, plain.of_same scheduler same⟩, feeds⟩

theorem wake {index : Nat} {order : List ι} (taken : self.step (.wake index order) = some next) :
    next.Traversing loaded loop ∧ Transmission.Feeds self.shared.server next.shared.server := by
  obtain ⟨sender, message, shared, replacement, found, sends, rfl⟩ := step_wake_eq_some taken
  obtain ⟨⟨point, points, inStep⟩, plain⟩ := traversing
  obtain ⟨rfl, rfl⟩ := at_zero points found
  have alone : self.points.set 0 replacement = [replacement] := by rw [points]; rfl
  have runs : engineRuns self.points = true := by rw [points]; rfl
  rw [runs] at sends
  cases inStep with
  | waiting _ number produced own given counted idle =>
      obtain ⟨inStep, feeds, scheduler, same⟩ :=
        Transmission.InStep.send produced own given counted idle sends
      exact ⟨⟨⟨_, alone, inStep⟩, plain.of_same scheduler same⟩, feeds⟩

theorem sent {index : Nat} (taken : self.step (.sent index) = some next) :
    next.Traversing loaded loop ∧ Transmission.Feeds self.shared.server next.shared.server := by
  obtain ⟨sender, message, task, found, outcome⟩ := step_sent_eq_some taken
  obtain ⟨⟨point, points, inStep⟩, plain⟩ := traversing
  obtain ⟨rfl, rfl⟩ := at_zero points found
  have alone (replacement : SenderPoint) : self.points.set 0 replacement = [replacement] := by
    rw [points]
    rfl
  cases inStep with
  | broadcasting _ _ number produced own given counted only =>
      rcases outcome with ⟨ended, rfl⟩ | rfl
      · have idle : self.shared.Idle := by
          intro other pending
          obtain rfl := only other pending
          obtain ⟨entry, pends⟩ := (pendsAt_iff_of_getElem? ended).mp pending
          cases pends
        have same := self.shared.finish_alike .auto message
        exact ⟨⟨⟨_, alone _, Transmission.InStep.finish produced own given counted idle⟩,
          plain.of_same same.scheduler same.produced⟩, .inl same.server⟩
      · refine ⟨⟨⟨_, alone _, .done number ?_ counted ?_ ?_⟩, plain.of_running _ _ rfl rfl⟩, .inl rfl⟩
        · rw [← produced] at given
          exact given
        · exact (Nat.le_succ number).trans_eq produced.symm
        · exact produced.le

theorem togglePause (taken : self.step .togglePause = some next) :
    next.Traversing loaded loop ∧ Transmission.Feeds self.shared.server next.shared.server := by
  cases taken
  obtain ⟨⟨point, points, inStep⟩, plain⟩ := traversing
  have steers := self.shared.togglePause_steers
  have stats : self.shared.togglePause.stats = self.shared.stats := by
    unfold Transmission.togglePause
    split <;> rfl
  have scheduler : ∃ paused, self.shared.togglePause.scheduler =
      { self.shared.scheduler with paused } := by
    unfold Transmission.togglePause
    split
    · exact ⟨false, rfl⟩
    · exact ⟨true, rfl⟩
  obtain ⟨paused, scheduler⟩ := scheduler
  refine ⟨⟨⟨point, points, inStep.goesOn steers.produced ?_ stats ?_⟩,
    plain.of_running self.shared.scheduler.running paused scheduler steers.produced⟩,
    .inl steers.server⟩
  · exact congrArg (·.shared.sent) steers.server
  · intro index pending
    rw [← steers.server]
    exact pending

theorem step {action : SendingAction ι} (plain : action.isPlain = true)
    (taken : self.step action = some next) :
    next.Traversing loaded loop ∧ ServerSteps self.shared.server next.shared.server action := by
  cases action with
  | server action => exact traversing.server taken
  | autoTurn order => exact traversing.autoTurn taken
  | wake index order => exact traversing.wake taken
  | sent index => exact traversing.sent taken
  | togglePause => exact traversing.togglePause taken
  | _ => cases plain

omit [DecidableEq ι] in
theorem begins_idle {action : SendingAction ι} (plain : action.isPlain = true) {message : Message}
    (begun : begins self action = some message) : self.shared.Idle := by
  obtain ⟨⟨point, points, inStep⟩, _⟩ := traversing
  cases action with
  | autoTurn order =>
      simp only [begins] at begun
      split at begun
      next ready =>
        obtain ⟨_, rfl⟩ := at_zero points ready.1
        cases inStep with
        | sleeping given counted idle => exact idle
      next => cases begun
  | wake index order =>
      simp only [begins] at begun
      split at begun
      next sender held found =>
        obtain ⟨_, rfl⟩ := at_zero points found
        cases inStep with
        | waiting _ number taken own given counted idle => exact idle
      next => cases begun
  | stepOnce => cases plain
  | _ => cases begun

omit [DecidableEq ι] in
/-- What the server has been given, and what is counted of it. -/
theorem counts : ∃ count, self.shared.server.shared.sent = loaded.broadcasts count ∧
    (loop = false → count ≤ loaded.records.length) ∧
    self.shared.stats.featuresSent ≤ count ∧ count ≤ self.shared.stats.featuresSent + 1 ∧
    self.shared.stats.bytesSent = volume (loaded.traversal self.shared.stats.featuresSent) := by
  obtain ⟨⟨point, _, inStep⟩, plain⟩ := traversing
  have within := plain.produced_le
  cases inStep with
  | sleeping given counted idle =>
      rw [counted]
      exact ⟨_, given, within, le_rfl, Nat.le_succ _, rfl⟩
  | waiting message number taken own given counted idle =>
      rw [counted]
      refine ⟨number, given, fun never => ?_, le_rfl, Nat.le_succ _, rfl⟩
      exact Nat.le_of_succ_le (taken.ge.trans (within never))
  | broadcasting message task number taken own given counted alone =>
      rw [counted]
      exact ⟨number + 1, given, fun never => taken.ge.trans (within never), Nat.le_succ _, le_rfl, rfl⟩
  | done number given counted low high =>
      rw [counted]
      exact ⟨_, given, within, low, high, rfl⟩

end Traversing

theorem started_traversing (config : TcpServerConfig Origin) (sendHeader loop : Bool)
    (loaded : LoadedFile) :
    Traversing loaded loop (started config sendHeader loop loaded : Sending ι) where
  point := by
    refine ⟨.sleeping, rfl, .sleeping rfl rfl ?_⟩
    exact pendings_eq_nil_iff.mp rfl
  plain := SendScheduler.init_plain (loaded.payloads 0) loop

variable [DecidableEq ι]

/-- No broadcast begins while another one has clients left. -/
def OneAtATime (self : Sending ι) (action : SendingAction ι) : Prop :=
  ∀ message ∈ begins self action, self.shared.server.pendings false = []

/-- The server is given the records one after the other, over and over if the loop is set, however
often the loop is paused and whatever happens to clients and broadcasts; the counts are those of
the messages so far, or lack the last one. -/
theorem auto_traverses (config : TcpServerConfig Origin) (sendHeader loop : Bool)
    (loaded : LoadedFile) {actions : List (SendingAction ι)} {final : Sending ι}
    (plain : ∀ action ∈ actions, action.isPlain = true)
    (ran : Runs.run step (started config sendHeader loop loaded) actions = some final) :
    Runs.Each step OneAtATime (started config sendHeader loop loaded) actions ∧
      ∃ count, final.shared.server.shared.sent = loaded.broadcasts count ∧
        (loop = false → count ≤ loaded.records.length) ∧
        final.shared.stats.featuresSent ≤ count ∧ count ≤ final.shared.stats.featuresSent + 1 ∧
        final.shared.stats.bytesSent = volume (loaded.traversal final.shared.stats.featuresSent) := by
  have each : Runs.Each step (fun _ action => action.isPlain = true)
      (started config sendHeader loop loaded : Sending ι) actions :=
    (Runs.each_iff_of_run ran).mpr plain
  have start := @started_traversing ι config sendHeader loop loaded
  have kept (state : Sending ι) (action : SendingAction ι) (next : Sending ι)
      (plain : action.isPlain = true) (traversing : Traversing loaded loop state)
      (taken : state.step action = some next) : Traversing loaded loop next :=
    (traversing.step plain taken).1
  refine ⟨each.conclude (Traversing loaded loop) kept ?_ start, ?_⟩
  · intro state action plain traversing message begun
    exact Transmission.idle_iff.mp (traversing.begins_idle plain begun)
  · have traversing : Traversing loaded loop final :=
      each.visits_invariant _ kept start ⟨actions, List.prefix_rfl, ran⟩
    exact traversing.counts

/-- Two clients come and go while the loop starts over, once held up by a pause and once by
having no client. -/
def goesRound : List (SendingAction String) :=
  [.server (.connect "a"), .autoTurn ["a"], .sent 0, .togglePause, .autoTurn [], .togglePause,
    .server (.resume 2 true), .server (.resume 2 false), .autoTurn [], .server (.connect "b"),
    .wake 0 ["b"], .sent 0, .autoTurn ["b"], .sent 0, .autoTurn ["b"]]

def shortFile : LoadedFile where
  records := [[49, 10], [], [51, 10]]
  headerRaw := none

theorem auto_traverses_goes_round : ∃ final,
    Runs.run step (started {} false true shortFile) goesRound = some final ∧
      final.shared.stats = { featuresSent := 3, bytesSent := 4 } ∧
      Runs.Each step OneAtATime (started {} false true shortFile) goesRound ∧
      ∃ count, final.shared.server.shared.sent = shortFile.broadcasts count ∧
        (true = false → count ≤ shortFile.records.length) ∧
        final.shared.stats.featuresSent ≤ count ∧ count ≤ final.shared.stats.featuresSent + 1 ∧
        final.shared.stats.bytesSent =
          volume (shortFile.traversal final.shared.stats.featuresSent) := by
  have reached : (Runs.run step (started {} false true shortFile) goesRound).map
      (·.shared.stats) = some { featuresSent := 3, bytesSent := 4 } := by decide +kernel
  obtain ⟨final, ran, stats⟩ := Option.map_eq_some_iff.mp reached
  exact ⟨final, ran, stats, auto_traverses {} false true shortFile (by decide) ran⟩

end Sending

end TcpSim.Gui
