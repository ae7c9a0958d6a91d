import TcpSim.Engine.PushPath
import TcpSim.Gui.FileDelivery

/-! A transmission in TCP client mode, from the records of a file to the sink of the server: `send`
only puts a payload into the client's queue, so a message is sent as soon as it is taken. -/

set_option autoImplicit false

namespace TcpSim.Gui

open Engine Transport

variable {P : Nat} {python : Interpreter}

structure FilePush where
  scheduler : SendScheduler Bytes
  pushing : PushingClient
  stats : EngineStats := {}

inductive FilePushAction where
  /-- What the client does by itself. -/
  | client (action : ClientAction)
  | autoTurn
  | stepOnce
  | togglePause

namespace FilePush

/-- Take the next message, send it and count it. -/
def sendNext (python : Interpreter) (self : FilePush) : Option FilePush :=
  match self.scheduler.step with
  | (none, scheduler) => some { self with scheduler }
  | (some message, scheduler) =>
      (self.pushing.step python (.send message.payload)).map fun pushing =>
        { scheduler
          pushing
          stats :=
            { featuresSent := self.stats.featuresSent + 1
              bytesSent := self.stats.bytesSent + message.payload.length } }

def togglePause (self : FilePush) : FilePush :=
  if self.scheduler.paused then { self with scheduler := self.scheduler.resume }
  else { self with scheduler := self.scheduler.pause }

/-- One step; `none` when the action is not possible. -/
def step (python : Interpreter) (self : FilePush) : FilePushAction → Option FilePush
  | .client (.send _) => none
  | .client action => (self.pushing.step python action).map fun pushing => { self with pushing }
  | .autoTurn =>
      if self.scheduler.running && !self.scheduler.paused then self.sendNext python else some self
  | .stepOnce => self.sendNext python
  | .togglePause => some self.togglePause

/-- The engine has just been started; the header is for the clients of a server. -/
def started (config : TcpClientConfig) (loop : Bool) (loaded : LoadedFile) : FilePush where
  scheduler := (SendScheduler.init loaded.records loop).start
  pushing := .init config

/-! ## The invariant -/

/-- The records up to the count have been sent. -/
structure Pushes (loaded : LoadedFile) (loop : Bool) (state : FilePush) : Prop where
  plain : SendScheduler.Plain loaded.records loop state.stats.featuresSent state.scheduler
  sent : state.pushing.client.sent = loaded.recordsFrom 0 state.stats.featuresSent
  bytes : state.stats.bytesSent = (state.pushing.client.sent.map List.length).sum
  pushed : state.pushing.Pushed

theorem started_pushes (config : TcpClientConfig) (loop : Bool) (loaded : LoadedFile) :
    Pushes loaded loop (started config loop loaded) where
  plain := SendScheduler.init_plain loaded.records loop
  sent := rfl
  bytes := rfl
  pushed := PushingClient.init_pushed config

/-- Only `send` adds to what was sent. -/
theorem sent_of_step {client next : TcpClientSender} {action : ClientAction}
    (other : ∀ payload, action ≠ .send payload) (taken : client.step python action = some next) :
    next.sent = client.sent := by
  have of_idles {after : TcpClientSender} (idles : client.Idles after) : after.sent = client.sent :=
    congrArg TcpClientSender.Ledger.sent idles.ledger
  cases TcpClientSender.steps_of_step taken with
  | starts loads => exact of_idles (client.enterRun_idles loads)
  | sends payload => exact absurd rfl (other payload)
  | connects => exact of_idles client.connected_idles
  | connectFails error => exact of_idles (client.leaveTry_idles python error)
  | timesOut => exact of_idles client.loopTop_idles
  | gets raises => cases raises <;> rfl
  | @drains payload =>
      have counted := TcpClientSender.loopTop_idles (({ client with
        completed := client.completed ++ [payload] } : TcpClientSender).emit (.send payload.length))
      exact congrArg TcpClientSender.Ledger.sent counted.ledger
  | unwatches => exact of_idles (client.leaveTry_idles python _)
  | closes => exact of_idles (client.closed_idles _)
  | wakes => exact of_idles client.attempt_idles
  | startsNothing | watches | drainFails => rfl

namespace Pushes

variable {loaded : LoadedFile} {loop : Bool} {state next : FilePush}
  (pushes : Pushes loaded loop state)

include pushes

theorem sendNext (taken : state.sendNext python = some next) : Pushes loaded loop next := by
  unfold FilePush.sendNext at taken
  cases stepped : state.scheduler.step with
  | mk given scheduler =>
      rw [stepped] at taken
      rcases pushes.plain.step stepped with ⟨rfl, rfl⟩ | ⟨message, rfl, own, _, plain⟩
      · cases taken
        exact pushes
      · obtain ⟨pushing, ran, rfl⟩ := Option.map_eq_some_iff.mp taken
        have pushed := pushes.pushed.step ran
        obtain ⟨client, moved, rfl⟩ := Option.map_eq_some_iff.mp ran
        cases moved
        refine ⟨plain, ?_, ?_, pushed⟩
        · have next : loaded.record state.stats.featuresSent = some message.payload := own
          change state.pushing.client.sent ++ [message.payload] = _
          rw [pushes.sent]
          simp [LoadedFile.recordsFrom, List.range'_concat, next]
        · change state.stats.bytesSent + message.payload.length =
            ((state.pushing.client.sent ++ [message.payload]).map List.length).sum
          rw [pushes.bytes]
          simp

theorem togglePause : Pushes loaded loop state.togglePause := by
  unfold FilePush.togglePause
  split
  · exact ⟨pushes.plain.of_running state.scheduler.running false, pushes.sent, pushes.bytes,
      pushes.pushed⟩
  · exact ⟨pushes.plain.of_running state.scheduler.running true, pushes.sent, pushes.bytes,
      pushes.pushed⟩

theorem client {action : ClientAction} (other : ∀ payload, action ≠ .send payload)
    {pushing : PushingClient} (taken : state.pushing.step python action = some pushing) :
    Pushes loaded loop { state with pushing } := by
  have pushed := pushes.pushed.step taken
  obtain ⟨client, moved, rfl⟩ := Option.map_eq_some_iff.mp taken
  have same := sent_of_step other moved
  refine ⟨pushes.plain, ?_, ?_, pushed⟩
  · rw [same]
    exact pushes.sent
  · rw [same]
    exact pushes.bytes

theorem step {action : FilePushAction} (taken : state.step python action = some next) :
    Pushes loaded loop next := by
  cases action with
  | client action =>
      cases action with
      | send payload => cases taken
      | _ =>
          obtain ⟨pushing, ran, rfl⟩ := Option.map_eq_some_iff.mp taken
          exact pushes.client (fun _ same => by cases same) ran
  | autoTurn =>
      by_cases active : state.scheduler.running && !state.scheduler.paused
      · exact pushes.sendNext ((if_pos active).symm.trans taken)
      · obtain rfl := Option.some.inj ((if_neg active).symm.trans taken)
        exact pushes
  | stepOnce => exact pushes.sendNext taken
  | togglePause =>
      cases taken
      exact pushes.togglePause

end Pushes

/-- The client is given the records one after the other, and over and over if the loop is set, with
pauses and single steps in between. What it writes on one connection are records without a gap,
each is written on at most one, and the server makes of what it reads of that connection what it
should. -/
theorem file_pushed (connecting : TcpClientConfig) (loop : Bool) (loaded : LoadedFile)
    {turns : List FilePushAction} {final : FilePush}
    (pushes : Runs.run (step python) (started connecting loop loaded) turns = some final)
    (config : ReceiverConfig) (lf : config.framingMode = .lf)
    (records : ∀ bytes ∈ loaded.records, IsTextLine config.maxRecordBytes bytes)
    {srcs : Fin P → String} (distinct : Function.Injective srcs) (sourced : ∀ i, srcs i ≠ "")
    (streams : Fin P → Bytes) (cfg : SinkConfig) (files : String → Option Bytes)
    {actions : List (EngineAction P)} {receiver : ReceiverEngine P}
    (apart : ∀ action ∈ actions, action.FromPeers)
    (ran : Runs.run ReceiverEngine.step
      (ReceiverEngine.init (TcpReceiver.init config srcs streams) cfg files) actions =
        some receiver) :
    let session := receiver.sessionOf streams actions
    (loop = false → final.stats.featuresSent ≤ loaded.records.length) ∧
      final.stats.bytesSent =
        ((loaded.recordsFrom 0 final.stats.featuresSent).map List.length).sum ∧
      loaded.recordsFrom 0 final.stats.featuresSent =
        final.pushing.connections.flatMap Outgoing.taken ++ final.pushing.client.outbound ∧
      (∀ i, (session i).chunks.flatten ++ (receiver.transport.peers i).incoming = streams i) ∧
      receiver.transport.recordsReceived = ∑ i, ((session i).records config).length ∧
      ∀ i, ∀ connection ∈ final.pushing.connections, streams i <+: connection.written.flatten →
        ∃ first size count tail, first + size ≤ final.stats.featuresSent ∧
          connection.written = loaded.recordsFrom first size ∧
          PushPath.Arrives config receiver i connection.written (session i) count tail := by
  have invariant : Pushes loaded loop final :=
    Runs.run_invariant (Pushes loaded loop) (fun _ _ _ pushes taken => pushes.step taken)
      (started_pushes connecting loop loaded) pushes
  obtain ⟨_, _, received⟩ := ReceiverEngine.received_run distinct sourced apart ran
  have bytes := invariant.bytes
  have queue := invariant.pushed.queue
  rw [invariant.sent] at bytes queue
  refine ⟨invariant.plain.produced_le, bytes, queue, fun i => (received.handled i).consumed,
    received.recordsReceived, ?_⟩
  intro i connection member carried
  have inside := invariant.pushed.written_infix member
  rw [invariant.sent] at inside
  obtain ⟨first, size, within, written⟩ : ∃ first size,
      first + size ≤ final.stats.featuresSent ∧
        connection.written = loaded.recordsFrom first size := by
    unfold LoadedFile.recordsFrom at inside
    rw [← List.range_eq_range'] at inside
    exact exists_range_of_infix inside
  have areLines : ∀ text ∈ connection.written, IsTextLine config.maxRecordBytes text := by
    intro text part
    rw [written] at part
    exact records text (LoadedFile.recordsFrom_subset first size part)
  obtain ⟨count, tail, arrives⟩ := PushPath.arrives_of_received lf received areLines carried
  exact ⟨first, size, count, tail, within, written, arrives⟩

/-! Two records, sent twice; the connection breaks with the second one in hand, and the server has
read half of it. -/

def goesOver : List FilePushAction :=
  [.client (.start none), .autoTurn, .autoTurn, .client (.connect none), .client (.get none),
    .client (.drain none), .client (.get none), .togglePause, .autoTurn, .stepOnce,
    .client (.drain (some (.osError ⟨"ConnectionResetError", "Connection lost"⟩))),
    .client .unwatched, .client .closed, .client .slept, .togglePause, .autoTurn,
    .client (.connect none), .client (.get none)]

def twoRecords : LoadedFile where
  records := [[0x31, 0x0A], [0x32, 0x32, 0x0A]]
  headerRaw := none

def bothConnections (i : Fin 2) : Bytes :=
  if i = ReceiverEngine.firstPeer then [0x31, 0x0A, 0x32] else [0x31, 0x0A]

def receives : List (EngineAction 2) :=
  [.sink .start, .sink (.begin []), .connect ReceiverEngine.firstPeer,
    .read ReceiverEngine.firstPeer 3,
    .readError ReceiverEngine.firstPeer "ConnectionResetError",
    .connect ReceiverEngine.secondPeer, .read ReceiverEngine.secondPeer 2,
    .sink (.drain "t" [] [])]

theorem file_pushed_goes_over : ∃ (final : FilePush) (receiver : ReceiverEngine 2),
    final.stats = { featuresSent := 4, bytesSent := 10 } ∧
      (receiver.recordsFrom "a:1").map FramedRecord.payload = [[0x31], [0x32]] ∧
      (receiver.recordsFrom "b:2").map FramedRecord.payload = [[0x31]] ∧
      (true = false → final.stats.featuresSent ≤ twoRecords.records.length) ∧
      final.stats.bytesSent =
        ((twoRecords.recordsFrom 0 final.stats.featuresSent).map List.length).sum ∧
      twoRecords.recordsFrom 0 final.stats.featuresSent =
        final.pushing.connections.flatMap Outgoing.taken ++ final.pushing.client.outbound ∧
      (∀ i, (receiver.sessionOf bothConnections receives i).chunks.flatten ++
        (receiver.transport.peers i).incoming = bothConnections i) ∧
      receiver.transport.recordsReceived =
        ∑ i, ((receiver.sessionOf bothConnections receives i).records {}).length ∧
      ∀ i, ∀ connection ∈ final.pushing.connections,
        bothConnections i <+: connection.written.flatten →
          ∃ first size count tail, first + size ≤ final.stats.featuresSent ∧
            connection.written = twoRecords.recordsFrom first size ∧
            PushPath.Arrives {} receiver i connection.written
              (receiver.sessionOf bothConnections receives i) count tail := by
  have pushes : (Runs.run (step { minor := 11 })
      (started { host := "s", port := 1 } true twoRecords) goesOver).map FilePush.stats =
      some { featuresSent := 4, bytesSent := 10 } := by decide +kernel
  have stores : (Runs.run ReceiverEngine.step
      (ReceiverEngine.init (TcpReceiver.init {} ReceiverEngine.twoSources bothConnections)
        loggingSink fun _ => none) receives).map (fun receiver =>
          ((receiver.recordsFrom "a:1").map FramedRecord.payload,
            (receiver.recordsFrom "b:2").map FramedRecord.payload)) =
      some ([[0x31], [0x32]], [[0x31]]) := by decide +kernel
  obtain ⟨final, pushes, stats⟩ := Option.map_eq_some_iff.mp pushes
  obtain ⟨receiver, ran, stored⟩ := Option.map_eq_some_iff.mp stores
  obtain ⟨first, second⟩ := Prod.mk.inj stored
  refine ⟨final, receiver, stats, first, second, file_pushed { host := "s", port := 1 } true
    twoRecords pushes {} rfl ?_ ?_ (by decide) bothConnections loggingSink (fun _ => none)
    (by decide) ran⟩
  · simp only [twoRecords, List.forall_mem_cons]
    exact ⟨⟨[0x31], rfl, by decide, by decide⟩, ⟨[0x32, 0x32], rfl, by decide, by decide⟩,
      List.forall_mem_nil _⟩
  · intro left right
    revert left right
    decide

end FilePush

end TcpSim.Gui
