import TcpSim.Engine.ClientEngine
import TcpSim.Engine.FramerProperties
import TcpSim.Engine.Reception
import Mathlib.Data.List.ModifyLast

/-! What the receiving TCP client makes of its connections: each one is framed on its own, and its
records go to the sink in their order. -/

set_option autoImplicit false

namespace TcpSim.Engine

open Transport

variable {python : Interpreter}

/-! ## Sessions -/

/-- What was read from one connection, and whether the connection itself ended; `stop` leaves it
without an end. -/
structure Session where
  chunks : List Bytes := []
  ended : Bool := false
  deriving DecidableEq

namespace Session

/-- `read` has returned; an empty chunk is the end of the stream. -/
def read (chunk : Bytes) (session : Session) : Session :=
  if chunk = [] then { session with ended := true }
  else { session with chunks := session.chunks ++ [chunk] }

def fail (session : Session) : Session := { session with ended := true }

/-- The sessions after one more action. -/
def after (sessions : List Session) : ClientEngineAction → List Session
  | .connect none => sessions ++ [{}]
  | .read chunk => sessions.modifyLast (read chunk)
  | .readFails _ => sessions.modifyLast fail
  | _ => sessions

/-- The records of a session: a framer of its own, flushed at the end of the connection. -/
def records (config : ReceiverConfig) (session : Session) : List FramedRecord :=
  let framer := Framer.fresh config.framingMode config.maxRecordBytes config.max_pos
  if session.ended then (framer.frame session.chunks).1 else (framer.feedAll session.chunks).1

def volume (session : Session) : Nat := (session.chunks.map List.length).sum

end Session

section Records

variable (config : ReceiverConfig) {current : Session} (going : current.ended = false)

include going

theorem Session.records_read (chunk : Bytes) :
    { current with chunks := current.chunks ++ [chunk] }.records config =
      current.records config ++ ((((Framer.fresh config.framingMode config.maxRecordBytes
        config.max_pos).feedAll current.chunks).2).feed chunk).1 := by
  simp [Session.records, going, Framer.feedAll_append_singleton]

theorem Session.records_ended :
    { current with ended := true }.records config =
      current.records config ++ ((((Framer.fresh config.framingMode config.maxRecordBytes
        config.max_pos).feedAll current.chunks).2).flush).1.toList := by
  simp [Session.records, going, Framer.frame_eq_feedAll]

end Records

/-- The connections that the actions made. -/
def sessions (actions : List ClientEngineAction) : List Session := actions.foldl Session.after []

/-! ## The transport -/

/-- What the records and the counters of a transport are made of. -/
structure ClientTally where
  config : TcpClientReceiverConfig
  framer : Framer
  recordsReceived : Nat
  bytesReceived : Nat
  truncations : Nat
  delivered : List FramedRecord

namespace ClientTally

def of (transport : TcpClientReceiver) : ClientTally where
  config := transport.config
  framer := transport.framer
  recordsReceived := transport.recordsReceived
  bytesReceived := transport.bytesReceived
  truncations := transport.truncations
  delivered := transport.delivered

def deliver (self : ClientTally) (records : List FramedRecord) : ClientTally :=
  { self with
    recordsReceived := self.recordsReceived + records.length
    truncations := self.truncations + records.countP FramedRecord.truncated
    delivered := self.delivered ++ records }

theorem deliver_deliver (self : ClientTally) (first second : List FramedRecord) :
    (self.deliver first).deliver second = self.deliver (first ++ second) := by
  simp [deliver, List.countP_append, Nat.add_assoc]

variable (transport : TcpClientReceiver)

theorem of_setPaused (paused : Bool) : of (transport.setPaused paused) = of transport := by
  unfold TcpClientReceiver.setPaused
  split <;> split <;> rfl

theorem of_handleSinkEvents (events : List SinkEvent) :
    of (events.foldl ClientEngine.handleSinkEvent transport) = of transport := by
  induction events generalizing transport with
  | nil => rfl
  | cons event rest ih =>
      rw [List.foldl_cons, ih]
      cases event with
      | highWatermark => exact of_setPaused transport true
      | lowWatermark => exact of_setPaused transport false
      | _ => rfl

theorem of_deliver (record : FramedRecord) :
    of (transport.deliver record) = (of transport).deliver [record] := by
  unfold TcpClientReceiver.deliver
  split
  next truncated => simp [deliver, of, truncated, TcpClientReceiver.emit]
  next whole => simp [deliver, of, whole]

theorem of_enterRun (loads : Option String) : of (transport.enterRun loads) = of transport := by
  unfold TcpClientReceiver.enterRun
  split
  · rfl
  · split <;> rfl

theorem of_connectFailed (error : NetworkError) :
    of (transport.connectFailed python error) = of transport := by
  unfold TcpClientReceiver.connectFailed
  split <;> rfl

end ClientTally

/-! ## The engine -/

namespace ClientEngine

variable (engine : ClientEngine)

theorem takeSink_tally (sink : SinkWriter) :
    ClientTally.of (engine.takeSink sink).transport = ClientTally.of engine.transport :=
  ClientTally.of_handleSinkEvents engine.transport sink.file.events

theorem deliver_tally (record : FramedRecord) :
    ClientTally.of (engine.deliver record).transport =
      (ClientTally.of engine.transport).deliver [record] := by
  rw [← ClientTally.of_deliver]
  exact takeSink_tally _ _

theorem deliverAll_tally (records : List FramedRecord) :
    ClientTally.of (engine.deliverAll records).transport =
      (ClientTally.of engine.transport).deliver records := by
  induction records generalizing engine with
  | nil => simp [deliverAll, ClientTally.deliver]
  | cons record rest ih =>
      change ClientTally.of ((engine.deliver record).deliverAll rest).transport = _
      rw [ih, deliver_tally, ClientTally.deliver_deliver, List.singleton_append]

/-- The task is where it was, or was woken from its wait for the pause to end. -/
theorem setPaused_inConnection (transport : TcpClientReceiver) (paused : Bool) :
    inConnection (transport.setPaused paused).point = inConnection transport.point := by
  unfold TcpClientReceiver.setPaused
  split
  · split <;> rfl
  · split
    · dsimp only [TcpClientReceiver.emit]
      split
      next waiting => rw [waiting]; rfl
      next => rfl
    · rfl

theorem handleSinkEvents_inConnection (events : List SinkEvent) (transport : TcpClientReceiver) :
    inConnection (events.foldl handleSinkEvent transport).point = inConnection transport.point := by
  induction events generalizing transport with
  | nil => rfl
  | cons event rest ih =>
      rw [List.foldl_cons, ih]
      cases event with
      | highWatermark => exact setPaused_inConnection transport true
      | lowWatermark => exact setPaused_inConnection transport false
      | _ => rfl

/-! ## The sink's side -/

def item (config : TcpClientReceiverConfig) (record : FramedRecord) : QueueItem where
  record := record
  src := s!"{config.host}:{config.port}"

theorem item_src_ne_empty (config : TcpClientReceiverConfig) (record : FramedRecord) :
    (item config record).src ≠ "" := by
  intro empty
  have length := congrArg String.length empty
  simp [item, toString] at length

/-- The sink gets what the transport delivers. -/
structure Fed (engine : ClientEngine) (ignored : Nat) : Prop where
  intake : engine.sink.Intake (engine.transport.delivered.map (item engine.transport.config)) ignored
  ordered : engine.sink.books.Ordered
  refusals : engine.sink.CountsRefusals

variable {engine : ClientEngine} {ignored : Nat}

theorem Fed.of_tally (fed : Fed engine ignored) {transport : TcpClientReceiver}
    (same : ClientTally.of transport = ClientTally.of engine.transport) (running stopping : Bool) :
    Fed { engine with transport, running, stopping } ignored where
  intake := by
    have config : transport.config = engine.transport.config := congrArg ClientTally.config same
    have delivered : transport.delivered = engine.transport.delivered :=
      congrArg ClientTally.delivered same
    rw [config, delivered]
    exact fed.intake
  ordered := fed.ordered
  refusals := fed.refusals

theorem Fed.deliver (fed : Fed engine ignored) (record : FramedRecord) :
    Fed (engine.deliver record) (ignored + (!engine.sink.cfg.enabled).toNat) := by
  have tally := engine.deliver_tally record
  have config : (engine.deliver record).transport.config = engine.transport.config :=
    congrArg ClientTally.config tally
  have delivered : (engine.deliver record).transport.delivered =
      engine.transport.delivered ++ [record] := congrArg ClientTally.delivered tally
  have submits : engine.sink.step (.submit record engine.transport.src) =
      some (engine.sink.submit record engine.transport.src).2 := rfl
  have submitted := fed.intake.submit record engine.transport.src
  have refusals : (engine.sink.submit record engine.transport.src).2.CountsRefusals :=
    SinkWriter.countsRefusals_step fed.refusals submits
  have ordered : (engine.sink.submit record engine.transport.src).2.books.Ordered :=
    SinkWriter.ordered_step (show (SinkAction.submit record engine.transport.src).Sourced from
      item_src_ne_empty engine.transport.config record) fed.ordered submits
  refine ⟨?_, ordered, refusals⟩
  rw [config, delivered, List.map_append]
  exact ⟨submitted.order, submitted.total⟩

theorem deliver_cfg (engine : ClientEngine) (record : FramedRecord) :
    (engine.deliver record).sink.cfg = engine.sink.cfg := by
  change (engine.sink.submit record engine.transport.src).2.cfg = _
  rcases SinkWriter.submit_logView engine.sink record engine.transport.src with view | view
  · exact congrArg LogView.cfg view
  · exact congrArg LogView.cfg view

theorem Fed.deliverAll (fed : Fed engine ignored) (records : List FramedRecord) :
    ∃ more, Fed (engine.deliverAll records) more ∧
      (engine.sink.cfg.enabled = true → more = ignored) := by
  induction records generalizing engine ignored with
  | nil => exact ⟨ignored, fed, fun _ => rfl⟩
  | cons record rest ih =>
      obtain ⟨more, later, same⟩ := ih (fed.deliver record)
      rw [deliver_cfg] at same
      refine ⟨more, later, ?_⟩
      intro enabled
      rw [same enabled, enabled]
      rfl

theorem Fed.takeSink (fed : Fed engine ignored) {action : SinkAction} {sink : SinkWriter}
    (silent : action.submission = none) (taken : engine.sink.step action = some sink) :
    Fed (engine.takeSink sink) ignored := by
  have other : ∀ record src, action ≠ .submit record src := by
    rintro record src rfl
    cases silent
  have sourced : action.Sourced := by
    cases action with
    | submit record src => exact absurd rfl (other record src)
    | _ => trivial
  have kept := fed.intake.other other taken
  have refusals : sink.CountsRefusals := SinkWriter.countsRefusals_step fed.refusals taken
  have ordered : sink.books.Ordered := SinkWriter.ordered_step sourced fed.ordered taken
  have same := engine.takeSink_tally sink
  refine ⟨?_, ordered, refusals⟩
  rw [show (engine.takeSink sink).transport.delivered = engine.transport.delivered from
      congrArg ClientTally.delivered same,
    show (engine.takeSink sink).transport.config = engine.transport.config from
      congrArg ClientTally.config same]
  exact ⟨kept.order, kept.total⟩

/-! ## The transport's side -/

/-- What the transport delivered and counted is made of the sessions; in a connection its framer
has been fed the latest one. -/
structure Framed (config : TcpClientReceiverConfig) (sessions : List Session)
    (transport : TcpClientReceiver) : Prop where
  same : transport.config = config
  delivered : transport.delivered = sessions.flatMap (Session.records config.toReceiverConfig)
  records : transport.recordsReceived = transport.delivered.length
  truncations : transport.truncations = transport.delivered.countP FramedRecord.truncated
  bytes : transport.bytesReceived = (sessions.map Session.volume).sum
  latest : inConnection transport.point = true → ∃ past current,
    sessions = past ++ [current] ∧ current.ended = false ∧ transport.framer =
      ((Framer.fresh config.framingMode config.maxRecordBytes config.max_pos).feedAll
        current.chunks).2

namespace Framed

variable {config : TcpClientReceiverConfig} {sessions : List Session}
  {transport after : TcpClientReceiver} (framed : Framed config sessions transport)

include framed

theorem of_tally (same : ClientTally.of after = ClientTally.of transport)
    (stays : inConnection after.point = true → inConnection transport.point = true) :
    Framed config sessions after := by
  simp only [ClientTally.of, ClientTally.mk.injEq] at same
  obtain ⟨sameConfig, framer, records, bytes, truncations, delivered⟩ := same
  refine ⟨?_, ?_, ?_, ?_, ?_, ?_⟩
  · rw [sameConfig, framed.same]
  · rw [delivered, framed.delivered]
  · rw [records, delivered, framed.records]
  · rw [truncations, delivered, framed.truncations]
  · rw [bytes, framed.bytes]
  · intro connected
    rw [framer]
    exact framed.latest (stays connected)

theorem connected : Framed config (sessions ++ [({} : Session)]) transport.connected := by
  have fresh : Session.records config.toReceiverConfig {} = [] := rfl
  refine ⟨framed.same, ?_, framed.records, framed.truncations, ?_, ?_⟩
  · rw [List.flatMap_append, List.flatMap_singleton, fresh, List.append_nil]
    exact framed.delivered
  · rw [List.map_append, List.sum_append]
    exact framed.bytes
  · intro _
    refine ⟨sessions, {}, rfl, rfl, ?_⟩
    rw [← framed.same]
    rfl

/-- The session is over, and the connection with it. -/
theorem ended {records : List FramedRecord} {past : List Session} {current : Session}
    (sessionsAre : sessions = past ++ [current]) (going : current.ended = false)
    (latest : transport.framer = ((Framer.fresh config.framingMode config.maxRecordBytes
      config.max_pos).feedAll current.chunks).2)
    (flushed : records = transport.framer.flush.1.toList)
    (delivers : ClientTally.of after = { ClientTally.of transport with
      framer := transport.framer.flush.2 }.deliver records)
    (leaves : inConnection after.point = false) :
    Framed config (past ++ [{ current with ended := true }]) after := by
  simp only [ClientTally.of, ClientTally.deliver, ClientTally.mk.injEq] at delivers
  obtain ⟨sameConfig, _, received, bytes, truncations, delivered⟩ := delivers
  have before := framed.delivered
  rw [sessionsAre, List.flatMap_append, List.flatMap_singleton] at before
  refine ⟨?_, ?_, ?_, ?_, ?_, ?_⟩
  · rw [sameConfig, framed.same]
  · rw [delivered, List.flatMap_append, List.flatMap_singleton,
      Session.records_ended config.toReceiverConfig going, before, flushed, latest,
      List.append_assoc]
  · rw [received, delivered, framed.records, List.length_append]
  · rw [truncations, delivered, framed.truncations, List.countP_append]
  · rw [bytes, framed.bytes, sessionsAre]
    simp [Session.volume]
  · intro connected
    exact absurd (connected.symm.trans leaves) (by simp)

/-- The session has gone on by a chunk. -/
theorem fed {chunk : Bytes} {past : List Session} {current : Session}
    (sessionsAre : sessions = past ++ [current]) (going : current.ended = false)
    (latest : transport.framer = ((Framer.fresh config.framingMode config.maxRecordBytes
      config.max_pos).feedAll current.chunks).2)
    (delivers : ClientTally.of after = { ClientTally.of transport with
        framer := (transport.framer.feed chunk).2
        bytesReceived := transport.bytesReceived + chunk.length }.deliver
      (transport.framer.feed chunk).1) :
    Framed config (past ++ [{ current with chunks := current.chunks ++ [chunk] }]) after := by
  simp only [ClientTally.of, ClientTally.deliver, ClientTally.mk.injEq] at delivers
  obtain ⟨sameConfig, framer, received, bytes, truncations, delivered⟩ := delivers
  have before := framed.delivered
  rw [sessionsAre, List.flatMap_append, List.flatMap_singleton] at before
  refine ⟨?_, ?_, ?_, ?_, ?_, ?_⟩
  · rw [sameConfig, framed.same]
  · rw [delivered, List.flatMap_append, List.flatMap_singleton,
      Session.records_read config.toReceiverConfig going, before, latest, List.append_assoc]
  · rw [received, delivered, framed.records, List.length_append]
  · rw [truncations, delivered, framed.truncations, List.countP_append]
  · rw [bytes, framed.bytes, sessionsAre]
    simp [Session.volume, Nat.add_assoc]
  · intro _
    refine ⟨past, _, rfl, going, ?_⟩
    rw [framer, latest, Framer.feedAll_append_singleton]

end Framed

/-! ## Steps -/

theorem disconnected_tally (engine : ClientEngine) (reason : String) :
    ClientTally.of (engine.disconnected reason).transport =
      { ClientTally.of engine.transport with
        framer := engine.transport.framer.flush.2 }.deliver
          engine.transport.framer.flush.1.toList :=
  deliverAll_tally { engine with
    transport := { engine.transport with framer := engine.transport.framer.flush.2 } } _

theorem received_tally (engine : ClientEngine) {chunk : Bytes} (nonempty : chunk ≠ []) :
    ClientTally.of (engine.received chunk).transport =
      { ClientTally.of engine.transport with
        framer := (engine.transport.framer.feed chunk).2
        bytesReceived := engine.transport.bytesReceived + chunk.length }.deliver
          (engine.transport.framer.feed chunk).1 := by
  unfold received
  rw [if_neg nonempty]
  exact deliverAll_tally { engine with
    transport := { engine.transport with
      bytesReceived := engine.transport.bytesReceived + chunk.length
      framer := (engine.transport.framer.feed chunk).2 } } _

/-- Deliveries, after the framer and the count of bytes have been updated. -/
theorem Fed.afterFramer (fed : Fed engine ignored) (framer : Framer) (bytesReceived : Nat)
    (records : List FramedRecord) :
    ∃ more, Fed ({ engine with
        transport := { engine.transport with framer, bytesReceived } }.deliverAll records) more ∧
      (engine.sink.cfg.enabled = true → more = ignored) := by
  have updated : Fed { engine with
      transport := { engine.transport with framer, bytesReceived } } ignored :=
    ⟨fed.intake, fed.ordered, fed.refusals⟩
  exact updated.deliverAll records

theorem Fed.disconnected (fed : Fed engine ignored) (reason : String) :
    ∃ more, Fed (engine.disconnected reason) more ∧
      (engine.sink.cfg.enabled = true → more = ignored) := by
  obtain ⟨more, later, same⟩ := fed.afterFramer engine.transport.framer.flush.2
    engine.transport.bytesReceived engine.transport.framer.flush.1.toList
  exact ⟨more, ⟨later.intake, later.ordered, later.refusals⟩, same⟩

theorem Fed.received (fed : Fed engine ignored) (chunk : Bytes) :
    ∃ more, Fed (engine.received chunk) more ∧
      (engine.sink.cfg.enabled = true → more = ignored) := by
  unfold ClientEngine.received
  split
  · exact fed.disconnected "eof"
  · obtain ⟨more, later, same⟩ := fed.afterFramer (engine.transport.framer.feed chunk).2
      (engine.transport.bytesReceived + chunk.length) (engine.transport.framer.feed chunk).1
    exact ⟨more, ⟨later.intake, later.ordered, later.refusals⟩, same⟩

/-- Both sides, after the sessions so far. -/
structure Received (config : TcpClientReceiverConfig) (sessions : List Session) (ignored : Nat)
    (engine : ClientEngine) : Prop where
  framed : Framed config sessions engine.transport
  fed : Fed engine ignored

section Received

variable {config : TcpClientReceiverConfig} {sessions : List Session}
  (received : Received config sessions ignored engine)

include received

theorem Received.of_tally {after : TcpClientReceiver}
    (same : ClientTally.of after = ClientTally.of engine.transport)
    (stays : inConnection after.point = true → inConnection engine.transport.point = true)
    (running stopping : Bool) :
    Received config sessions ignored { engine with transport := after, running, stopping } :=
  ⟨received.framed.of_tally same stays, received.fed.of_tally same running stopping⟩

theorem Received.disconnected (at_ : engine.transport.point = .reading) (reason : String) :
    ∃ more, Received config (sessions.modifyLast Session.fail) more (engine.disconnected reason) ∧
      (engine.sink.cfg.enabled = true → more = ignored) := by
  obtain ⟨past, current, rfl, going, latest⟩ := received.framed.latest (by rw [at_]; rfl)
  obtain ⟨more, fed, same⟩ := received.fed.disconnected reason
  rw [List.modifyLast_concat]
  exact ⟨more, ⟨received.framed.ended rfl going latest rfl (disconnected_tally engine reason) rfl,
    fed⟩, same⟩

theorem Received.read (at_ : engine.transport.point = .reading) (chunk : Bytes) :
    ∃ more, Received config (Session.after sessions (.read chunk)) more (engine.received chunk) ∧
      (engine.sink.cfg.enabled = true → more = ignored) := by
  by_cases last : chunk = []
  · have ends : engine.received chunk = engine.disconnected "eof" := if_pos last
    rw [ends]
    have fails : Session.read chunk = Session.fail := by
      funext session
      exact if_pos last
    rw [Session.after, fails]
    exact received.disconnected at_ "eof"
  · obtain ⟨past, current, rfl, going, latest⟩ := received.framed.latest (by rw [at_]; rfl)
    obtain ⟨more, fed, same⟩ := received.fed.received chunk
    refine ⟨more, ⟨?_, fed⟩, same⟩
    rw [Session.after, List.modifyLast_concat, Session.read, if_neg last]
    exact received.framed.fed rfl going latest (received_tally engine last)

theorem Received.turn {next : ClientEngine} {action : ClientEngineAction}
    (taken : engine.turn python action = some next) :
    ∃ more, Received config (Session.after sessions action) more next ∧
      (engine.sink.cfg.enabled = true → more = ignored) := by
  cases action with
  | connect raises =>
      simp only [ClientEngine.turn] at taken
      split at taken
      next at_ =>
          cases taken
          exact ⟨ignored, ⟨received.framed.connected,
            received.fed.intake, received.fed.ordered, received.fed.refusals⟩, fun _ => rfl⟩
      next error at_ =>
          cases taken
          refine ⟨ignored, received.of_tally (ClientTally.of_connectFailed _ error) ?_
            engine.running engine.stopping, fun _ => rfl⟩
          unfold TcpClientReceiver.connectFailed
          split
          · exact fun impossible => by cases impossible
          · exact fun impossible => by cases impossible
      next => cases taken
  | wake =>
      simp only [ClientEngine.turn] at taken
      split at taken
      next at_ =>
          cases taken
          have stays : inConnection engine.transport.point = true := by rw [at_]; rfl
          have same : ClientTally.of { engine.transport with point := .reading } =
              ClientTally.of engine.transport := rfl
          exact ⟨ignored, received.of_tally same (fun _ => stays) engine.running engine.stopping,
            fun _ => rfl⟩
      next => cases taken
  | read chunk =>
      simp only [ClientEngine.turn] at taken
      split at taken
      next at_ =>
          cases taken
          exact received.read at_ chunk
      next => cases taken
  | readFails error =>
      simp only [ClientEngine.turn] at taken
      split at taken
      next at_ =>
          cases taken
          exact received.disconnected at_ _
      next => cases taken
  | slept =>
      simp only [ClientEngine.turn] at taken
      split at taken
      next at_ =>
          cases taken
          have same : ClientTally.of engine.transport.attempt = ClientTally.of engine.transport := rfl
          exact ⟨ignored, received.of_tally same (fun impossible => by cases impossible)
            engine.running engine.stopping, fun _ => rfl⟩
      next => cases taken
  | _ => cases taken

theorem Received.enterRun (loads : Option String) :
    Received config sessions ignored
      { engine with running := true, transport := engine.transport.enterRun loads } := by
  refine received.of_tally (ClientTally.of_enterRun _ loads) ?_ true engine.stopping
  unfold TcpClientReceiver.enterRun
  split
  · exact fun impossible => by cases impossible
  · split
    · exact fun impossible => by cases impossible
    · exact fun impossible => by cases impossible

theorem Received.stop : Received config sessions ignored engine.stop := by
  unfold ClientEngine.stop
  split
  · split
    · exact received.of_tally rfl id false engine.stopping
    · exact received.of_tally rfl id false engine.stopping
    · exact received.of_tally rfl id false true
  · exact received

theorem Received.cancel : Received config sessions ignored engine.cancel := by
  have leaves (transport : TcpClientReceiver) (idle : transport.point = .idle) :
      inConnection transport.point = true → inConnection engine.transport.point = true := by
    intro impossible
    rw [idle] at impossible
    cases impossible
  unfold ClientEngine.cancel
  dsimp only
  split
  · exact received.of_tally (by rfl) (leaves _ rfl) engine.running false
  · exact received.of_tally (by rfl) (leaves _ rfl) engine.running false

theorem Received.step {next : ClientEngine} {action : ClientEngineAction}
    (taken : engine.step python action = some next) :
    ∃ more, Received config (Session.after sessions action) more next ∧
      (engine.sink.cfg.enabled = true → more = ignored) := by
  cases action with
  | sink action =>
      simp only [ClientEngine.step] at taken
      split at taken
      · cases taken
      · rename_i silent
        obtain ⟨sink, sinkTaken, rfl⟩ := Option.map_eq_some_iff.mp taken
        have fed := received.fed.takeSink (by simpa using silent) sinkTaken
        have stays := handleSinkEvents_inConnection sink.file.events engine.transport
        refine ⟨ignored, ⟨received.framed.of_tally (engine.takeSink_tally sink) ?_, fed⟩,
          fun _ => rfl⟩
        exact fun connected => stays.symm.trans connected
  | start loads =>
      simp only [ClientEngine.step] at taken
      split at taken
      · cases taken
      · split at taken
        · cases taken
          exact ⟨ignored, received, fun _ => rfl⟩
        · cases taken
          exact ⟨ignored, received.enterRun loads, fun _ => rfl⟩
  | stop =>
      cases taken
      exact ⟨ignored, received.stop, fun _ => rfl⟩
  | cancelled =>
      simp only [ClientEngine.step] at taken
      split at taken
      · cases taken
        exact ⟨ignored, received.cancel, fun _ => rfl⟩
      · cases taken
  | _ =>
      simp only [ClientEngine.step] at taken
      split at taken
      · cases taken
      · exact received.turn taken

end Received

/-! ## Runs -/

theorem init_received (config : TcpClientReceiverConfig) (cfg : SinkConfig)
    (files : String → Option Bytes) : Received config (sessions []) 0 (init config cfg files) where
  framed := ⟨rfl, rfl, rfl, rfl, rfl, fun impossible => by cases impossible⟩
  fed := ⟨SinkWriter.init_intake cfg files, SinkWriter.init_ordered cfg files, rfl⟩

theorem sessions_snoc (past : List ClientEngineAction) (action : ClientEngineAction) :
    sessions (past ++ [action]) = Session.after (sessions past) action := by
  simp [sessions]

section Runs

variable {config : TcpClientReceiverConfig} {cfg : SinkConfig} {files : String → Option Bytes}
  {actions : List ClientEngineAction} {final : ClientEngine}

theorem received_run
    (ran : Runs.run (step python) (init config cfg files) actions = some final) :
    ∃ ignored, Received config (sessions actions) ignored final := by
  have all := Runs.run_history (fun action : ClientEngineAction => [action])
    (fun past engine => ∃ ignored, Received config (sessions past) ignored engine)
    ?_ ⟨0, init_received config cfg files⟩ ran
  · simpa using all
  · intro past engine action next inv taken
    obtain ⟨_, received⟩ := inv
    obtain ⟨more, later, _⟩ := received.step taken
    rw [sessions_snoc]
    exact ⟨more, later⟩

theorem received_run_enabled
    (enabled : Runs.Each (step python) (fun engine _ => engine.sink.cfg.enabled = true)
      (init config cfg files) actions)
    (ran : Runs.run (step python) (init config cfg files) actions = some final) :
    Received config (sessions actions) 0 final := by
  have all := enabled.run_history (fun action : ClientEngineAction => [action])
    (fun past engine => Received config (sessions past) 0 engine)
    ?_ (init_received config cfg files) ran
  · simpa using all
  · intro past engine action next on received taken
    obtain ⟨more, later, same⟩ := received.step taken
    rw [same on] at later
    rw [sessions_snoc]
    exact later

/-- A connection that came to its end under LF framing was split as a whole, however it was cut
into chunks. -/
theorem records_of_ended (config : ReceiverConfig) (lf : config.framingMode = .lf)
    {session : Session} (ended : session.ended = true) :
    session.records config =
      referenceFrame lfSeparator config.maxRecordBytes session.chunks.flatten := by
  unfold Session.records
  rw [if_pos ended, lf]
  exact (Framer.fresh_frame_eq_reference_iff (Splitting.resumes_of_length_one lfSeparator_single)
    .lf rfl config.maxRecordBytes config.max_pos session.chunks).mpr
    (separatorsKept_of_length_one lfSeparator_single _ _ _)

/-- Through pauses, lost connections, reconnects, stops and restarts: the records are those of the
connections, each framed by itself; the counters count them; and the sink gets them in order, each
one accepted or counted as dropped while it is enabled. -/
theorem connections_framed
    (ran : Runs.run (step python) (init config cfg files) actions = some final) :
    let records := (sessions actions).flatMap (Session.records config.toReceiverConfig)
    final.transport.recordsReceived = records.length ∧
      final.transport.truncations = records.countP FramedRecord.truncated ∧
      final.transport.bytesReceived = ((sessions actions).map Session.volume).sum ∧
      (final.sink.file.written.map WrittenRecord.item ++
        final.sink.queue.filter QueueItem.isData).Sublist (records.map (item config)) ∧
      (Runs.Each (step python) (fun engine _ => engine.sink.cfg.enabled = true)
          (init config cfg files) actions →
        final.sink.accepted.length + final.sink.recordsDropped = records.length) ∧
      (config.framingMode = .lf → ∀ session ∈ sessions actions, session.ended = true →
        session.records config.toReceiverConfig =
          referenceFrame lfSeparator config.maxRecordBytes session.chunks.flatten) := by
  obtain ⟨ignored, received⟩ := received_run ran
  obtain ⟨framed, fed⟩ := received
  have intake := fed.intake
  rw [framed.same, framed.delivered] at intake
  refine ⟨?_, ?_, framed.bytes, fed.ordered.writtenAndQueued.trans intake.order, ?_, ?_⟩
  · rw [framed.records, framed.delivered]
  · rw [framed.truncations, framed.delivered]
  · intro enabled
    have all := received_run_enabled enabled ran
    have total := all.fed.intake.total
    rw [all.framed.same, all.framed.delivered, List.length_map] at total
    have dropped : final.sink.recordsDropped = final.sink.refused := fed.refusals
    omega
  · exact fun lf session _ ended => records_of_ended config.toReceiverConfig lf ended

end Runs

def lineServer : TcpClientReceiverConfig where
  host := "10.0.0.1"
  port := 9000
  maxRecordBytes := 2
  max_pos := Nat.two_pos

/-- A stop in the middle of a record, a restart, a record that is too long, one that does not fit
into the queue, and an error instead of an end. -/
def stopAndRestart : List ClientEngineAction :=
  [.sink .start, .sink (.begin []), .start none, .connect none, .read [0x61, 0x0A, 0x62],
    .stop, .cancelled, .start none, .connect none, .read [0x63, 0x64, 0x65, 0x0A, 0x66],
    .readFails ⟨"ConnectionResetError", "reset"⟩, .slept]

theorem connections_framed_stop_and_restart : ∃ final,
    Runs.run (step { minor := 10 }) (init lineServer twoByteQueue fun _ => none) stopAndRestart =
      some final ∧
    let records := (sessions stopAndRestart).flatMap (Session.records lineServer.toReceiverConfig)
    final.transport.recordsReceived = records.length ∧
      final.transport.truncations = records.countP FramedRecord.truncated ∧
      final.transport.bytesReceived = ((sessions stopAndRestart).map Session.volume).sum ∧
      (final.sink.file.written.map WrittenRecord.item ++
        final.sink.queue.filter QueueItem.isData).Sublist (records.map (item lineServer)) ∧
      (Runs.Each (step { minor := 10 }) (fun engine _ => engine.sink.cfg.enabled = true)
          (init lineServer twoByteQueue fun _ => none) stopAndRestart →
        final.sink.accepted.length + final.sink.recordsDropped = records.length) ∧
      (lineServer.framingMode = .lf → ∀ session ∈ sessions stopAndRestart, session.ended = true →
        session.records lineServer.toReceiverConfig =
          referenceFrame lfSeparator lineServer.maxRecordBytes session.chunks.flatten) := by
  have reached : (Runs.run (step { minor := 10 }) (init lineServer twoByteQueue fun _ => none)
      stopAndRestart).isSome = true := by decide +kernel
  obtain ⟨final, ran⟩ := Option.isSome_iff_exists.mp reached
  exact ⟨final, ran, connections_framed ran⟩

end ClientEngine

end TcpSim.Engine
