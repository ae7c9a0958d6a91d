import TcpSim.Transport.ConnectionManager
import TcpSim.Lib.Interleaving
import TcpSim.Lib.Runs
import Mathlib.Data.Finset.Basic
import Mathlib.Data.Finset.Dedup
import Mathlib.Logic.Function.Basic

/-! The broadcasting TCP server, from the end of its `start` on. Connection handlers, reader
and writer loops, the slow-client monitor, `broadcast` and `stop` are tasks; a step takes one
of them from one await to the next. An await may give way even where nothing has to be
waited for. -/

set_option autoImplicit false

namespace TcpSim.Transport

open Engine

/-- The fields of `TcpServerConfig` that matter once the server listens. -/
structure TcpServerConfig (τ : Type) where
  slowClientTimeoutSeconds : ℚ := 10
  queueHighWatermarkBytes : Int := 262144
  queueLowWatermarkBytes : Int := 131072
  queueHardCapBytes : Int := 524288
  sendHeaderOnConnect : Bool := false
  headerPayload : Option (Payload τ) := none

inductive DisconnectReason where
  | clientDisconnect
  | sendFailure
  | slowClientTimeout
  | serverStop
  | rejected (rejection : Rejection)
  deriving DecidableEq, Repr

inductive ServerEvent (ι : Type) where
  | clientConnect (id : ι)
  | clientDisconnect (id : ι) (reason : DisconnectReason)
  | serverStopped
  deriving DecidableEq, Repr

/-- Where a `_disconnect_client` call waits: for the writer or reader task it cancelled, or
in `wait_closed`. -/
inductive TeardownAwait where
  | writer (task : Nat)
  | reader (task : Nat)
  | closing
  deriving DecidableEq, Repr

/-- A `_disconnect_client` call that found its client; `connection` is the state it read. -/
structure Teardown (ι : Type) where
  clientId : ι
  reason : DisconnectReason
  connection : Nat
  await : TeardownAwait
  deriving DecidableEq, Repr

/-- What the caller of `_disconnect_client` still has to do. -/
inductive Caller (ι τ : Type) where
  /-- A connection handler, a reader or a writer loop. -/
  | nothing
  | broadcast (payload : Payload τ) (remaining : List ι)
  | monitor (remaining : List ι)
  | stop (remaining : List ι)
  deriving DecidableEq, Repr

/-- Where a task waits. A loop that has not begun is where it sleeps, but for the reader
loop: cancelled before it begins, it does not get to its `finally`. -/
inductive Point (ι τ : Type) where
  | done
  /-- Ended by a CancelledError; the caller did not get to the rest of its loop. -/
  | cancelled (caller : Caller ι τ)
  | writerSleeping (id : ι)
  | draining (id : ι)
  | readerCreated (id : ι)
  | reading (id : ι)
  | monitorSleeping
  /-- `stop` waits for the monitor it cancelled. -/
  | monitorEnding (monitor : Nat)
  /-- `stop` waits for the listening server. -/
  | serverClosing
  | disconnecting (teardown : Teardown ι) (caller : Caller ι τ)
  deriving DecidableEq, Repr

/-- A CancelledError that a task has not raised yet, and the connections whose close future
was cancelled along with a task that waited for it. -/
structure Cancellations where
  tasks : Nat → Bool := fun _ => false
  closes : Nat → Bool := fun _ => false

/-- A `_disconnect_client` call, as history. -/
structure DisconnectCall where
  connection : Nat
  reason : DisconnectReason
  deriving DecidableEq, Repr

structure TcpServerSender (ι τ : Type) where
  connectionManager : ConnectionManager ι τ
  sendHeaderOnConnect : Bool
  headerPayload : Option (Payload τ)
  running : Bool := true
  /-- `_server` is not None. -/
  serverOpen : Bool := true
  broadcastReadyClients : Finset ι := ∅
  /-- `_broadcast_ready_event` is set. -/
  broadcastReadyEvent : Bool := false
  writerTasks : ι → Option Nat := fun _ => none
  readerTasks : ι → Option Nat := fun _ => none
  monitorTask : Option Nat := none
  cancellations : Cancellations := {}
  /-- `time.monotonic()`. -/
  clock : ℚ := 0
  events : List (ServerEvent ι) := []
  /-- History: the non-empty payloads given to `broadcast`. -/
  sent : List (Payload τ) := []
  /-- History: the calls of `_disconnect_client` that found their client. -/
  calls : List DisconnectCall := []

abbrev System (ι τ : Type) := Interleaving.Pool (TcpServerSender ι τ) (Point ι τ)

/-- What a task runs from one await to the next. -/
abbrev Block (ι τ : Type) := TcpServerSender ι τ → TcpServerSender ι τ × Point ι τ

variable {ι τ : Type}

/-! ## Cancellation -/

namespace Cancellations

def markTask (self : Cancellations) (task : Nat) : Cancellations :=
  { self with tasks := Function.update self.tasks task true }

def markClose (self : Cancellations) (connection : Nat) : Cancellations :=
  { self with closes := Function.update self.closes connection true }

/-- `Task.cancel`: what the task waits for is cancelled with it, a gathered task or the
future behind `wait_closed`. The first argument bounds the chain of waiting tasks. -/
def cancel (points : List (Point ι τ)) : Nat → Nat → Cancellations → Cancellations
  | 0, _, self => self
  | depth + 1, task, self =>
      match points[task]? with
      | some (.disconnecting teardown _) =>
          match teardown.await with
          | .writer awaited => cancel points depth awaited (self.markTask task)
          | .reader awaited => cancel points depth awaited (self.markTask task)
          | .closing => (self.markTask task).markClose teardown.connection
      | none | some .done | some (.cancelled _) => self
      | some _ => self.markTask task

/-- The CancelledError is raised. -/
def raised (self : Cancellations) (task : Nat) : Cancellations :=
  { self with tasks := Function.update self.tasks task false }

end Cancellations

namespace TcpServerSender

variable (self : TcpServerSender ι τ)

def emit (event : ServerEvent ι) : TcpServerSender ι τ :=
  { self with events := self.events ++ [event] }

def cancel (points : List (Point ι τ)) (task : Nat) : TcpServerSender ι τ :=
  { self with
    cancellations := self.cancellations.cancel points points.length task }

def raiseCancelled (task : Nat) : TcpServerSender ι τ :=
  { self with cancellations := self.cancellations.raised task }

def hasBroadcastClients : Bool := self.broadcastReadyClients.Nonempty

def updateHeaderPayload (sendHeaderOnConnect : Bool) (headerPayload : Option (Payload τ)) :
    TcpServerSender ι τ :=
  { self with sendHeaderOnConnect, headerPayload }

variable [DecidableEq ι]

/-! ## `_disconnect_client` -/

/-- The client is no longer ready; the event is cleared after the last one. -/
def discardReady (id : ι) : TcpServerSender ι τ :=
  { self with
    broadcastReadyClients := self.broadcastReadyClients.erase id
    broadcastReadyEvent :=
      self.broadcastReadyEvent && (self.broadcastReadyClients.erase id).Nonempty }

def closeWriter (connection : Nat) : TcpServerSender ι τ × TeardownAwait :=
  ({ self with connectionManager := self.connectionManager.close connection }, .closing)

/-- The part that cancels the reader task, unless it is the current one. -/
def endReader (points : List (Point ι τ)) (task : Nat) (id : ι) (connection : Nat) :
    TcpServerSender ι τ × TeardownAwait :=
  let popped := { self with readerTasks := Function.update self.readerTasks id none }
  match self.readerTasks id with
  | none => popped.closeWriter connection
  | some reader =>
      if reader = task then popped.closeWriter connection
      else (popped.cancel points reader, .reader reader)

/-- The part that cancels the writer task, unless it is the current one. -/
def endWriter (points : List (Point ι τ)) (task : Nat) (id : ι) (connection : Nat) :
    TcpServerSender ι τ × TeardownAwait :=
  let popped := { self with writerTasks := Function.update self.writerTasks id none }
  match self.writerTasks id with
  | none => popped.endReader points task id connection
  | some writer =>
      if writer = task then popped.endReader points task id connection
      else (popped.cancel points writer, .writer writer)

/-- `_disconnect_client` up to its first await; `none` if the client is not registered. -/
def disconnectClient (points : List (Point ι τ)) (task : Nat) (id : ι)
    (reason : DisconnectReason) : Option (TcpServerSender ι τ × Teardown ι) :=
  match self.connectionManager.clients.get? id with
  | none => none
  | some connection =>
      let noted := { self with calls := self.calls ++ [DisconnectCall.mk connection reason] }
      let (ended, await) := (noted.discardReady id).endWriter points task id connection
      some (ended, { clientId := id, reason, connection, await })

/-- The end of `_disconnect_client`, after `wait_closed`. -/
def unregister (id : ι) (reason : DisconnectReason) : TcpServerSender ι τ :=
  { self with connectionManager := self.connectionManager.unregisterClient id }.emit
    (.clientDisconnect id reason)

/-- A call with nothing after it. -/
def disconnectLast (points : List (Point ι τ)) (task : Nat) (id : ι)
    (reason : DisconnectReason) : TcpServerSender ι τ × Point ι τ :=
  match self.disconnectClient points task id reason with
  | none => (self, .done)
  | some (begun, teardown) => (begun, .disconnecting teardown .nothing)

/-- A loop over clients that disconnects one after the other. -/
def disconnectEach (points : List (Point ι τ)) (task : Nat) (reason : DisconnectReason)
    (caller : List ι → Caller ι τ) (finish : Block ι τ) :
    List ι → TcpServerSender ι τ → TcpServerSender ι τ × Point ι τ
  | [], self => finish self
  | id :: remaining, self =>
      match self.disconnectClient points task id reason with
      | none => disconnectEach points task reason caller finish remaining self
      | some (begun, teardown) => (begun, .disconnecting teardown (caller remaining))

/-! ## `broadcast` -/

/-- The loop of `broadcast` over the clients that are left. -/
def broadcastTo (points : List (Point ι τ)) (task : Nat) (payload : Payload τ) :
    List ι → TcpServerSender ι τ → TcpServerSender ι τ × Point ι τ
  | [], self => (self, .done)
  | id :: remaining, self =>
      match self.connectionManager.enqueuePayload self.clock id payload with
      | .ok manager =>
          broadcastTo points task payload remaining { self with connectionManager := manager }
      | .error rejection =>
          match self.disconnectClient points task id (.rejected rejection) with
          | none => broadcastTo points task payload remaining self
          | some (begun, teardown) =>
              (begun, .disconnecting teardown (.broadcast payload remaining))

/-- `broadcast`; `order` is the order in which the set of ready clients is copied. -/
def broadcast (points : List (Point ι τ)) (task : Nat) (payload : Payload τ) (order : List ι) :
    TcpServerSender ι τ × Point ι τ :=
  if payload.bytes = [] then (self, .done)
  else broadcastTo points task payload order { self with sent := self.sent ++ [payload] }

/-! ## Connections -/

/-- `_on_client_connected` up to the creation of the writer task. -/
def accept (id : ι) (writer : Nat) : TcpServerSender ι τ × Point ι τ :=
  ({ self with
      connectionManager := self.connectionManager.registerClient id
      writerTasks := Function.update self.writerTasks id (some writer) }.emit (.clientConnect id),
    .writerSleeping id)

/-- The client may be broadcast to, and its reader task is created. -/
def makeReady (id : ι) (reader : Nat) : TcpServerSender ι τ × Point ι τ :=
  ({ self with
      broadcastReadyClients := insert id self.broadcastReadyClients
      broadcastReadyEvent := true
      readerTasks := Function.update self.readerTasks id (some reader) },
    .readerCreated id)

/-- The header for a new client. -/
def greeting : Option (Payload τ) :=
  if self.sendHeaderOnConnect then self.headerPayload.filter (fun header => header.bytes ≠ [])
  else none

/-- The rest of `_on_client_connected`. The task is the reader that it creates and waits for,
or the handler itself where the header is rejected. -/
def greet (points : List (Point ι τ)) (task : Nat) (id : ι) :
    TcpServerSender ι τ × Point ι τ :=
  match self.greeting with
  | none => self.makeReady id task
  | some header =>
      match self.connectionManager.enqueuePayload self.clock id header with
      | .ok manager => { self with connectionManager := manager }.makeReady id task
      | .error rejection => self.disconnectLast points task id (.rejected rejection)

/-- `_reader_loop` where it checks `_running`. -/
def readerTurn (points : List (Point ι τ)) (task : Nat) (id : ι) :
    TcpServerSender ι τ × Point ι τ :=
  if self.running then (self, .reading id)
  else self.disconnectLast points task id .clientDisconnect

/-- `_writer_loop` where it checks `_running`. -/
def writerTurn (id : ι) : TcpServerSender ι τ × Point ι τ :=
  if self.running then
    match self.connectionManager.popNextPayload self.clock id with
    | none =>
        match self.connectionManager.getClientState id with
        | none => (self, .done)
        | some _ => (self, .writerSleeping id)
    | some (payload, manager) =>
        match manager.getClientState id with
        | none => ({ self with connectionManager := manager }, .done)
        | some (connection, _) =>
            ({ self with connectionManager := manager.write connection payload }, .draining id)
  else (self, .done)

/-! ## The monitor and `stop` -/

/-- The rest of the monitor's loop over its candidates. -/
def monitorRest (points : List (Point ι τ)) (task : Nat) (remaining : List ι) :
    TcpServerSender ι τ × Point ι τ :=
  disconnectEach points task .slowClientTimeout .monitor (fun self => (self, .monitorSleeping))
    remaining self

def monitorTurn (points : List (Point ι τ)) (task : Nat) : TcpServerSender ι τ × Point ι τ :=
  if self.running then
    self.monitorRest points task (self.connectionManager.getDisconnectCandidates self.clock)
  else (self, .done)

/-- The rest of the loop of `stop` over the clients, and the wait for the server. -/
def stopRest (points : List (Point ι τ)) (task : Nat) (remaining : List ι) :
    TcpServerSender ι τ × Point ι τ :=
  disconnectEach points task .serverStop .stop (fun self => (self, .serverClosing)) remaining self

def stopClients (points : List (Point ι τ)) (task : Nat) : TcpServerSender ι τ × Point ι τ :=
  { self with monitorTask := none }.stopRest points task self.connectionManager.listClientIds

/-- `stop` up to its first await. -/
def stop (points : List (Point ι τ)) (task : Nat) : TcpServerSender ι τ × Point ι τ :=
  if self.running then
    let halted := { self with running := false }
    match self.monitorTask with
    | none => halted.stopClients points task
    | some monitor => (halted.cancel points monitor, .monitorEnding monitor)
  else (self, .done)

def stopped : TcpServerSender ι τ × Point ι τ :=
  ({ self with serverOpen := false, broadcastReadyEvent := false }.emit .serverStopped, .done)

/-! ## Steps -/

/-- What follows a `_disconnect_client` call. -/
def continueCaller (points : List (Point ι τ)) (task : Nat) (caller : Caller ι τ) :
    TcpServerSender ι τ × Point ι τ :=
  match caller with
  | .nothing => (self, .done)
  | .broadcast payload remaining => self.broadcastTo points task payload remaining
  | .monitor remaining => self.monitorRest points task remaining
  | .stop remaining => self.stopRest points task remaining

/-- A `_disconnect_client` call whose await is over. -/
def continueTeardown (points : List (Point ι τ)) (task : Nat) (teardown : Teardown ι)
    (caller : Caller ι τ) : TcpServerSender ι τ × Point ι τ :=
  match teardown.await with
  | .writer _ =>
      let (ended, await) := self.endReader points task teardown.clientId teardown.connection
      (ended, .disconnecting { teardown with await } caller)
  | .reader _ =>
      let (ended, await) := self.closeWriter teardown.connection
      (ended, .disconnecting { teardown with await } caller)
  | .closing =>
      (self.unregister teardown.clientId teardown.reason).continueCaller points task caller

/-- The await of a task is over. `ok` is false where it raised (an OSError of `read` or
`wait_closed`, a drain that failed or took too long) or where `read` returned nothing. -/
def resume (points : List (Point ι τ)) (task : Nat) (ok : Bool) (point : Point ι τ) :
    TcpServerSender ι τ × Point ι τ :=
  match point with
  | .done => (self, .done)
  | .cancelled caller => (self, .cancelled caller)
  | .writerSleeping id => self.writerTurn id
  | .draining id =>
      if ok then self.writerTurn id else self.disconnectLast points task id .sendFailure
  | .readerCreated id => self.readerTurn points task id
  | .reading id =>
      if ok then self.readerTurn points task id
      else self.disconnectLast points task id .clientDisconnect
  | .monitorSleeping => self.monitorTurn points task
  | .monitorEnding _ => self.stopClients points task
  | .serverClosing => self.stopped
  | .disconnecting teardown caller => self.continueTeardown points task teardown caller

/-- The await of a task raises CancelledError, which only the `finally` of a reader loop
that has begun acts on. -/
def resumeCancelled (points : List (Point ι τ)) (task : Nat) (point : Point ι τ) :
    TcpServerSender ι τ × Point ι τ :=
  match point with
  | .reading id => (self.raiseCancelled task).disconnectLast points task id .clientDisconnect
  | .disconnecting _ caller | .cancelled caller => (self.raiseCancelled task, .cancelled caller)
  | _ => (self.raiseCancelled task, .cancelled .nothing)

end TcpServerSender

def ended (points : List (Point ι τ)) (task : Nat) : Bool :=
  match points[task]? with
  | none | some .done | some (.cancelled _) => true
  | some _ => false

/-- The await of a task at this point can be over. -/
def Point.isReady (points : List (Point ι τ)) : Point ι τ → Bool
  | .done => false
  | .cancelled _ => false
  | .monitorEnding monitor => ended points monitor
  | .disconnecting teardown _ =>
      match teardown.await with
      | .writer task => ended points task
      | .reader task => ended points task
      | .closing => true
  | _ => true

inductive ServerAction (ι τ : Type) where
  | connect (id : ι)
  /-- The task's await is over. -/
  | resume (task : Nat) (ok : Bool)
  /-- `wait_closed` raises CancelledError, as another task that waited for the same
  connection was cancelled. -/
  | closeCancelled (task : Nat)
  | broadcast (payload : Payload τ) (order : List ι)
  /-- The task that called `broadcast` is cancelled. -/
  | cancelBroadcast (task : Nat)
  | updateHeader (sendHeaderOnConnect : Bool) (headerPayload : Option (Payload τ))
  | stop
  | tick (now : ℚ)

/-- What happens to connections, to the tasks of the server and to the clock; no call. -/
def ServerAction.isOwn : ServerAction ι τ → Bool
  | .connect _ | .resume _ _ | .closeCancelled _ | .tick _ => true
  | _ => false

namespace System

variable [DecidableEq ι] (self : System ι τ)

def resume (task : Nat) (ok : Bool) : Option (System ι τ) :=
  self.advance task fun point =>
    if point.isReady self.points then
      some fun server =>
        if server.cancellations.tasks task then server.resumeCancelled self.points task point
        else server.resume self.points task ok point
    else none

def closeCancelled (task : Nat) : Option (System ι τ) :=
  self.advance task fun point =>
    match point with
    | .disconnecting teardown caller =>
        if teardown.await = .closing ∧ self.shared.cancellations.closes teardown.connection then
          some fun server => (server, .cancelled caller)
        else none
    | _ => none

def connect (id : ι) : System ι τ :=
  let accepted := self.launch (·.accept id self.points.length)
  accepted.launch (·.greet accepted.points accepted.points.length id)

end System

namespace System

variable [DecidableEq ι]

/-- One step; `none` when the action is not possible. -/
def step (self : System ι τ) : ServerAction ι τ → Option (System ι τ)
  | .connect id => if self.shared.serverOpen then some (self.connect id) else none
  | .resume task ok => self.resume task ok
  | .closeCancelled task => self.closeCancelled task
  | .broadcast payload order =>
      if order.Nodup ∧ order.toFinset = self.shared.broadcastReadyClients then
        some (self.launch (·.broadcast self.points self.points.length payload order))
      else none
  | .cancelBroadcast task =>
      match self.points[task]? with
      | some (.disconnecting _ (.broadcast _ _)) =>
          some { self with shared := self.shared.cancel self.points task }
      | _ => none
  | .updateHeader sendHeaderOnConnect headerPayload =>
      some { self with shared := self.shared.updateHeaderPayload sendHeaderOnConnect headerPayload }
  | .stop => some (self.launch (·.stop self.points self.points.length))
  | .tick now =>
      if self.shared.clock ≤ now then some { self with shared := { self.shared with clock := now } }
      else none

/-- The server at the end of `start`: the monitor is its first task. -/
def started (config : TcpServerConfig τ) : System ι τ where
  shared :=
    { connectionManager := ConnectionManager.empty
        { highWatermarkBytes := config.queueHighWatermarkBytes
          lowWatermarkBytes := config.queueLowWatermarkBytes
          hardCapBytes := config.queueHardCapBytes
          slowClientTimeoutSeconds := config.slowClientTimeoutSeconds }
      sendHeaderOnConnect := config.sendHeaderOnConnect
      headerPayload := config.headerPayload
      monitorTask := some 0 }
  points := [.monitorSleeping]

end System

end TcpSim.Transport
