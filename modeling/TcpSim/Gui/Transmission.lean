import TcpSim.Engine.Scheduler
import TcpSim.Gui.Controller
import TcpSim.Transport.TcpServerSender

/-! A transmission in TCP server mode while it runs: the auto loop of the engine, `step_once`
requests, what else the user asks for, and the server that they all broadcast through. The
run ends before the transmission is stopped. -/

set_option autoImplicit false

namespace TcpSim.Gui

open Engine Transport

/-- Where a payload comes from: the file, counted from the one of the start, and which of the
messages of `SendScheduler.step` it is. A header sent at a connect is none of them. -/
structure Origin where
  file : Nat
  isHeader : Bool
  number : Option Nat := none
  deriving DecidableEq, Repr

abbrev Message := ScheduledMessage (Payload Origin)

def Message.numbered (self : Message) (number : Nat) : Message :=
  { self with payload.tag.number := some number }

/-- What the reader of a file yields, after the payload filters. -/
structure LoadedFile where
  records : List Bytes
  headerRaw : Option Bytes

namespace LoadedFile

variable (self : LoadedFile) (file : Nat)

def payloads : List (Payload Origin) :=
  self.records.map fun bytes => { bytes, tag := { file, isHeader := false } }

/-- The header that `_load_records` returns. -/
def headerPayload (sendHeader : Bool) : Option (Payload Origin) :=
  if sendHeader then
    self.headerRaw.map fun bytes => { bytes, tag := { file, isHeader := true } }
  else none

end LoadedFile

structure EngineStats where
  featuresSent : Nat := 0
  bytesSent : Nat := 0
  deriving DecidableEq, Repr

structure Transmission (ι : Type) where
  scheduler : SendScheduler (Payload Origin)
  server : Transport.System ι Origin
  stats : EngineStats := {}
  status : List String := []
  /-- History: the files swapped in. -/
  files : Nat := 0
  /-- History: the messages that `SendScheduler.step` returned. -/
  produced : Nat := 0

inductive Sender where
  /-- `run_auto`. -/
  | auto
  /-- `_step_once_async`. -/
  | stepOnce
  deriving DecidableEq, Repr

inductive SenderPoint where
  /-- The auto loop between two turns. -/
  | sleeping
  /-- In `wait_for_broadcast_clients`. -/
  | waiting (sender : Sender) (message : Message)
  /-- `broadcast` is a task of the server. -/
  | broadcasting (sender : Sender) (message : Message) (task : Nat)
  | done
  deriving DecidableEq, Repr

/-- The auto loop is the first sender. -/
abbrev Sending (ι : Type) := Interleaving.Pool (Transmission ι) SenderPoint

/-- `is_running` of the engine: its task is not done. -/
def engineRuns (senders : List SenderPoint) : Bool :=
  match senders.head? with
  | none | some .done => false
  | some _ => true

def showLine : Option Int → String
  | none => "None"
  | some line => toString line

variable {ι : Type}

namespace Transmission

variable (self : Transmission ι)

def emit (message : String) : Transmission ι := { self with status := self.status ++ [message] }

/-! ## Requests -/

def togglePause : Transmission ι :=
  if self.scheduler.paused then
    { self with scheduler := self.scheduler.resume }.emit "Transmission resumed."
  else { self with scheduler := self.scheduler.pause }.emit "Transmission paused."

def jumpToLine (lineNumber : Int) : Transmission ι :=
  match self.scheduler.jumpTo lineNumber with
  | .error text => self.emit ("Jump failed: " ++ text)
  | .ok scheduler =>
      { self with scheduler }.emit ("Jumped to line " ++ toString lineNumber ++ ".")

def setLineControls (startLine endLine firstN : Option Int) : Transmission ι :=
  match self.scheduler.setLineControls startLine endLine firstN with
  | .error text => self.emit ("Line controls rejected: " ++ text)
  | .ok scheduler =>
      { self with scheduler }.emit ("Line controls updated (start=" ++ showLine startLine ++
        ", end=" ++ showLine endLine ++ ", first_n=" ++ showLine firstN ++ ").")

/-- The swap itself: `swap_records` and `update_header_payload`. -/
def swapRecords (sendHeader : Bool) (loaded : LoadedFile) : Transmission ι :=
  let file := self.files + 1
  let header := loaded.headerPayload file sendHeader
  { self with
    files := file
    scheduler := self.scheduler.requestFileSwap (loaded.payloads file)
      (if sendHeader then header else none)
    server := { self.server with
      shared := self.server.shared.updateHeaderPayload sendHeader header } }

/-- `_swap_file`; `read` is the outcome of reading the file. -/
def swapFile (stream : StreamSettings) (read : Except Raised LoadedFile) : Transmission ι :=
  let (stream, told) := stream.preset
  let self := { self with status := self.status ++ told }
  match read with
  | .error raised =>
      if raised.kind.failsTransmission then self.emit ("File swap failed: " ++ raised.text) else self
  | .ok loaded =>
      (self.swapRecords stream.sendHeader loaded).emit ("File swap queued with " ++
        toString loaded.records.length ++ " valid records from " ++ stream.filePath ++ ".")

/-! ## Senders -/

/-- `SendScheduler.step`; its messages are numbered. -/
def take : Option Message × Transmission ι :=
  match self.scheduler.step with
  | (none, scheduler) => (none, { self with scheduler })
  | (some message, scheduler) =>
      (some (Message.numbered message self.produced),
        { self with scheduler, produced := self.produced + 1 })

def countSent (message : Message) : Transmission ι :=
  { self with
    stats.featuresSent := self.stats.featuresSent + 1
    stats.bytesSent := self.stats.bytesSent + message.payload.bytes.length }

/-- What follows `_send_scheduled_message`. -/
def finish (sender : Sender) (message : Message) : Transmission ι × SenderPoint :=
  let sent := self.countSent message
  match sender with
  | .auto => (sent, .sleeping)
  | .stepOnce =>
      (sent.emit (if message.isHeader then "Step sent header message."
        else "Step sent line " ++ toString message.lineNumber ++ "."), .done)

/-- A CancelledError gets through to the sender; `run_auto` stops its scheduler. -/
def cancelSender (sender : Sender) : Transmission ι × SenderPoint :=
  match sender with
  | .auto => ({ self with scheduler := self.scheduler.stop }, .done)
  | .stepOnce => (self, .done)

/-- The broadcast that a sender awaits is over. -/
def sent : SenderPoint → Option (Transmission ι × SenderPoint)
  | .broadcasting sender message task =>
      match self.server.points[task]? with
      | some .done => some (self.finish sender message)
      | some (.cancelled _) => some (self.cancelSender sender)
      | _ => none
  | _ => none

variable [DecidableEq ι]

/-- `_send_scheduled_message` where it looks for clients; `order` is the order in which
`broadcast` copies their set. Once the engine has ended a message without clients is dropped. -/
def sendScheduledMessage (runs : Bool) (sender : Sender) (message : Message) (order : List ι) :
    Option (Transmission ι × SenderPoint) :=
  if self.server.shared.hasBroadcastClients then
    (self.server.step (.broadcast message.payload order)).map fun server =>
      ({ self with server }, .broadcasting sender message self.server.points.length)
  else if runs then some (self, .waiting sender message)
  else some (self.finish sender message)

/-- A turn of the loop of `run_auto`. -/
def autoTurn (order : List ι) : SenderPoint → Option (Transmission ι × SenderPoint)
  | .sleeping =>
      if !self.scheduler.running then some (self, .done)
      else if self.scheduler.paused then some (self, .sleeping)
      else
        match self.take with
        | (none, taken) => some (taken, .sleeping)
        | (some message, taken) => taken.sendScheduledMessage true .auto message order
  | _ => none

/-- The event has been set, though the clients may be gone again. -/
def wake (runs : Bool) (order : List ι) : SenderPoint → Option (Transmission ι × SenderPoint)
  | .waiting sender message => self.sendScheduledMessage runs sender message order
  | _ => none

/-- `_step_once_async`. -/
def stepOnce (runs : Bool) (order : List ι) : Option (Transmission ι × SenderPoint) :=
  match self.take with
  | (none, taken) => some (taken.emit "Step requested but no message is available.", .done)
  | (some message, taken) => taken.sendScheduledMessage runs .stepOnce message order

end Transmission

/-! ## Steps -/

inductive SendingAction (ι : Type) where
  /-- Something happens to a connection, to a task of the server or to the clock. -/
  | server (action : ServerAction ι Origin)
  | autoTurn (order : List ι)
  | wake (sender : Nat) (order : List ι)
  | sent (sender : Nat)
  | stepOnce (order : List ι)
  | togglePause
  | jumpTo (lineNumber : Int)
  | setLineControls (startLine endLine firstN : Option Int)
  | swapFile (stream : StreamSettings) (read : Except Raised LoadedFile)

def SendingAction.isStepOnce : SendingAction ι → Bool
  | .stepOnce _ => true
  | _ => false

/-- Asked for by the user, other than a single step. -/
def SendingAction.isRequest : SendingAction ι → Bool
  | .togglePause | .jumpTo _ | .setLineControls _ _ _ | .swapFile _ _ => true
  | _ => false

namespace Sending

variable [DecidableEq ι] (self : Sending ι)

def request (change : Transmission ι → Transmission ι) : Sending ι :=
  { self with shared := change self.shared }

/-- One step; `none` when the action is not possible. -/
def step (self : Sending ι) : SendingAction ι → Option (Sending ι)
  | .server action =>
      if action.isOwn then
        (self.shared.server.step action).map fun server =>
          self.request fun shared => { shared with server }
      else none
  | .autoTurn order => self.tryAdvance 0 fun point shared => shared.autoTurn order point
  | .wake sender order =>
      self.tryAdvance sender fun point shared => shared.wake (engineRuns self.points) order point
  | .sent sender => self.tryAdvance sender fun point shared => shared.sent point
  | .stepOnce order => self.tryLaunch (·.stepOnce (engineRuns self.points) order)
  | .togglePause => some (self.request (·.togglePause))
  | .jumpTo lineNumber => some (self.request (·.jumpToLine lineNumber))
  | .setLineControls startLine endLine firstN =>
      some (self.request (·.setLineControls startLine endLine firstN))
  | .swapFile stream read => some (self.request (·.swapFile stream read))

/-- The engine has just been started; the header is that of the first file. -/
def started (config : TcpServerConfig Origin) (sendHeader loop : Bool) (loaded : LoadedFile) :
    Sending ι where
  shared :=
    { scheduler := (SendScheduler.init (loaded.payloads 0) loop).start
      server := System.started { config with
        sendHeaderOnConnect := sendHeader
        headerPayload := loaded.headerPayload 0 sendHeader } }
  points := [.sleeping]

end Sending

end TcpSim.Gui
