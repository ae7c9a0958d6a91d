import TcpSim.Lib.Runs
import TcpSim.Transport.Base
import TcpSim.Transport.TcpReceiver

/-! The TCP client that receives: a task that connects, frames what it reads and connects
again when the connection ends. One step is what the task does between two awaits, from
`start` on and as long as `stop` is not called. -/

set_option autoImplicit false

namespace TcpSim.Transport

open Engine

structure TcpClientReceiverConfig extends ReceiverConfig where
  host : String
  port : Nat
  reconnectMaxBackoffSeconds : ℚ := 30
  useTls : Bool := false
  tlsCaFile : Option String := none
  tlsVerify : Bool := true
  tlsServerHostname : Option String := none

def TcpClientReceiverConfig.asClientSenderConfig (self : TcpClientReceiverConfig) :
    TcpClientConfig where
  host := self.host
  port := self.port
  reconnectMaxBackoffSeconds := self.reconnectMaxBackoffSeconds
  useTls := self.useTls
  tlsCaFile := self.tlsCaFile
  tlsVerify := self.tlsVerify
  tlsServerHostname := self.tlsServerHostname

inductive ClientReceiverEvent where
  | reconnectPending (reason : String) (delaySeconds : ℚ)
  | receiverConnected (src : String)
  | receiverDisconnected (src reason : String)
  | recordTruncated (src : String) (bytesLen : Nat)
  | receiverPaused
  | receiverResumed
  deriving DecidableEq

inductive ClientReceiverPoint where
  | idle
  /-- In `open_connection`. -/
  | connecting
  /-- In `_paused.wait()`. -/
  | waiting
  /-- `_paused.wait()` was woken and is about to return, even if the event is
  cleared again before. -/
  | woken
  /-- In `reader.read()`. -/
  | reading
  | sleeping
  /-- Ended before its loop. -/
  | unusable (message : String)
  /-- Ended by an exception in its loop. -/
  | died (error : NetworkError)
  deriving DecidableEq, Repr

structure TcpClientReceiver where
  config : TcpClientReceiverConfig
  point : ClientReceiverPoint := .idle
  backoff : ReconnectBackoff := .standard
  sslContext : Option SslContext := none
  framer : Framer := Framer.fresh config.framingMode config.maxRecordBytes config.max_pos
  /-- The `_paused` event is cleared. -/
  paused : Bool := false
  reconnectCount : Nat := 0
  recordsReceived : Nat := 0
  bytesReceived : Nat := 0
  truncations : Nat := 0
  connectedEvent : Bool := false
  events : List ClientReceiverEvent := []
  /-- History: the records handed to the callback, the connection attempts and the delays
  between them. -/
  delivered : List FramedRecord := []
  attempts : List ConnectionAttempt := []
  delays : List ℚ := []

namespace TcpClientReceiver

def init (config : TcpClientReceiverConfig) : TcpClientReceiver := { config }

def emit (self : TcpClientReceiver) (event : ClientReceiverEvent) : TcpClientReceiver :=
  { self with events := self.events ++ [event] }

def src (self : TcpClientReceiver) : String := s!"{self.config.host}:{self.config.port}"

/-- The top of the loop in `_run`, up to `open_connection`. -/
def attempt (self : TcpClientReceiver) : TcpClientReceiver :=
  { self with
    point := .connecting
    attempts := self.attempts ++ [{
      host := self.config.host
      port := self.config.port
      ssl := self.sslContext
      serverHostname := if self.config.useTls then self.config.tlsServerHostname else none }] }

/-- The part of `_run` before its loop and the first attempt. -/
def enterRun (self : TcpClientReceiver) (loads : Option String) : TcpClientReceiver :=
  match ReconnectBackoff.create 1 self.config.reconnectMaxBackoffSeconds with
  | .error message => { self with point := .unusable message }
  | .ok backoff =>
      match createClientSslContext self.config.asClientSenderConfig loads with
      | .error message => { self with point := .unusable message }
      | .ok sslContext => { self with backoff, sslContext }.attempt

/-- Announce the next delay and sleep for it. -/
def sleep (self : TcpClientReceiver) (reason : String) : TcpClientReceiver :=
  let (delay, backoff) := self.backoff.advance
  { self with
    backoff
    delays := self.delays ++ [delay]
    point := .sleeping }.emit (.reconnectPending reason delay)

/-- The exceptions of `open_connection` that its handler names. -/
def catches (python : Interpreter) (error : NetworkError) : Bool :=
  error = .timeout || error.isOSError python

/-- `open_connection` raised. -/
def connectFailed (python : Interpreter) (self : TcpClientReceiver) (error : NetworkError) :
    TcpClientReceiver :=
  if catches python error then self.sleep ("connect_error:" ++ error.className)
  else { self with point := .died error }

/-- The top of the inner loop: wait if paused, else read. -/
def nextRead (self : TcpClientReceiver) : TcpClientReceiver :=
  { self with point := if self.paused then .waiting else .reading }

/-- `open_connection` returned. -/
def connected (self : TcpClientReceiver) : TcpClientReceiver :=
  { { self with backoff := self.backoff.reset, connectedEvent := true }.emit
      (.receiverConnected self.src) with
    framer := Framer.fresh self.config.framingMode self.config.maxRecordBytes
      self.config.max_pos }.nextRead

def deliver (self : TcpClientReceiver) (record : FramedRecord) : TcpClientReceiver :=
  let counted := { self with
    recordsReceived := self.recordsReceived + 1
    delivered := self.delivered ++ [record] }
  if record.truncated then
    { counted with truncations := self.truncations + 1 }.emit
      (.recordTruncated self.src record.payload.length)
  else counted

/-- After the inner loop: the rest of the framer, the `finally` clause and the delay. -/
def disconnected (self : TcpClientReceiver) (reason : String) : TcpClientReceiver :=
  let (trailing, framer) := self.framer.flush
  let flushed := trailing.toList.foldl deliver { self with framer }
  let closed := { flushed with
    connectedEvent := false
    reconnectCount := flushed.reconnectCount + 1 }.emit (.receiverDisconnected self.src reason)
  closed.sleep reason

/-- `read` returned; an empty chunk is the end of the stream. -/
def received (self : TcpClientReceiver) (chunk : Bytes) : TcpClientReceiver :=
  if chunk = [] then self.disconnected "eof"
  else
    let (records, framer) := self.framer.feed chunk
    let counted := { self with bytesReceived := self.bytesReceived + chunk.length, framer }
    (records.foldl deliver counted).nextRead

def setPaused (self : TcpClientReceiver) (paused : Bool) : TcpClientReceiver :=
  if paused then
    if self.paused then self else { self with paused := true }.emit .receiverPaused
  else
    if self.paused then
      let point := if self.point = .waiting then .woken else self.point
      { self with paused := false, point }.emit .receiverResumed
    else self

end TcpClientReceiver

inductive ClientReceiverAction where
  /-- `start`; `loads` is what reading the CA file raises. -/
  | start (loads : Option String)
  | setPaused (paused : Bool)
  /-- `open_connection` returns or raises. -/
  | connect (raises : Option NetworkError)
  /-- `_paused.wait()` returns. -/
  | wake
  | read (chunk : Bytes)
  /-- `read` raises. -/
  | readFails (error : OSError)
  | slept

namespace TcpClientReceiver

variable (python : Interpreter)

/-- One step; `none` when the action is not possible. -/
def step (self : TcpClientReceiver) : ClientReceiverAction → Option TcpClientReceiver
  | .start loads =>
      match self.point with
      | .idle => some (self.enterRun loads)
      | _ => some self
  | .setPaused paused => some (self.setPaused paused)
  | .connect raises =>
      match self.point, raises with
      | .connecting, none => some self.connected
      | .connecting, some error => some (self.connectFailed python error)
      | _, _ => none
  | .wake =>
      match self.point with
      | .woken => some { self with point := .reading }
      | _ => none
  | .read chunk =>
      match self.point with
      | .reading => some (self.received chunk)
      | _ => none
  | .readFails error =>
      match self.point with
      | .reading => some (self.disconnected ("error:" ++ error.className))
      | _ => none
  | .slept =>
      match self.point with
      | .sleeping => some self.attempt
      | _ => none

/-- What a step does, one constructor for each branch. -/
inductive Steps (self : TcpClientReceiver) : ClientReceiverAction → TcpClientReceiver → Prop where
  | starts (loads : Option String) (idle : self.point = .idle) :
      Steps self (.start loads) (self.enterRun loads)
  | startsNothing (loads : Option String) : Steps self (.start loads) self
  | pauses (paused : Bool) : Steps self (.setPaused paused) (self.setPaused paused)
  | connects (at_ : self.point = .connecting) : Steps self (.connect none) self.connected
  | connectFails (error : NetworkError) (at_ : self.point = .connecting) :
      Steps self (.connect (some error)) (self.connectFailed python error)
  | wakes (at_ : self.point = .woken) : Steps self .wake { self with point := .reading }
  | reads (chunk : Bytes) (at_ : self.point = .reading) :
      Steps self (.read chunk) (self.received chunk)
  | readFails (error : OSError) (at_ : self.point = .reading) :
      Steps self (.readFails error) (self.disconnected ("error:" ++ error.className))
  | retries (at_ : self.point = .sleeping) : Steps self .slept self.attempt

theorem steps_of_step {python : Interpreter} {self next : TcpClientReceiver}
    {action : ClientReceiverAction} (taken : self.step python action = some next) :
    Steps python self action next := by
  cases action with
  | start loads =>
      simp only [step] at taken
      split at taken
      next idle =>
          cases taken
          exact .starts loads idle
      next =>
          cases taken
          exact .startsNothing loads
  | setPaused paused =>
      cases taken
      exact .pauses paused
  | connect raises =>
      simp only [step] at taken
      split at taken
      next at_ =>
          cases taken
          exact .connects at_
      next error at_ =>
          cases taken
          exact .connectFails error at_
      next => cases taken
  | wake =>
      simp only [step] at taken
      split at taken
      next at_ =>
          cases taken
          exact .wakes at_
      next => cases taken
  | read chunk =>
      simp only [step] at taken
      split at taken
      next at_ =>
          cases taken
          exact .reads chunk at_
      next => cases taken
  | readFails error =>
      simp only [step] at taken
      split at taken
      next at_ =>
          cases taken
          exact .readFails error at_
      next => cases taken
  | slept =>
      simp only [step] at taken
      split at taken
      next at_ =>
          cases taken
          exact .retries at_
      next => cases taken

end TcpClientReceiver

end TcpSim.Transport
