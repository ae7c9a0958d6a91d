import TcpSim.Engine.Framer
import TcpSim.Lib.Runs
import TcpSim.Transport.Base

/-! The TCP client that sends: a queue of payloads and a task that connects, writes the
payloads one by one and connects again when the connection fails. One step is what the task
does between two awaits, from `start` on and as long as `stop` is not called. -/

set_option autoImplicit false

namespace TcpSim.Transport

open Engine

inductive ClientEvent where
  | connect (host : String) (port : Nat)
  | reconnectPending (reason : String) (backoff : ℚ)
  | send (bytes : Nat)
  | disconnect (reason : String)
  deriving DecidableEq

/-- The `disconnect_watch` task, which reads one byte. -/
inductive WatchState where
  | pending
  | data
  | eof
  | failed (error : OSError)
  deriving DecidableEq, Repr

inductive ClientPoint where
  /-- Not started. -/
  | idle
  /-- In `open_connection`. -/
  | connecting
  /-- In the 0.1 s wait for a payload. -/
  | getting
  /-- In `drain`, with the payload that was written. -/
  | draining (payload : Bytes)
  /-- In the `finally` clause of `_connected_loop`, with the error on its way. -/
  | unwatching (error : NetworkError)
  /-- In `wait_closed`, with the error that the handler did not catch. -/
  | closing (raised : Option NetworkError)
  | sleeping
  /-- Ended before its loop. -/
  | unusable (message : String)
  /-- Ended by an exception in its loop. -/
  | died (error : NetworkError)
  deriving DecidableEq, Repr

structure TcpClientSender where
  config : TcpClientConfig
  point : ClientPoint := .idle
  backoff : ReconnectBackoff := .standard
  sslContext : Option SslContext := none
  watch : WatchState := .pending
  /-- `_writer` is not `None`. -/
  writerOpen : Bool := false
  outbound : List Bytes := []
  reconnectCount : Nat := 0
  lastDisconnectReason : String := ""
  connectedEvent : Bool := false
  events : List ClientEvent := []
  /-- History: the payloads given to `send`, those written and drained, the connection
  attempts and the delays between them. -/
  sent : List Bytes := []
  completed : List Bytes := []
  attempts : List ConnectionAttempt := []
  delays : List ℚ := []

namespace TcpClientSender

def init (config : TcpClientConfig) : TcpClientSender := { config }

def emit (self : TcpClientSender) (event : ClientEvent) : TcpClientSender :=
  { self with events := self.events ++ [event] }

/-- The top of the loop in `_run`, up to `open_connection`. -/
def attempt (self : TcpClientSender) : TcpClientSender :=
  let hostname := (self.config.tlsServerHostname.filter (· ≠ "")).getD self.config.host
  { self with
    point := .connecting
    attempts := self.attempts ++ [{
      host := self.config.host
      port := self.config.port
      ssl := self.sslContext
      serverHostname := if self.sslContext.isSome then some hostname else none }] }

/-- The part of `_run` before its loop and the first attempt. -/
def enterRun (self : TcpClientSender) (loads : Option String) : TcpClientSender :=
  match ReconnectBackoff.create 1 self.config.reconnectMaxBackoffSeconds with
  | .error message => { self with point := .unusable message }
  | .ok backoff =>
      match createClientSslContext self.config loads with
      | .error message => { self with point := .unusable message }
      | .ok sslContext => { self with backoff, sslContext }.attempt

/-- The end of `_close_connection`, and the rest of the turn: an error that was not caught
ends the task. -/
def closed (self : TcpClientSender) (raised : Option NetworkError) : TcpClientSender :=
  let reason := if self.lastDisconnectReason = "" then "disconnect" else self.lastDisconnectReason
  let closed := { self with
    writerOpen := false
    connectedEvent := false
    lastDisconnectReason := reason }.emit (.disconnect reason)
  match raised with
  | some error => { closed with point := .died error }
  | none =>
      let (delay, backoff) := self.backoff.advance
      { closed with
        reconnectCount := self.reconnectCount + 1
        backoff
        delays := self.delays ++ [delay]
        point := .sleeping }

/-- The `finally` clause of `_run`, up to its await. -/
def close (self : TcpClientSender) (raised : Option NetworkError) : TcpClientSender :=
  if self.writerOpen then { self with point := .closing raised } else self.closed raised

/-- An exception leaves the `try` block of `_run`. -/
def leaveTry (python : Interpreter) (self : TcpClientSender) (error : NetworkError) :
    TcpClientSender :=
  if error.isOSError python then
    ({ self with lastDisconnectReason := error.text }.emit
      (.reconnectPending error.text self.backoff.current)).close none
  else self.close (some error)

/-- The top of the loop in `_connected_loop`: look at the watch, then wait for a payload. -/
def loopTop (self : TcpClientSender) : TcpClientSender :=
  match self.watch with
  | .pending => { self with point := .getting }
  | .data => { self with watch := .pending, point := .getting }
  | .eof => { self with
      point := .unwatching (.osError ⟨"ConnectionError", "Remote server disconnected"⟩) }
  | .failed error => { self with point := .unwatching (.osError error) }

/-- `open_connection` returned. -/
def connected (self : TcpClientSender) : TcpClientSender :=
  let connected := { self with writerOpen := true, connectedEvent := true }.emit
    (.connect self.config.host self.config.port)
  { connected with backoff := self.backoff.reset, watch := .pending }.loopTop

/-- A payload was taken from the queue; `raises` is what `write` raises, if it does. -/
def write (self : TcpClientSender) (payload : Bytes) (raises : Option OSError) :
    TcpClientSender :=
  match raises with
  | some error => { self with point := .unwatching (.osError error) }
  | none => { self with point := .draining payload }

def drained (self : TcpClientSender) (payload : Bytes) : TcpClientSender :=
  ({ self with completed := self.completed ++ [payload] }.emit (.send payload.length)).loopTop

end TcpClientSender

inductive ClientAction where
  /-- `start`; `loads` is what reading the CA file raises. -/
  | start (loads : Option String)
  | send (payload : Bytes)
  /-- `open_connection` returns or raises. -/
  | connect (raises : Option NetworkError)
  /-- `disconnect_watch` ends. -/
  | watch (outcome : WatchState)
  /-- The wait for a payload times out. -/
  | idleTimeout
  /-- The wait returns the next payload, which is written. -/
  | get (raises : Option OSError)
  /-- `drain` returns or raises. -/
  | drain (raises : Option NetworkError)
  /-- The cancelled watch is gathered. -/
  | unwatched
  /-- `wait_closed` returns, raises or times out, all of which is suppressed. -/
  | closed
  | slept

namespace TcpClientSender

variable (python : Interpreter)

/-- One step; `none` when the action is not possible. -/
def step (self : TcpClientSender) : ClientAction → Option TcpClientSender
  | .start loads =>
      match self.point with
      | .idle => some (self.enterRun loads)
      | _ => some self
  | .send payload => some { self with
      outbound := self.outbound ++ [payload]
      sent := self.sent ++ [payload] }
  | .connect raises =>
      match self.point, raises with
      | .connecting, none => some self.connected
      | .connecting, some error => some (self.leaveTry python error)
      | _, _ => none
  | .watch outcome =>
      if self.writerOpen ∧ self.watch = .pending then some { self with watch := outcome } else none
  | .idleTimeout =>
      match self.point with
      | .getting => some self.loopTop
      | _ => none
  | .get raises =>
      match self.point, self.outbound with
      | .getting, payload :: outbound => some ({ self with outbound }.write payload raises)
      | _, _ => none
  | .drain raises =>
      match self.point, raises with
      | .draining payload, none => some (self.drained payload)
      | .draining _, some error => some { self with point := .unwatching error }
      | _, _ => none
  | .unwatched =>
      match self.point with
      | .unwatching error => some (self.leaveTry python error)
      | _ => none
  | .closed =>
      match self.point with
      | .closing raised => some (self.closed raised)
      | _ => none
  | .slept =>
      match self.point with
      | .sleeping => some self.attempt
      | _ => none

/-- What a step does, one constructor for each branch. -/
inductive Steps (self : TcpClientSender) : ClientAction → TcpClientSender → Prop where
  | starts (loads : Option String) (idle : self.point = .idle) :
      Steps self (.start loads) (self.enterRun loads)
  | startsNothing (loads : Option String) : Steps self (.start loads) self
  | sends (payload : Bytes) : Steps self (.send payload) { self with
      outbound := self.outbound ++ [payload]
      sent := self.sent ++ [payload] }
  | connects (at_ : self.point = .connecting) : Steps self (.connect none) self.connected
  | connectFails (error : NetworkError) (at_ : self.point = .connecting) :
      Steps self (.connect (some error)) (self.leaveTry python error)
  | watches (outcome : WatchState) : Steps self (.watch outcome) { self with watch := outcome }
  | timesOut (at_ : self.point = .getting) : Steps self .idleTimeout self.loopTop
  | gets (raises : Option OSError) {payload : Bytes} {outbound : List Bytes}
      (at_ : self.point = .getting) (head : self.outbound = payload :: outbound) :
      Steps self (.get raises) ({ self with outbound }.write payload raises)
  | drains {payload : Bytes} (at_ : self.point = .draining payload) :
      Steps self (.drain none) (self.drained payload)
  | drainFails (error : NetworkError) {payload : Bytes} (at_ : self.point = .draining payload) :
      Steps self (.drain (some error)) { self with point := .unwatching error }
  | unwatches {error : NetworkError} (at_ : self.point = .unwatching error) :
      Steps self .unwatched (self.leaveTry python error)
  | closes {raised : Option NetworkError} (at_ : self.point = .closing raised) :
      Steps self .closed (self.closed raised)
  | wakes (at_ : self.point = .sleeping) : Steps self .slept self.attempt

theorem steps_of_step {python : Interpreter} {self next : TcpClientSender} {action : ClientAction}
    (taken : self.step python action = some next) : Steps python self action next := by
  cases action with
  | start loads =>
      simp only [step] at taken
      split at taken
      next idle =>
          cases taken
          exact .starts loads idle
      next =>
          cases taken
          exact .startsNothing loads
  | send payload =>
      cases taken
      exact .sends payload
  | connect raises =>
      simp only [step] at taken
      split at taken
      next at_ =>
          cases taken
          exact .connects at_
      next error at_ =>
          cases taken
          exact .connectFails error at_
      next => cases taken
  | watch outcome =>
      simp only [step] at taken
      split at taken
      next =>
          cases taken
          exact .watches outcome
      next => cases taken
  | idleTimeout =>
      simp only [step] at taken
      split at taken
      next at_ =>
          cases taken
          exact .timesOut at_
      next => cases taken
  | get raises =>
      simp only [step] at taken
      split at taken
      next at_ head =>
          cases taken
          exact .gets raises at_ head
      next => cases taken
  | drain raises =>
      simp only [step] at taken
      split at taken
      next at_ =>
          cases taken
          exact .drains at_
      next error at_ =>
          cases taken
          exact .drainFails error at_
      next => cases taken
  | unwatched =>
      simp only [step] at taken
      split at taken
      next at_ =>
          cases taken
          exact .unwatches at_
      next => cases taken
  | closed =>
      simp only [step] at taken
      split at taken
      next at_ =>
          cases taken
          exact .closes at_
      next => cases taken
  | slept =>
      simp only [step] at taken
      split at taken
      next at_ =>
          cases taken
          exact .wakes at_
      next => cases taken

end TcpClientSender

end TcpSim.Transport
