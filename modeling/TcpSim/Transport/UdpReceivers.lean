import TcpSim.Engine.Framer
import TcpSim.Transport.Base
import Mathlib.Data.Rat.Defs

/-! The UDP receivers: every datagram is a record, cut off at `max_record_bytes`. The client may
drop what does not come from its remote peer, and greets that peer. -/

set_option autoImplicit false

namespace TcpSim.Transport

open Engine

/-- The address of a socket, `(host, port)`. -/
@[ext] structure Address where
  host : String
  port : Int
  deriving DecidableEq, Repr

def Address.src (self : Address) : String := s!"{self.host}:{self.port}"

/-- asyncio's transport of datagrams: the interpreter, and the longest payload that the socket takes,
which is that of IPv4 by default. -/
structure DatagramTransport where
  python : Interpreter
  maxPayload : Nat := 65507

/-- `sendto` puts a datagram on the network. Before Python 3.13 it returns at once for an empty
payload, and one that is too long is an error of the socket. -/
def DatagramTransport.carries (self : DatagramTransport) (payload : Bytes) : Bool :=
  (decide (payload ≠ []) || decide (13 ≤ self.python.minor)) &&
    decide (payload.length ≤ self.maxPayload)

/-- Empty payloads are not sent yet. -/
def python312 : DatagramTransport where
  python := { minor := 12 }

inductive DatagramEvent where
  | receiverListening (host : String) (port : Int) (multicast : Option String)
  | receiverBound (host : String) (port : Int) (remote : Address)
  | receiverStopped
  | recordTruncated (src : String) (bytesLen : Nat)
  | udpHelloSent (remote : Address)
  | udpError (error : String)
  deriving DecidableEq, Repr

structure DatagramCounts where
  recordsReceived : Nat := 0
  bytesReceived : Nat := 0
  truncations : Nat := 0
  /-- Raised by the engine when the sink refuses a record. -/
  recordDrops : Nat := 0
  deriving DecidableEq, Repr

/-- `data[:bound]`; a negative bound counts from the end. -/
def sliceTo (bound : Int) (data : Bytes) : Bytes :=
  if 0 ≤ bound then data.take bound.toNat else data.take (data.length - bound.natAbs)

/-- The record that `_on_datagram` makes of a datagram. -/
def datagramRecord (maxRecordBytes : Int) (data : Bytes) : FramedRecord :=
  if (data.length : Int) > maxRecordBytes then
    { payload := sliceTo maxRecordBytes data, truncated := true }
  else { payload := data, truncated := false }

def DatagramCounts.count (self : DatagramCounts) (data : Bytes) (record : FramedRecord) :
    DatagramCounts :=
  { self with
    bytesReceived := self.bytesReceived + data.length
    recordsReceived := self.recordsReceived + 1
    truncations := self.truncations + record.truncated.toNat }

def truncationEvents (src : String) (record : FramedRecord) : List DatagramEvent :=
  if record.truncated then [.recordTruncated src record.payload.length] else []

/-! ## The server -/

structure UdpServerReceiverConfig where
  host : String := "0.0.0.0"
  port : Int := 5565
  maxRecordBytes : Int := 65535
  multicastGroup : Option String := none
  deriving DecidableEq, Repr

structure UdpServerReceiver where
  config : UdpServerReceiverConfig := {}
  transportOpen : Bool := false
  running : Bool := false
  boundPort : Int := config.port
  counts : DatagramCounts := {}
  events : List DatagramEvent := []

namespace UdpServerReceiver

variable (self : UdpServerReceiver)

def emit (event : DatagramEvent) : UdpServerReceiver :=
  { self with events := self.events ++ [event] }

/-- `start`; the endpoint cannot be created, or it is bound and may tell its port. -/
def start (endpoint : Except String (Option Int)) : UdpServerReceiver :=
  if self.running then self
  else
    match endpoint with
    | .error _ => self
    | .ok sockname =>
        let boundPort := sockname.getD self.boundPort
        { self with transportOpen := true, running := true, boundPort }.emit
          (.receiverListening self.config.host boundPort self.config.multicastGroup)

def stop : UdpServerReceiver :=
  if self.running then
    { self with running := false, transportOpen := false }.emit .receiverStopped
  else self

/-- `_on_datagram`, with what it hands to the callback. -/
def onDatagram (data : Bytes) (addr : Address) : (String × FramedRecord) × UdpServerReceiver :=
  let record := datagramRecord self.config.maxRecordBytes data
  ((addr.src, record), { self with
    counts := self.counts.count data record
    events := self.events ++ truncationEvents addr.src record })

end UdpServerReceiver

/-! ## The client -/

structure UdpClientReceiverConfig where
  host : String
  port : Int
  localHost : String := "0.0.0.0"
  localPort : Int := 0
  maxRecordBytes : Int := 65535
  helloPayload : Option Bytes := none
  helloIntervalSeconds : ℚ := 0
  filterRemotePeer : Bool := false

def UdpClientReceiverConfig.remote (self : UdpClientReceiverConfig) : Address where
  host := self.host
  port := self.port

/-- `_hello_task`: in its sleep, or cancelled by `stop`, which waits for it. -/
inductive HelloTask where
  | sleeping
  | cancelled
  deriving DecidableEq, Repr

structure UdpClientReceiver where
  config : UdpClientReceiverConfig
  transportOpen : Bool := false
  helloTask : Option HelloTask := none
  running : Bool := false
  counts : DatagramCounts := {}
  packetsFiltered : Nat := 0
  events : List DatagramEvent := []
  /-- History: the arguments of `sendto`. -/
  datagrams : List (Bytes × Address) := []

namespace UdpClientReceiver

variable (self : UdpClientReceiver)

def emit (event : DatagramEvent) : UdpClientReceiver :=
  { self with events := self.events ++ [event] }

/-- `hello_payload` when it is truthy: neither `None` nor empty. -/
def hello : Option Bytes := self.config.helloPayload.filter (· ≠ [])

def sendHello : UdpClientReceiver :=
  match self.transportOpen, self.hello with
  | true, some payload =>
      { self with datagrams := self.datagrams ++ [(payload, self.config.remote)] }.emit
        (.udpHelloSent self.config.remote)
  | _, _ => self

/-- The end of `start`: greet, and go on greeting if there is an interval. -/
def startHello : UdpClientReceiver :=
  if self.hello.isSome then
    let greeted := self.sendHello
    if self.config.helloIntervalSeconds > 0 then { greeted with helloTask := some .sleeping }
    else greeted
  else self

def start (endpoint : Except String (Option Int)) : UdpClientReceiver :=
  if self.running then self
  else
    match endpoint with
    | .error _ => self
    | .ok sockname =>
        ({ self with transportOpen := true, running := true }.emit (.receiverBound
          self.config.localHost (sockname.getD self.config.localPort) self.config.remote)).startHello

/-- `_hello_loop` after its sleep. -/
def helloWakes : UdpClientReceiver := if self.running then self.sendHello else self

/-- `stop` after its wait for the hello task. -/
def stopped : UdpClientReceiver :=
  { self with helloTask := none, transportOpen := false }.emit .receiverStopped

/-- `stop`, up to its wait if it has one. -/
def stop : UdpClientReceiver :=
  if self.running then
    if self.helloTask.isSome then { self with running := false, helloTask := some .cancelled }
    else { self with running := false }.stopped
  else self

/-- `_on_datagram`, with what it hands to the callback. -/
def onDatagram (data : Bytes) (addr : Address) :
    Option (String × FramedRecord) × UdpClientReceiver :=
  if self.config.filterRemotePeer ∧
      (addr.host ≠ self.config.host ∨ addr.port ≠ self.config.port) then
    (none, { self with packetsFiltered := self.packetsFiltered + 1 })
  else
    let record := datagramRecord self.config.maxRecordBytes data
    (some (addr.src, record), { self with
      counts := self.counts.count data record
      events := self.events ++ truncationEvents addr.src record })

end UdpClientReceiver

/-! ## Either of them -/

inductive UdpReceiver where
  | server (receiver : UdpServerReceiver)
  | client (receiver : UdpClientReceiver)

namespace UdpReceiver

def transportOpen : UdpReceiver → Bool
  | .server receiver => receiver.transportOpen
  | .client receiver => receiver.transportOpen

def counts : UdpReceiver → DatagramCounts
  | .server receiver => receiver.counts
  | .client receiver => receiver.counts

def packetsFiltered : UdpReceiver → Nat
  | .server _ => 0
  | .client receiver => receiver.packetsFiltered

def emit (self : UdpReceiver) (event : DatagramEvent) : UdpReceiver :=
  match self with
  | .server receiver => .server (receiver.emit event)
  | .client receiver => .client (receiver.emit event)

/-- `stop` has been called and waits for the hello task. -/
def stopWaits : UdpReceiver → Bool
  | .server _ => false
  | .client receiver => receiver.helloTask = some .cancelled

def start (self : UdpReceiver) (endpoint : Except String (Option Int)) : UdpReceiver :=
  match self with
  | .server receiver => .server (receiver.start endpoint)
  | .client receiver => .client (receiver.start endpoint)

def stop : UdpReceiver → UdpReceiver
  | .server receiver => .server receiver.stop
  | .client receiver => .client receiver.stop

/-- The wait of `stop` is over. -/
def stopReturns : UdpReceiver → Option UdpReceiver
  | .client receiver =>
      if receiver.helloTask = some .cancelled then some (.client receiver.stopped) else none
  | .server _ => none

def helloWakes : UdpReceiver → Option UdpReceiver
  | .client receiver =>
      if receiver.helloTask = some .sleeping then some (.client receiver.helloWakes) else none
  | .server _ => none

/-- `set_paused` of either: a datagram cannot be kept waiting. -/
def setPaused (self : UdpReceiver) (_paused : Bool) : UdpReceiver := self

def onDatagram (self : UdpReceiver) (data : Bytes) (addr : Address) :
    Option (String × FramedRecord) × UdpReceiver :=
  match self with
  | .server receiver =>
      let (delivery, receiver) := receiver.onDatagram data addr
      (some delivery, .server receiver)
  | .client receiver =>
      let (delivery, receiver) := receiver.onDatagram data addr
      (delivery, .client receiver)

/-- The engine's `setattr` of `record_drops`. -/
def countDrop : UdpReceiver → UdpReceiver
  | .server receiver =>
      .server { receiver with counts.recordDrops := receiver.counts.recordDrops + 1 }
  | .client receiver =>
      .client { receiver with counts.recordDrops := receiver.counts.recordDrops + 1 }

end UdpReceiver

end TcpSim.Transport
