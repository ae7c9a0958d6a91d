import TcpSim.Engine.Framer

/-! TCP receiver transports: per-peer handlers that read chunks, frame them and
stop reading while paused. A peer's state is where its handler stands between
two awaits; the server has any number of peers, the client one. -/

set_option autoImplicit false

namespace TcpSim.Transport

open Engine

/-- The fields of `TcpServerReceiverConfig` and `TcpClientReceiverConfig` that the
peer loop reads. -/
structure ReceiverConfig where
  framingMode : FramingMode := .lf
  maxRecordBytes : Nat := 1 <<< 20
  readChunkBytes : Nat := 65536
  max_pos : 0 < maxRecordBytes := by decide

inductive CloseReason where
  | eof
  | error (name : String)
  | cancelled
  deriving DecidableEq, Repr

inductive PeerPoint where
  /-- Connected; the loop has not begun. -/
  | connected
  /-- In `_paused.wait()`. -/
  | waiting
  /-- `_paused.wait()` was woken and is about to return, even if the event is
  cleared again before. -/
  | woken
  /-- In `reader.read()`. -/
  | reading
  | closed (reason : CloseReason)
  deriving DecidableEq, Repr

structure Peer where
  src : String
  framer : Framer
  /-- The part of the peer's byte stream that has not been read. -/
  incoming : Bytes
  point : PeerPoint := .connected

/-- A fresh connection; every connection gets a framer of its own. -/
def Peer.connect (config : ReceiverConfig) (src : String) (stream : Bytes) : Peer where
  src := src
  framer := Framer.fresh config.framingMode config.maxRecordBytes config.max_pos
  incoming := stream

/-- The `_paused` event is set: a waiting handler will go on. -/
def Peer.wake (self : Peer) : Peer :=
  if self.point = .waiting then { self with point := .woken } else self

inductive ReceiverEvent where
  | peerConnected (src : String)
  | peerDisconnected (src : String) (reason : CloseReason)
  | recordTruncated (src : String) (bytesLen : Nat)
  | receiverPaused
  | receiverResumed
  deriving DecidableEq, Repr

structure TcpReceiver (P : Nat) where
  config : ReceiverConfig
  peers : Fin P → Peer
  running : Bool := true
  /-- The `_paused` event is cleared. -/
  paused : Bool := false
  recordsReceived : Nat := 0
  bytesReceived : Nat := 0
  truncations : Nat := 0
  events : List ReceiverEvent := []

variable {P : Nat}

/-- A started receiver and the streams its peers are going to send. -/
def TcpReceiver.init (config : ReceiverConfig) (srcs : Fin P → String)
    (streams : Fin P → Bytes) : TcpReceiver P where
  config := config
  peers := fun i => Peer.connect config (srcs i) (streams i)

def TcpReceiver.emit (self : TcpReceiver P) (event : ReceiverEvent) : TcpReceiver P :=
  { self with events := self.events ++ [event] }

/-- Pause or resume reads from every connected peer. -/
def TcpReceiver.setPaused (self : TcpReceiver P) (paused : Bool) : TcpReceiver P :=
  if paused then
    if self.paused then self else { self with paused := true }.emit .receiverPaused
  else
    if self.paused then
      { self with paused := false, peers := fun i => (self.peers i).wake }.emit .receiverResumed
    else self

def TcpReceiver.setPeer (self : TcpReceiver P) (i : Fin P) (peer : Peer) : TcpReceiver P :=
  { self with peers := Function.update self.peers i peer }

def TcpReceiver.setPoint (self : TcpReceiver P) (i : Fin P) (point : PeerPoint) :
    TcpReceiver P :=
  self.setPeer i { self.peers i with point }

/-- The bookkeeping of `_deliver`, before the record is handed on. -/
def TcpReceiver.countRecord (self : TcpReceiver P) (src : String) (record : FramedRecord) :
    TcpReceiver P :=
  let counted := { self with recordsReceived := self.recordsReceived + 1 }
  if record.truncated then
    { counted with truncations := self.truncations + 1 }.emit
      (.recordTruncated src record.payload.length)
  else counted

/-- The top of the loop while the receiver is running: wait if paused, else read. -/
def TcpReceiver.nextRead (self : TcpReceiver P) (i : Fin P) : TcpReceiver P :=
  self.setPoint i (if self.paused then .waiting else .reading)

/-- The chunk is the next `n` bytes of the stream; its records come with the
receiver whose framer has consumed it. -/
def TcpReceiver.takeChunk (self : TcpReceiver P) (i : Fin P) (n : Nat) :
    List FramedRecord × TcpReceiver P :=
  let peer := self.peers i
  let (records, framer) := peer.framer.feed (peer.incoming.take n)
  (records, { self with bytesReceived := self.bytesReceived + n }.setPeer i
    { peer with framer, incoming := peer.incoming.drop n })

/-- The flush after the loop. -/
def TcpReceiver.takeTrailing (self : TcpReceiver P) (i : Fin P) :
    Option FramedRecord × TcpReceiver P :=
  let (trailing, framer) := (self.peers i).framer.flush
  (trailing, self.setPeer i { self.peers i with framer })

/-- The `finally` clause of the handler. -/
def TcpReceiver.disconnect (self : TcpReceiver P) (i : Fin P) (reason : CloseReason) :
    TcpReceiver P :=
  (self.setPoint i (.closed reason)).emit (.peerDisconnected (self.peers i).src reason)

end TcpSim.Transport
