import TcpSim.Engine.SinkWriter
import TcpSim.Transport.TcpReceiver

/-! The receiver engine: records of the transport go to the sink, and the sink's
watermark events pause and resume the transport. -/

set_option autoImplicit false

namespace TcpSim.Engine

open Transport

variable {P : Nat}

/-- Between two operations on the sink its emitted events have been handled:
they are kept here, and the sink's own list is empty. -/
structure ReceiverEngine (P : Nat) where
  transport : TcpReceiver P
  sink : SinkWriter
  sinkEvents : List SinkEvent := []

def ReceiverEngine.init (transport : TcpReceiver P) (cfg : SinkConfig)
    (files : String → Option Bytes) : ReceiverEngine P where
  transport := transport
  sink := SinkWriter.init cfg files

/-- `_handle_sink_event`, as far as it concerns the transport. -/
def handleSinkEvent (transport : TcpReceiver P) : SinkEvent → TcpReceiver P
  | .highWatermark _ => transport.setPaused true
  | .lowWatermark _ => transport.setPaused false
  | _ => transport

/-- Take over the sink after an operation and handle the events it emitted. -/
def ReceiverEngine.takeSink (self : ReceiverEngine P) (sink : SinkWriter) : ReceiverEngine P where
  transport := sink.file.events.foldl handleSinkEvent self.transport
  sink := { sink with file := { sink.file with events := [] } }
  sinkEvents := self.sinkEvents ++ sink.file.events

/-- `_handle_record`; a TCP transport has no drop counter to update. -/
def ReceiverEngine.handleRecord (self : ReceiverEngine P) (src : String)
    (record : FramedRecord) : ReceiverEngine P :=
  self.takeSink (self.sink.submit record src).2

/-- `_deliver` of the transport, with the engine's callback. -/
def ReceiverEngine.deliver (self : ReceiverEngine P) (src : String) (record : FramedRecord) :
    ReceiverEngine P :=
  { self with transport := self.transport.countRecord src record }.handleRecord src record

def ReceiverEngine.deliverAll (self : ReceiverEngine P) (src : String)
    (records : List FramedRecord) : ReceiverEngine P :=
  records.foldl (fun engine record => engine.deliver src record) self

/-- Flush the framer and deliver the trailing record. -/
def ReceiverEngine.trailingRead (self : ReceiverEngine P) (i : Fin P) : ReceiverEngine P :=
  let (trailing, transport) := self.transport.takeTrailing i
  { self with transport }.deliverAll (self.transport.peers i).src trailing.toList

/-- The handler after its loop. -/
def ReceiverEngine.finishPeer (self : ReceiverEngine P) (i : Fin P) (reason : CloseReason) :
    ReceiverEngine P :=
  let flushed := self.trailingRead i
  { flushed with transport := flushed.transport.disconnect i reason }

def ReceiverEngine.turnPeer (self : ReceiverEngine P) (i : Fin P) : ReceiverEngine P :=
  if self.transport.running then { self with transport := self.transport.nextRead i }
  else self.finishPeer i .eof

/-- Feed a chunk of `n` bytes to the framer and deliver its records. -/
def ReceiverEngine.chunkRead (self : ReceiverEngine P) (i : Fin P) (n : Nat) :
    ReceiverEngine P :=
  let (records, transport) := self.transport.takeChunk i n
  { self with transport }.deliverAll (self.transport.peers i).src records

/-- A completed read of `n` bytes, up to the handler's next await. -/
def ReceiverEngine.readPeer (self : ReceiverEngine P) (i : Fin P) (n : Nat) :
    ReceiverEngine P :=
  (self.chunkRead i n).turnPeer i

inductive EngineAction (P : Nat) where
  /-- An operation on the sink: by its drain task, the controller or a callback. -/
  | sink (action : SinkAction)
  | connect (i : Fin P)
  /-- `_paused.wait()` returns. -/
  | wake (i : Fin P)
  /-- `reader.read()` returns `n` bytes. -/
  | read (i : Fin P) (n : Nat)
  /-- `reader.read()` returns no byte: the stream is at its end. -/
  | eof (i : Fin P)
  | readError (i : Fin P) (name : String)
  /-- The transport's `stop`: no further turns, then the handlers are cancelled. -/
  | stopTransport
  | cancel (i : Fin P)
  /-- The client connects again, to a new stream. -/
  | reconnect (i : Fin P) (stream : Bytes)

def ReceiverEngine.step (self : ReceiverEngine P) : EngineAction P → Option (ReceiverEngine P)
  | .sink action => (self.sink.step action).map self.takeSink
  | .connect i =>
      if (self.transport.peers i).point = .connected then
        let transport := self.transport.emit (.peerConnected (self.transport.peers i).src)
        some ({ self with transport }.turnPeer i)
      else none
  | .wake i =>
      if (self.transport.peers i).point = .woken then
        some { self with transport := self.transport.setPoint i .reading }
      else none
  | .read i n =>
      if (self.transport.peers i).point = .reading ∧ 0 < n ∧
          n ≤ self.transport.config.readChunkBytes ∧
          n ≤ (self.transport.peers i).incoming.length then
        some (self.readPeer i n)
      else none
  | .eof i =>
      if (self.transport.peers i).point = .reading ∧
          ((self.transport.peers i).incoming = [] ∨
            self.transport.config.readChunkBytes = 0) then
        some (self.finishPeer i .eof)
      else none
  | .readError i name =>
      if (self.transport.peers i).point = .reading then
        some (self.finishPeer i (.error name))
      else none
  | .stopTransport => some { self with transport := { self.transport with running := false } }
  | .cancel i =>
      match self.transport.running, (self.transport.peers i).point with
      | true, _ => none
      | false, .closed _ => none
      | false, _ => some { self with transport := self.transport.disconnect i .cancelled }
  | .reconnect i stream =>
      match self.transport.running, (self.transport.peers i).point with
      | true, .closed _ =>
          let peer := Peer.connect self.transport.config (self.transport.peers i).src stream
          some { self with transport := self.transport.setPeer i peer }
      | _, _ => none

/-- What a step does, one constructor for each branch. -/
inductive ReceiverEngine.Steps (self : ReceiverEngine P) :
    EngineAction P → ReceiverEngine P → Prop where
  | sink {action : SinkAction} {sink : SinkWriter} (taken : self.sink.step action = some sink) :
      Steps self (.sink action) (self.takeSink sink)
  | connects (i : Fin P) (connected : (self.transport.peers i).point = .connected) :
      Steps self (.connect i) ({ self with
        transport := self.transport.emit (.peerConnected (self.transport.peers i).src) }.turnPeer i)
  | wakes (i : Fin P) (woken : (self.transport.peers i).point = .woken) :
      Steps self (.wake i) { self with transport := self.transport.setPoint i .reading }
  | reads (i : Fin P) (n : Nat) (reading : (self.transport.peers i).point = .reading)
      (nonempty : 0 < n) (small : n ≤ self.transport.config.readChunkBytes)
      (there : n ≤ (self.transport.peers i).incoming.length) :
      Steps self (.read i n) (self.readPeer i n)
  | ends (i : Fin P) (reading : (self.transport.peers i).point = .reading)
      (nothing : (self.transport.peers i).incoming = [] ∨
        self.transport.config.readChunkBytes = 0) :
      Steps self (.eof i) (self.finishPeer i .eof)
  | fails (i : Fin P) (name : String) (reading : (self.transport.peers i).point = .reading) :
      Steps self (.readError i name) (self.finishPeer i (.error name))
  | stopsTransport :
      Steps self .stopTransport { self with transport := { self.transport with running := false } }
  | cancels (i : Fin P) (stopped : self.transport.running = false)
      (isOpen : ∀ reason, (self.transport.peers i).point ≠ .closed reason) :
      Steps self (.cancel i) { self with transport := self.transport.disconnect i .cancelled }
  | reconnects (i : Fin P) (stream : Bytes) {reason : CloseReason}
      (running : self.transport.running = true)
      (closed : (self.transport.peers i).point = .closed reason) :
      Steps self (.reconnect i stream) { self with
        transport := self.transport.setPeer i
          (Peer.connect self.transport.config (self.transport.peers i).src stream) }

theorem ReceiverEngine.steps_of_step {self next : ReceiverEngine P} {action : EngineAction P}
    (taken : self.step action = some next) : self.Steps action next := by
  cases action with
  | sink action =>
      obtain ⟨sink, sinkTaken, rfl⟩ := Option.map_eq_some_iff.mp taken
      exact .sink sinkTaken
  | connect i =>
      simp only [ReceiverEngine.step] at taken
      split at taken
      next connected =>
          cases taken
          exact .connects i connected
      next => cases taken
  | wake i =>
      simp only [ReceiverEngine.step] at taken
      split at taken
      next woken =>
          cases taken
          exact .wakes i woken
      next => cases taken
  | read i n =>
      simp only [ReceiverEngine.step] at taken
      split at taken
      next possible =>
          obtain ⟨reading, nonempty, small, there⟩ := possible
          cases taken
          exact .reads i n reading nonempty small there
      next => cases taken
  | eof i =>
      simp only [ReceiverEngine.step] at taken
      split at taken
      next possible =>
          cases taken
          exact .ends i possible.1 possible.2
      next => cases taken
  | readError i name =>
      simp only [ReceiverEngine.step] at taken
      split at taken
      next reading =>
          cases taken
          exact .fails i name reading
      next => cases taken
  | stopTransport =>
      cases taken
      exact .stopsTransport
  | cancel i =>
      simp only [ReceiverEngine.step] at taken
      split at taken
      next => cases taken
      next => cases taken
      next stopped isOpen =>
          cases taken
          exact .cancels i stopped isOpen
  | reconnect i stream =>
      simp only [ReceiverEngine.step] at taken
      split at taken
      next running closed =>
          cases taken
          exact .reconnects i stream running closed
      next => cases taken

end TcpSim.Engine
