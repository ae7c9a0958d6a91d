import TcpSim.Engine.SinkIntake
import TcpSim.Transport.TcpClientReceiver

/-! The receiver engine over the TCP client that receives, `stop` and another `start` included.
The engine's callback runs while the task delivers the records of one chunk, so a pause takes
effect before the next read. -/

set_option autoImplicit false

namespace TcpSim.Engine

open Transport

/-- Between two operations on the sink its emitted events have been handled:
they are kept here, and the sink's own list is empty. -/
structure ClientEngine where
  transport : TcpClientReceiver
  /-- `_running` of the transport. -/
  running : Bool := false
  /-- `stop` of the transport has cancelled the task and waits for it. -/
  stopping : Bool := false
  sink : SinkWriter
  sinkEvents : List SinkEvent := []

inductive ClientEngineAction where
  /-- An operation on the sink, other than a submission. -/
  | sink (action : SinkAction)
  /-- `start` of the transport; `loads` is what reading the CA file raises. -/
  | start (loads : Option String)
  /-- `open_connection` returns or raises. -/
  | connect (raises : Option NetworkError)
  /-- `_paused.wait()` returns. -/
  | wake
  | read (chunk : Bytes)
  | readFails (error : OSError)
  | slept
  /-- `stop` of the transport, up to its wait for the task. -/
  | stop
  /-- The cancellation reaches the task, and `stop` returns. -/
  | cancelled

namespace ClientEngine

variable (self : ClientEngine)

def init (config : TcpClientReceiverConfig) (cfg : SinkConfig) (files : String → Option Bytes) :
    ClientEngine where
  transport := TcpClientReceiver.init config
  sink := SinkWriter.init cfg files

/-- `_handle_sink_event`, as far as it concerns the transport. -/
def handleSinkEvent (transport : TcpClientReceiver) : SinkEvent → TcpClientReceiver
  | .highWatermark _ => transport.setPaused true
  | .lowWatermark _ => transport.setPaused false
  | _ => transport

/-- Take over the sink after an operation and handle the events it emitted. -/
def takeSink (sink : SinkWriter) : ClientEngine :=
  { self with
    transport := sink.file.events.foldl handleSinkEvent self.transport
    sink := { sink with file := { sink.file with events := [] } }
    sinkEvents := self.sinkEvents ++ sink.file.events }

/-- `_handle_record`; a TCP transport has no drop counter to update. -/
def handleRecord (src : String) (record : FramedRecord) : ClientEngine :=
  self.takeSink (self.sink.submit record src).2

/-- `_deliver` of the transport, with the engine's callback. -/
def deliver (record : FramedRecord) : ClientEngine :=
  { self with transport := self.transport.deliver record }.handleRecord self.transport.src record

def deliverAll (records : List FramedRecord) : ClientEngine := records.foldl deliver self

/-- After the inner loop: the rest of the framer, the `finally` clause and the delay. -/
def disconnected (reason : String) : ClientEngine :=
  let (trailing, framer) := self.transport.framer.flush
  let flushed := { self with transport := { self.transport with framer } }.deliverAll trailing.toList
  let transport := flushed.transport
  let closed := { transport with
    connectedEvent := false
    reconnectCount := transport.reconnectCount + 1 }.emit
      (.receiverDisconnected self.transport.src reason)
  { flushed with transport := closed.sleep reason }

/-- `read` returned; an empty chunk is the end of the stream. -/
def received (chunk : Bytes) : ClientEngine :=
  if chunk = [] then self.disconnected "eof"
  else
    let (records, framer) := self.transport.framer.feed chunk
    let transport := { self.transport with
      bytesReceived := self.transport.bytesReceived + chunk.length
      framer }
    let delivered := { self with transport }.deliverAll records
    { delivered with transport := delivered.transport.nextRead }

/-- The task is between two reads of a connection. -/
def inConnection : ClientReceiverPoint → Bool
  | .waiting => true
  | .woken => true
  | .reading => true
  | _ => false

/-- A task that has ended with an exception makes `stop` raise it; any other is cancelled. -/
def stop : ClientEngine :=
  if self.running then
    match self.transport.point with
    | .unusable _ => { self with running := false }
    | .died _ => { self with running := false }
    | _ => { self with running := false, stopping := true }
  else self

/-- The task ends where it waits; in a connection the `finally` clause runs, but what the framer
holds is not flushed. -/
def cancel : ClientEngine :=
  let transport := self.transport
  if inConnection transport.point then
    { self with
      stopping := false
      transport := { transport with point := .idle, connectedEvent := false }.emit
        (.receiverDisconnected transport.src "eof") }
  else { self with stopping := false, transport := { transport with point := .idle } }

/-- One step of the transport's task, with the engine's callbacks. -/
def turn (python : Interpreter) : ClientEngineAction → Option ClientEngine
  | .connect raises =>
      match self.transport.point, raises with
      | .connecting, none => some { self with transport := self.transport.connected }
      | .connecting, some error =>
          some { self with transport := self.transport.connectFailed python error }
      | _, _ => none
  | .wake =>
      match self.transport.point with
      | .woken => some { self with transport := { self.transport with point := .reading } }
      | _ => none
  | .read chunk =>
      match self.transport.point with
      | .reading => some (self.received chunk)
      | _ => none
  | .readFails error =>
      match self.transport.point with
      | .reading => some (self.disconnected ("error:" ++ error.className))
      | _ => none
  | .slept =>
      match self.transport.point with
      | .sleeping => some { self with transport := self.transport.attempt }
      | _ => none
  | _ => none

/-- One step; `none` when the action is not possible. Once cancelled the task does nothing more,
and the engine does not start a transport whose `stop` has not returned. -/
def step (python : Interpreter) (self : ClientEngine) : ClientEngineAction → Option ClientEngine
  | .sink action =>
      if action.submission.isSome then none else (self.sink.step action).map self.takeSink
  | .start loads =>
      if self.stopping then none
      else if self.running then some self
      else some { self with running := true, transport := self.transport.enterRun loads }
  | .stop => some self.stop
  | .cancelled => if self.stopping then some self.cancel else none
  | action => if self.stopping then none else self.turn python action

end ClientEngine

end TcpSim.Engine
