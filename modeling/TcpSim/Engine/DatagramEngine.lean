import TcpSim.Engine.SinkIntake
import TcpSim.Transport.UdpReceivers

/-! The receiver engine over a UDP receiver. Its `set_paused` does nothing, so that a full sink
never slows reception down: what does not fit into the queue is dropped and counted. -/

set_option autoImplicit false

namespace TcpSim.Engine

open Transport

/-- Between two operations on the sink its emitted events have been handled:
they are kept here, and the sink's own list is empty. -/
structure DatagramEngine where
  receiver : UdpReceiver
  sink : SinkWriter
  sinkEvents : List SinkEvent := []

inductive DatagramAction where
  /-- An operation on the sink, other than a submission. -/
  | sink (action : SinkAction)
  /-- `start` of the transport; the endpoint fails, or is bound and may tell its port. -/
  | start (endpoint : Except String (Option Int))
  | datagram (data : Bytes) (addr : Address)
  | errorReceived (error : String)
  /-- The hello task wakes up. -/
  | helloWakes
  /-- `stop` of the transport, up to its wait for the hello task if there is one. -/
  | stop
  | stopReturns

namespace DatagramEngine

variable (self : DatagramEngine)

def init (receiver : UdpReceiver) (cfg : SinkConfig) (files : String → Option Bytes) :
    DatagramEngine where
  receiver := receiver
  sink := SinkWriter.init cfg files

/-- `_handle_sink_event`, as far as it concerns the transport. -/
def handleSinkEvent (receiver : UdpReceiver) : SinkEvent → UdpReceiver
  | .highWatermark _ => receiver.setPaused true
  | .lowWatermark _ => receiver.setPaused false
  | _ => receiver

/-- Take over the sink after an operation and handle the events it emitted. -/
def takeSink (sink : SinkWriter) : DatagramEngine where
  receiver := sink.file.events.foldl handleSinkEvent self.receiver
  sink := { sink with file := { sink.file with events := [] } }
  sinkEvents := self.sinkEvents ++ sink.file.events

/-- `_handle_record`. -/
def handleRecord (src : String) (record : FramedRecord) : DatagramEngine :=
  let (submitted, sink) := self.sink.submit record src
  let taken := self.takeSink sink
  if submitted then taken else { taken with receiver := taken.receiver.countDrop }

/-- `_on_datagram` with the engine's callback. -/
def onDatagram (data : Bytes) (addr : Address) : DatagramEngine :=
  match self.receiver.onDatagram data addr with
  | (none, receiver) => { self with receiver }
  | (some (src, record), receiver) => { self with receiver }.handleRecord src record

/-- One step; `none` when the action is not possible. The engine does not start a transport
whose `stop` has not returned. -/
def step (self : DatagramEngine) : DatagramAction → Option DatagramEngine
  | .sink action =>
      if action.submission.isSome then none else (self.sink.step action).map self.takeSink
  | .start endpoint =>
      if self.receiver.stopWaits then none
      else some { self with receiver := self.receiver.start endpoint }
  | .datagram data addr =>
      if self.receiver.transportOpen then some (self.onDatagram data addr) else none
  | .errorReceived error =>
      if self.receiver.transportOpen then
        some { self with receiver := self.receiver.emit (.udpError error) }
      else none
  | .helloWakes => self.receiver.helloWakes.map fun receiver => { self with receiver }
  | .stop => some { self with receiver := self.receiver.stop }
  | .stopReturns => self.receiver.stopReturns.map fun receiver => { self with receiver }

end DatagramEngine

end TcpSim.Engine
