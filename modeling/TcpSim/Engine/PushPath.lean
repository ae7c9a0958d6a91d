import TcpSim.Engine.LineDelivery
import TcpSim.Engine.PeerReception
import TcpSim.Transport.WrittenPayloads

/-! From a sending client to a receiving server, the other way round: the client connects again and
again, and the server has each of its connections as a peer of its own, among others. A connection
carries what has been written to it in that order; how much of it arrives is open. -/

set_option autoImplicit false

namespace TcpSim.Engine

open Transport

variable {P : Nat}

namespace PushPath

/-- What the server makes of one of the client's connections: the lines of what its handler has read,
and in the sink some of them. -/
structure Arrives (config : ReceiverConfig) (receiver : ReceiverEngine P) (i : Fin P)
    (written : List Bytes) (session : Session) (count : Nat) (tail : Bytes) : Prop where
  lines : LinesOf config (linesOf written) session count tail
  stored : (receiver.recordsFrom (receiver.transport.peers i).src).Sublist (session.records config)

theorem arrives_of_received {config : ReceiverConfig} (lf : config.framingMode = .lf)
    {streams : Fin P → Bytes} {sizes : Fin P → List Nat} {offered : List QueueItem} {ignored : Nat}
    {receiver : ReceiverEngine P}
    (received : ReceiverEngine.Received config streams sizes offered ignored receiver)
    {i : Fin P} {written : List Bytes}
    (areLines : ∀ text ∈ written, IsTextLine config.maxRecordBytes text)
    (carried : streams i <+: written.flatten) :
    ∃ count tail, Arrives config receiver i written (receiver.sessionIn streams sizes i) count
      tail := by
  obtain ⟨count, tail, lines⟩ := Session.records_of_texts lf areLines
    ((received.handled i).chunks_part.trans carried)
  exact ⟨count, tail, lines, received.recordsFrom i⟩

/-- Of the payloads that were given to `send`, each is written on at most one connection, in their
order. The server finds in what it reads of a connection the lines written there, the first ones
whole and perhaps one more cut off by the end of the connection; it counts the records of all peers,
and what its sink has of each is in order. -/
theorem lines_pushed {python : Interpreter} (connecting : TcpClientConfig)
    {sends : List ClientAction} {pushing : PushingClient}
    (pushes : Runs.run (PushingClient.step python) (.init connecting) sends = some pushing)
    (config : ReceiverConfig) (lf : config.framingMode = .lf)
    (areLines : ∀ text ∈ pushing.client.sent, IsTextLine config.maxRecordBytes text)
    {srcs : Fin P → String} (distinct : Function.Injective srcs) (sourced : ∀ i, srcs i ≠ "")
    (streams : Fin P → Bytes) (cfg : SinkConfig) (files : String → Option Bytes)
    {actions : List (EngineAction P)} {receiver : ReceiverEngine P}
    (apart : ∀ action ∈ actions, action.FromPeers)
    (ran : Runs.run ReceiverEngine.step
      (ReceiverEngine.init (TcpReceiver.init config srcs streams) cfg files) actions =
        some receiver) :
    let session := receiver.sessionOf streams actions
    pushing.client.sent =
        pushing.connections.flatMap Outgoing.taken ++ pushing.client.outbound ∧
      pushing.client.completed.Sublist (pushing.connections.flatMap Outgoing.written) ∧
      (∀ i, (session i).chunks.flatten ++ (receiver.transport.peers i).incoming = streams i) ∧
      receiver.transport.recordsReceived = ∑ i, ((session i).records config).length ∧
      ∀ i, ∀ connection ∈ pushing.connections, streams i <+: connection.written.flatten →
        ∃ count tail, Arrives config receiver i connection.written (session i) count tail := by
  have pushed := PushingClient.pushed_run pushes
  obtain ⟨_, _, received⟩ := ReceiverEngine.received_run distinct sourced apart ran
  refine ⟨pushed.queue, (List.sublist_append_left _ _).trans pushed.drained,
    fun i => (received.handled i).consumed, received.recordsReceived, ?_⟩
  intro i connection member carried
  refine arrives_of_received lf received ?_ carried
  intro text inside
  exact areLines text ((pushed.written_infix member).subset inside)

/-! The connection breaks in the middle of the second line, the third one is written on the next
connection; another peer sends something else at the same time. -/

def breaksOnce : List ClientAction :=
  [.start none, .send [0x31, 0x0A], .send [0x32, 0x32, 0x0A], .send [0x33, 0x0A], .connect none,
    .get none, .drain none, .get none,
    .drain (some (.osError ⟨"ConnectionResetError", "Connection lost"⟩)), .unwatched, .closed,
    .slept, .connect none, .get none]

def threeSources (i : Fin 3) : String := if i = 0 then "a:1" else if i = 1 then "b:2" else "a:3"

def threeStreams (i : Fin 3) : Bytes :=
  if i = 0 then [0x31, 0x0A, 0x32] else if i = 1 then [0x78, 0x0A] else [0x33, 0x0A]

def receives : List (EngineAction 3) :=
  [.sink .start, .sink (.begin []), .connect 0, .connect 1, .read 0 2, .read 1 2, .read 0 1,
    .readError 0 "ConnectionResetError", .connect 2, .read 2 2, .sink (.drain "t" [] []),
    .sink (.drain "t" [] [])]

theorem lines_pushed_breaks_once : ∃ (pushing : PushingClient) (receiver : ReceiverEngine 3),
    pushing.connections.map Outgoing.written = [[[0x31, 0x0A], [0x32, 0x32, 0x0A]], [[0x33, 0x0A]]] ∧
      (receiver.recordsFrom "a:1").map FramedRecord.payload = [[0x31], [0x32]] ∧
      (receiver.recordsFrom "a:3").map FramedRecord.payload = [[0x33]] ∧
      pushing.client.sent =
        pushing.connections.flatMap Outgoing.taken ++ pushing.client.outbound ∧
      pushing.client.completed.Sublist (pushing.connections.flatMap Outgoing.written) ∧
      (∀ i, (receiver.sessionOf threeStreams receives i).chunks.flatten ++
        (receiver.transport.peers i).incoming = threeStreams i) ∧
      receiver.transport.recordsReceived =
        ∑ i, ((receiver.sessionOf threeStreams receives i).records {}).length ∧
      ∀ i, ∀ connection ∈ pushing.connections, threeStreams i <+: connection.written.flatten →
        ∃ count tail, Arrives {} receiver i connection.written
          (receiver.sessionOf threeStreams receives i) count tail := by
  have pushes : (Runs.run (PushingClient.step { minor := 11 })
      (.init { host := "s", port := 1 }) breaksOnce).map (fun pushing =>
        (pushing.connections.map Outgoing.written, pushing.client.sent)) =
      some ([[[0x31, 0x0A], [0x32, 0x32, 0x0A]], [[0x33, 0x0A]]],
        [[0x31, 0x0A], [0x32, 0x32, 0x0A], [0x33, 0x0A]]) := by decide +kernel
  have stores : (Runs.run ReceiverEngine.step
      (ReceiverEngine.init (TcpReceiver.init {} threeSources threeStreams) loggingSink fun _ => none)
      receives).map (fun receiver => ((receiver.recordsFrom "a:1").map FramedRecord.payload,
        (receiver.recordsFrom "a:3").map FramedRecord.payload)) =
      some ([[0x31], [0x32]], [[0x33]]) := by decide +kernel
  obtain ⟨pushing, pushes, known⟩ := Option.map_eq_some_iff.mp pushes
  obtain ⟨receiver, ran, stored⟩ := Option.map_eq_some_iff.mp stores
  obtain ⟨connections, sent⟩ := Prod.mk.inj known
  obtain ⟨first, second⟩ := Prod.mk.inj stored
  refine ⟨pushing, receiver, connections, first, second, lines_pushed { host := "s", port := 1 }
    pushes {} rfl ?_ ?_ (by decide) threeStreams loggingSink (fun _ => none) (by decide) ran⟩
  · rw [sent]
    simp only [List.forall_mem_cons]
    refine ⟨⟨[0x31], rfl, by decide, by decide⟩, ⟨[0x32, 0x32], rfl, by decide, by decide⟩,
      ⟨[0x33], rfl, by decide, by decide⟩, List.forall_mem_nil _⟩
  · intro left right
    revert left right
    decide

end PushPath

end TcpSim.Engine
