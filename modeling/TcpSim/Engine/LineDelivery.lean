import TcpSim.Engine.ClientReception
import TcpSim.Transport.LateJoiners
import TcpSim.Transport.WrittenStreams

/-! Lines from a broadcasting server to a receiving client: the client's connections are some of
the server's, and what it reads from one is what has been written to it, or less. -/

set_option autoImplicit false

namespace TcpSim.Engine

open Transport Splitting

variable {ι τ : Type} {python : Interpreter}

/-! ## Short records -/

/-- As long as no record in progress gets over the cap, the framer emits the pieces and holds the
tail. -/
theorem Framer.feedAll_of_short {sep : Separator UInt8} {mode : FramingMode}
    (separated : separators mode = some sep) {max : Nat} (max_pos : 0 < max) {chunks : List Bytes}
    (short : ∀ front, front <+: chunks.flatten → (pieces sep front).2.length ≤ max) :
    (Framer.fresh mode max max_pos).feedAll chunks =
      ((pieces sep chunks.flatten).1.map (referenceRecord max),
        { Framer.fresh mode max max_pos with buf := (pieces sep chunks.flatten).2 }) := by
  induction chunks using List.reverseRecOn with
  | nil =>
      rw [List.flatten_nil, pieces_nil]
      rfl
  | append_singleton chunks chunk ih =>
      have before := ih fun front initialPart => short front
        (initialPart.trans (by simp [List.flatten_append]))
      have fits := short _ List.prefix_rfl
      rw [Framer.feedAll_append_singleton, before]
      rw [List.flatten_append, List.flatten_singleton] at fits ⊢
      by_cases empty : chunk = []
      · simp [empty]
      · rw [pieces_append] at fits ⊢
        have fed := @Framer.feed_of_clear
          { Framer.fresh mode max max_pos with buf := (pieces sep chunks.flatten).2 } sep chunk
          separated rfl empty
        have settled := @Framer.settle_of_le
          { Framer.fresh mode max max_pos with buf := (pieces sep chunks.flatten).2 } sep
          ((pieces sep chunks.flatten).2 ++ chunk) fits
        rw [fed.trans settled, List.map_append]
        rfl

/-- A session that has read an initial part of a stream of lines: the first ones as a whole, and of
the next one the tail, which is a record only where the connection ended. -/
structure LinesOf (config : ReceiverConfig) (lines : List Bytes) (session : Session)
    (count : Nat) (tail : Bytes) : Prop where
  read : session.chunks.flatten = ((lines.take count).map (· ++ [0x0A])).flatten ++ tail
  begun : tail = [] ∨ ∃ line, lines[count]? = some line ∧ tail <+: line
  records : session.records config =
    (lines.take count ++ if session.ended = true ∧ tail ≠ [] then [tail] else []).map
      fun line => { payload := line, truncated := false }

theorem Session.records_of_lines {config : ReceiverConfig} (lf : config.framingMode = .lf)
    {lines : List Bytes} (absent : ∀ line ∈ lines, (0x0A : UInt8) ∉ line)
    (fits : ∀ line ∈ lines, line.length ≤ config.maxRecordBytes) {session : Session}
    (initialPart : session.chunks.flatten <+: (lines.map (· ++ [0x0A])).flatten) :
    ∃ count tail, LinesOf config lines session count tail := by
  have single : lfSeparator.symbols = [0x0A] := rfl
  have arrived (front : Bytes) (part : front <+: session.chunks.flatten) :=
    pieces_of_prefix single absent (part.trans initialPart)
  have short : ∀ front, front <+: session.chunks.flatten →
      (pieces lfSeparator front).2.length ≤ config.maxRecordBytes := by
    intro front part
    obtain ⟨count, tail, split, shape⟩ := arrived front part
    rw [split]
    rcases shape with rfl | ⟨line, found, within⟩
    · exact Nat.zero_le _
    · exact within.length_le.trans (fits line (List.mem_of_getElem? found))
  obtain ⟨count, tail, split, shape⟩ := arrived _ List.prefix_rfl
  have read := pieces_join lfSeparator session.chunks.flatten
  rw [split, single] at read
  refine ⟨count, tail, read.symm, shape, ?_⟩
  have separated : separators config.framingMode = some lfSeparator := by
    rw [lf]
    rfl
  have fed := Framer.feedAll_of_short separated config.max_pos short
  rw [split] at fed
  have whole : ∀ line : Bytes, line.length ≤ config.maxRecordBytes →
      referenceRecord config.maxRecordBytes line = { payload := line, truncated := false } :=
    fun line small => referenceRecord_of_le small
  have first : (lines.take count).map (referenceRecord config.maxRecordBytes) =
      (lines.take count).map fun line => { payload := line, truncated := false } :=
    List.map_congr_left fun line member => whole line (fits line (List.mem_of_mem_take member))
  rw [first] at fed
  cases ended : session.ended with
  | false =>
      rw [Session.records, ended, fed]
      simp
  | true =>
      have flushed := @Framer.flush_of_clear { Framer.fresh config.framingMode
        config.maxRecordBytes config.max_pos with buf := tail } lfSeparator separated rfl
      have records : session.records config =
          ((lines.take count).map fun line => { payload := line, truncated := false }) ++
            (if tail = [] then none
              else some (referenceRecord config.maxRecordBytes tail)).toList := by
        unfold Session.records
        rw [if_pos ended, Framer.frame_eq_feedAll, fed]
        rw [flushed]
        rfl
      rw [records]
      by_cases empty : tail = []
      · simp [empty]
      · obtain ⟨line, found, within⟩ := shape.resolve_left empty
        have small := within.length_le.trans (fits line (List.mem_of_getElem? found))
        simp [empty, whole tail small]

/-! ## Lines with their terminators -/

/-- A line that is not too long, with its terminator. -/
def IsTextLine (max : Nat) (text : Bytes) : Prop :=
  ∃ body, text = body ++ [0x0A] ∧ (0x0A : UInt8) ∉ body ∧ body.length ≤ max

/-- The lines without their terminators. -/
def linesOf (texts : List Bytes) : List Bytes := texts.map List.dropLast

section Texts

variable {max : Nat} {texts : List Bytes} (areLines : ∀ text ∈ texts, IsTextLine max text)

include areLines

theorem linesOf_terminated : (linesOf texts).map (· ++ [0x0A]) = texts := by
  rw [linesOf, List.map_map]
  refine (List.map_congr_left ?_).trans (List.map_id _)
  intro text member
  obtain ⟨body, rfl, _⟩ := areLines text member
  simp

theorem linesOf_line {line : Bytes} (member : line ∈ linesOf texts) :
    (0x0A : UInt8) ∉ line ∧ line.length ≤ max := by
  obtain ⟨text, inside, rfl⟩ := List.mem_map.mp member
  obtain ⟨body, rfl, absent, small⟩ := areLines text inside
  rw [List.dropLast_concat]
  exact ⟨absent, small⟩

end Texts

theorem Session.records_of_texts {config : ReceiverConfig} (lf : config.framingMode = .lf)
    {texts : List Bytes} (areLines : ∀ text ∈ texts, IsTextLine config.maxRecordBytes text)
    {session : Session} (part : session.chunks.flatten <+: texts.flatten) :
    ∃ count tail, LinesOf config (linesOf texts) session count tail := by
  rw [← linesOf_terminated areLines] at part
  exact Session.records_of_lines lf (fun line inside => (linesOf_line areLines inside).1)
    (fun line inside => (linesOf_line areLines inside).2) part

/-! ## Server and client -/

/-- A connection, as the server numbers it, and what the client has made of it. -/
structure Link where
  connection : Nat
  session : Session := {}

structure LineDelivery (ι τ : Type) where
  server : System ι τ
  client : ClientEngine
  links : List Link := []

inductive DeliveryAction (ι τ : Type) where
  /-- Something that does not concern the client's connection; other clients may connect. -/
  | server (action : ServerAction ι τ)
  | client (action : ClientEngineAction)
  /-- The client's connection is made; the server knows it by this name. -/
  | connect (id : ι)
  /-- Bytes arrive, or the end of the stream. -/
  | read (chunk : Bytes)

namespace Link

def update (change : Session → Session) (link : Link) : Link :=
  { link with session := change link.session }

theorem sessions_modifyLast (change : Session → Session) (links : List Link) :
    (links.modifyLast (update change)).map session = (links.map session).modifyLast change := by
  rcases List.eq_nil_or_concat links with rfl | ⟨past, link, rfl⟩
  · rfl
  · simp [List.modifyLast_concat, update]

/-- The links after an action of the client's own. -/
def after (links : List Link) : ClientEngineAction → List Link
  | .readFails _ => links.modifyLast (update Session.fail)
  | _ => links

end Link

namespace LineDelivery

variable [DecidableEq ι]

/-- What has been written to a connection. -/
def stream (server : System ι τ) (connection : Nat) : Bytes :=
  match server.shared.connectionManager.states[connection]? with
  | none => []
  | some state => (state.writer.written.map Payload.bytes).flatten

/-- One step; `none` when the action is not possible. Bytes arrive in the order in which they were
written; how many of them, and whether the rest gets lost with the connection, is open. -/
def step (python : Interpreter) (self : LineDelivery ι τ) :
    DeliveryAction ι τ → Option (LineDelivery ι τ)
  | .server action => (self.server.step action).map fun server => { self with server }
  | .client action =>
      match action with
      | .connect none => none
      | .read _ => none
      | _ => (self.client.step python action).map fun client =>
          { self with client, links := Link.after self.links action }
  | .connect id => do
      let server ← self.server.step (.connect id)
      let client ← self.client.step python (.connect none)
      let connection := self.server.shared.connectionManager.states.length
      return { server, client, links := self.links ++ [{ connection }] }
  | .read chunk => do
      let link ← self.links.getLast?
      if link.session.chunks.flatten ++ chunk <+: stream self.server link.connection then
        let client ← self.client.step python (.read chunk)
        return { self with client, links := self.links.modifyLast (Link.update (Session.read chunk)) }
      else none

def init (config : TcpServerConfig τ) (client : TcpClientReceiverConfig) (cfg : SinkConfig)
    (files : String → Option Bytes) : LineDelivery ι τ where
  server := System.started config
  client := ClientEngine.init client cfg files

/-- One broadcast at a time, an unchanged header, and no two connections of one name. -/
def Joinable (self : LineDelivery ι τ) : DeliveryAction ι τ → Prop
  | .server action => self.server.Joinable action
  | .connect id => self.server.Joinable (.connect id)
  | _ => True

instance (self : LineDelivery ι τ) (action : DeliveryAction ι τ) : Decidable (self.Joinable action) :=
  match action with
  | .server action => inferInstanceAs (Decidable (self.server.Joinable action))
  | .connect id => inferInstanceAs (Decidable (self.server.Joinable (.connect id)))
  | .client _ | .read _ => .isTrue trivial

/-- Without an action of the server, only a connection that is made changes it. -/
theorem step_server {self after : LineDelivery ι τ} {action : DeliveryAction ι τ}
    (foreign : ∀ own, action ≠ .server own) (taken : self.step python action = some after) :
    after.server = self.server ∨
      ∃ id, action = .connect id ∧ self.server.step (.connect id) = some after.server := by
  cases action with
  | server own => exact absurd rfl (foreign own)
  | client action =>
      simp only [step] at taken
      split at taken
      · cases taken
      · cases taken
      · obtain ⟨_, _, rfl⟩ := Option.map_eq_some_iff.mp taken
        exact .inl rfl
  | connect id =>
      obtain ⟨server, ran, taken⟩ := Option.bind_eq_some_iff.mp taken
      obtain ⟨_, _, taken⟩ := Option.bind_eq_some_iff.mp taken
      cases taken
      exact .inr ⟨id, rfl, ran⟩
  | read chunk =>
      obtain ⟨_, _, taken⟩ := Option.bind_eq_some_iff.mp taken
      split at taken
      next =>
        obtain ⟨_, _, taken⟩ := Option.bind_eq_some_iff.mp taken
        cases taken
        exact .inl rfl
      next => cases taken

/-! ## What holds on the way -/

/-- The connection exists, and what was read from it is an initial part of what was written. -/
def Carried (server : System ι τ) (link : Link) : Prop :=
  ∃ state, server.shared.connectionManager.states[link.connection]? = some state ∧
    link.session.chunks.flatten <+: (state.writer.written.map Payload.bytes).flatten

omit [DecidableEq ι] in
theorem Carried.grows {before after : System ι τ} {link : Link} (carried : Carried before link)
    (grows : before.shared.connectionManager.Grows after.shared.connectionManager) :
    Carried after link := by
  obtain ⟨state, present, part⟩ := carried
  obtain ⟨later, still, more⟩ := grows link.connection state present
  refine ⟨later, still, part.trans ?_⟩
  obtain ⟨rest, whole⟩ := more
  rw [← whole]
  simp

theorem connect_carried {server next : System ι τ} {id : ι}
    (taken : server.step (.connect id) = some next) :
    Carried next { connection := server.shared.connectionManager.states.length } := by
  obtain rfl := System.step_connect_eq_some taken
  let accepted := server.launch (·.accept id server.points.length)
  have registered : Carried accepted
      { connection := server.shared.connectionManager.states.length } := by
    refine ⟨{ clientId := id }, ?_, List.nil_prefix⟩
    change (server.shared.connectionManager.states ++ [_])[_]? = _
    simp
  exact registered.grows (TcpServerSender.greet_moves accepted.shared accepted.points
    accepted.points.length id).grows

/-- Each link is carried, the client has made of its sessions what it should, and the server's
clients are sent a stream without gaps. -/
structure Sound (config : TcpServerConfig τ) (receiver : TcpClientReceiverConfig)
    (state : LineDelivery ι τ) : Prop where
  carried : ∀ link ∈ state.links, Carried state.server link
  received : ∃ ignored,
    ClientEngine.Received receiver (state.links.map Link.session) ignored state.client
  streaming : ∃ sent, state.server.Streaming (config.expectation sent)

namespace Sound

variable {config : TcpServerConfig τ} {receiver : TcpClientReceiverConfig}
  {state next : LineDelivery ι τ} (sound : Sound config receiver state)

include sound

theorem serverStep {action : ServerAction ι τ} (joinable : state.server.Joinable action)
    {server : System ι τ} (taken : state.server.step action = some server) :
    Sound config receiver { state with server } where
  carried := fun link member => (sound.carried link member).grows (System.step_grows taken)
  received := sound.received
  streaming := System.step_late_joiners joinable sound.streaming taken

omit [DecidableEq ι] in
/-- An action of the client that changes its sessions as it changes the links. -/
theorem clientStep {action : ClientEngineAction} {links : List Link}
    (same : links.map Link.session = Session.after (state.links.map Link.session) action)
    (carried : ∀ link ∈ links, Carried state.server link) {engine : ClientEngine}
    (taken : state.client.step python action = some engine) :
    Sound config receiver { state with client := engine, links } where
  carried := carried
  received := by
    obtain ⟨_, received⟩ := sound.received
    obtain ⟨more, later, _⟩ := received.step taken
    exact ⟨more, by rw [same]; exact later⟩
  streaming := sound.streaming

omit [DecidableEq ι] in
theorem modifyLast {change : Session → Session} {last : Link}
    (found : state.links.getLast? = some last)
    (carried : Carried state.server (Link.update change last)) :
    ∀ link ∈ state.links.modifyLast (Link.update change), Carried state.server link := by
  obtain ⟨past, links⟩ := List.getLast?_eq_some_iff.mp found
  rw [links, List.modifyLast_concat]
  intro link member
  rcases List.mem_append.mp member with older | newest
  · exact sound.carried link (by rw [links]; exact List.mem_append_left _ older)
  · rw [List.mem_singleton.mp newest]
    exact carried

theorem connect {id : ι} (joinable : state.server.Joinable (.connect id)) {server : System ι τ}
    (taken : state.server.step (.connect id) = some server) {engine : ClientEngine}
    (connects : state.client.step python (.connect none) = some engine) :
    Sound config receiver { server, client := engine, links := state.links ++
      [{ connection := state.server.shared.connectionManager.states.length }] } := by
  have served := sound.serverStep joinable taken
  refine served.clientStep ?_ ?_ connects
  · rw [List.map_append]
    rfl
  · intro link member
    rcases List.mem_append.mp member with older | newest
    · exact served.carried link older
    · rw [List.mem_singleton.mp newest]
      exact connect_carried taken

omit [DecidableEq ι] in
theorem fail : ∀ link ∈ state.links.modifyLast (Link.update Session.fail),
    Carried state.server link := by
  cases found : state.links.getLast? with
  | none =>
      rw [List.getLast?_eq_none_iff.mp found]
      intro link member
      cases member
  | some last =>
      have carried := sound.carried last (List.mem_of_getLast? found)
      exact sound.modifyLast found carried

omit [DecidableEq ι] in
/-- The client's own actions. -/
theorem ownStep {action : ClientEngineAction} (connects : action ≠ .connect none)
    (reads : ∀ chunk, action ≠ .read chunk) {engine : ClientEngine}
    (taken : state.client.step python action = some engine) :
    Sound config receiver
      { state with client := engine, links := Link.after state.links action } := by
  refine sound.clientStep ?_ ?_ taken
  · cases action with
    | connect raises =>
        cases raises with
        | none => exact absurd rfl connects
        | some error => rfl
    | read chunk => exact absurd rfl (reads chunk)
    | readFails error => exact Link.sessions_modifyLast Session.fail state.links
    | _ => rfl
  · cases action with
    | readFails error => exact sound.fail
    | _ => exact sound.carried

omit [DecidableEq ι] in
theorem read {chunk : Bytes} {last : Link} (found : state.links.getLast? = some last)
    (there : last.session.chunks.flatten ++ chunk <+: stream state.server last.connection)
    {engine : ClientEngine} (taken : state.client.step python (.read chunk) = some engine) :
    Sound config receiver { state with
      client := engine
      links := state.links.modifyLast (Link.update (Session.read chunk)) } := by
  refine sound.clientStep (Link.sessions_modifyLast _ _) (sound.modifyLast found ?_) taken
  obtain ⟨written, present, part⟩ := sound.carried last (List.mem_of_getLast? found)
  refine ⟨written, present, ?_⟩
  unfold stream at there
  rw [present] at there
  unfold Link.update Session.read
  dsimp only
  split
  · exact part
  · rw [List.flatten_append, List.flatten_singleton]
    exact there

theorem step {action : DeliveryAction ι τ} (joinable : state.Joinable action)
    (taken : state.step python action = some next) : Sound config receiver next := by
  cases action with
  | server action =>
      obtain ⟨server, ran, rfl⟩ := Option.map_eq_some_iff.mp taken
      exact sound.serverStep joinable ran
  | client action =>
      simp only [LineDelivery.step] at taken
      split at taken
      · cases taken
      · cases taken
      next neverConnects neverReads =>
          obtain ⟨engine, ran, rfl⟩ := Option.map_eq_some_iff.mp taken
          exact sound.ownStep neverConnects neverReads ran
  | connect id =>
      obtain ⟨server, ran, taken⟩ := Option.bind_eq_some_iff.mp taken
      obtain ⟨engine, connects, taken⟩ := Option.bind_eq_some_iff.mp taken
      cases taken
      exact sound.connect joinable ran connects
  | read chunk =>
      obtain ⟨last, found, taken⟩ := Option.bind_eq_some_iff.mp taken
      split at taken
      next there =>
          obtain ⟨engine, ran, taken⟩ := Option.bind_eq_some_iff.mp taken
          cases taken
          exact sound.read found there ran
      next => cases taken

end Sound

/-! ## Runs -/

omit [DecidableEq ι] in
theorem init_sound (config : TcpServerConfig τ) (receiver : TcpClientReceiverConfig)
    (cfg : SinkConfig) (files : String → Option Bytes) :
    Sound config receiver (init config receiver cfg files : LineDelivery ι τ) where
  carried := fun link member => by cases member
  received := ⟨0, ClientEngine.init_received receiver cfg files⟩
  streaming := ⟨[], System.started_streaming config _ rfl⟩

omit [DecidableEq ι] in
/-- All that a connection has carried is an initial part of what its client was to be sent. -/
theorem Sound.carries {config : TcpServerConfig τ} {receiver : TcpClientReceiverConfig}
    {state : LineDelivery ι τ} (sound : Sound config receiver state) {link : Link}
    (member : link ∈ state.links) : ∃ stream, config.Stream state.server.shared.sent stream ∧
      link.session.chunks.flatten <+: (stream.map Payload.bytes).flatten := by
  obtain ⟨client, present, part⟩ := sound.carried link member
  obtain ⟨sent, streaming⟩ := sound.streaming
  have same : state.server.shared.sent = sent := congrArg Settings.sent streaming.streams.settings
  have inside := List.mem_of_getElem? present
  have delivers : client.writer.written ++ client.queuedPayloads = client.accepted :=
    streaming.streams.delivers client inside
  refine ⟨client.accepted, ?_, ?_⟩
  · rw [same]
    exact streaming.streams.everyone client inside
  · rw [← delivers, List.map_append, List.flatten_append]
    exact part.trans (List.prefix_append _ _)

theorem stream_areLines {config : TcpServerConfig τ} {max : Nat} {sent accepted : List (Payload τ)}
    (stream : config.Stream sent accepted)
    (header : ∀ payload ∈ config.settings.greeting, IsTextLine max payload.bytes)
    (records : ∀ payload ∈ sent, IsTextLine max payload.bytes) :
    ∀ text ∈ accepted.map Payload.bytes, IsTextLine max text := by
  refine List.forall_mem_map.mpr ?_
  intro payload member
  unfold TcpServerConfig.Stream at stream
  split at stream
  · rw [stream] at member
    cases member
  · obtain ⟨segment, inside, shape⟩ := stream
    rw [shape] at member
    rcases List.mem_append.mp member with greets | follows
    · exact header payload (Option.mem_toList.mp greets)
    · exact records payload (inside.subset follows)

/-- What the client delivers is, connection by connection, the first lines of a stream that begins
with the header and goes on with the broadcast records from some point on; only the last line of a
connection that ended may be cut off. -/
theorem lines_delivered (config : TcpServerConfig τ) (receiver : TcpClientReceiverConfig)
    (cfg : SinkConfig) (files : String → Option Bytes) (lf : receiver.framingMode = .lf)
    {actions : List (DeliveryAction ι τ)} {final : LineDelivery ι τ}
    (joinable : Runs.Each (step python) Joinable (init config receiver cfg files) actions)
    (ran : Runs.run (step python) (init config receiver cfg files) actions = some final)
    (header : ∀ payload ∈ config.settings.greeting, IsTextLine receiver.maxRecordBytes payload.bytes)
    (records : ∀ payload ∈ final.server.shared.sent,
      IsTextLine receiver.maxRecordBytes payload.bytes) :
    final.client.transport.delivered =
        final.links.flatMap (fun link => link.session.records receiver.toReceiverConfig) ∧
      ∀ link ∈ final.links, ∃ stream count tail, config.Stream final.server.shared.sent stream ∧
        LinesOf receiver.toReceiverConfig (linesOf (stream.map Payload.bytes)) link.session
          count tail := by
  have sound : Sound config receiver final := joinable.visits_invariant (Sound config receiver)
    (fun _ _ _ joinable sound taken => sound.step joinable taken)
    (init_sound config receiver cfg files) ⟨actions, List.prefix_rfl, ran⟩
  constructor
  · obtain ⟨_, received⟩ := sound.received
    rw [received.framed.delivered, List.flatMap_map]
  · intro link member
    obtain ⟨stream, served, part⟩ := sound.carries member
    obtain ⟨count, tail, lines⟩ := Session.records_of_texts lf
      (stream_areLines served header records) part
    exact ⟨stream, count, tail, served, lines⟩

/-! A client that joins after the first record, loses its connection in the middle of the second
and joins again; another one is there all the time. -/

def greetingServer : TcpServerConfig Nat where
  sendHeaderOnConnect := true
  headerPayload := some ⟨[0x68, 0x0A], 0⟩

def joinsTwice : List (DeliveryAction String Nat) :=
  [.server (.connect "a"), .server (.broadcast ⟨[0x31, 0x0A], 1⟩ ["a"]), .client (.start none),
    .connect "b", .server (.broadcast ⟨[0x32, 0x32, 0x0A], 2⟩ ["a", "b"]), .server (.resume 4 true),
    .server (.resume 4 true), .read [0x68], .read [0x0A, 0x32],
    .client (.readFails ⟨"ConnectionResetError", "reset"⟩), .client .slept, .connect "c",
    .server (.resume 7 true), .read [0x68, 0x0A]]

theorem greetingServer_isLine (payload : Payload Nat) (greets : payload ∈ greetingServer.settings.greeting) :
    IsTextLine 1048576 payload.bytes := by
  obtain rfl := Option.some.inj greets
  exact ⟨[0x68], rfl, by decide, by decide⟩

theorem lines_delivered_joins_twice : ∃ final,
    Runs.run (step { minor := 11 }) (init greetingServer { host := "s", port := 1 } {} fun _ => none)
        joinsTwice = some final ∧
      final.client.transport.delivered.map (·.payload) = [[0x68], [0x32], [0x68]] ∧
      final.client.transport.delivered =
        final.links.flatMap (fun link => link.session.records {}) ∧
      ∀ link ∈ final.links, ∃ stream count tail,
        greetingServer.Stream final.server.shared.sent stream ∧
          LinesOf {} (linesOf (stream.map Payload.bytes)) link.session count tail := by
  have reached : (Runs.run (step { minor := 11 })
      (init greetingServer { host := "s", port := 1 } {} fun _ => none) joinsTwice).map (fun final =>
        (final.client.transport.delivered.map (·.payload), final.server.shared.sent)) =
      some ([[0x68], [0x32], [0x68]], [⟨[0x31, 0x0A], 1⟩, ⟨[0x32, 0x32, 0x0A], 2⟩]) := by
    decide +kernel
  obtain ⟨final, ran, same⟩ := Option.map_eq_some_iff.mp reached
  obtain ⟨delivered, sent⟩ := Prod.mk.inj same
  refine ⟨final, ran, delivered, lines_delivered greetingServer { host := "s", port := 1 } {}
    (fun _ => none) rfl (by decide +kernel) ran greetingServer_isLine ?_⟩
  rw [sent]
  intro payload member
  simp only [List.mem_cons, List.not_mem_nil, or_false] at member
  rcases member with rfl | rfl
  · exact ⟨[0x31], rfl, by decide, by decide⟩
  · exact ⟨[0x32, 0x32], rfl, by decide, by decide⟩

end LineDelivery

end TcpSim.Engine
