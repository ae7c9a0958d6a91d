import TcpSim.Engine.LineDelivery
import TcpSim.Gui.Traversal

/-! From the records of a file to the lines that a client delivers: the auto loop, the server, the
network and a client that reconnects. -/

set_option autoImplicit false

namespace TcpSim.Gui

open Engine Transport

variable {ι : Type} {python : Interpreter}

structure FileDelivery (ι : Type) where
  sending : Sending ι
  client : ClientEngine
  links : List Link := []

inductive FileDeliveryAction (ι : Type) where
  | sending (action : SendingAction ι)
  /-- Something of the client or of its connections. -/
  | delivery (action : DeliveryAction ι Origin)

namespace FileDelivery

/-- All but the sender. -/
def delivery (self : FileDelivery ι) : LineDelivery ι Origin where
  server := self.sending.shared.server
  client := self.client
  links := self.links

def withDelivery (self : FileDelivery ι) (after : LineDelivery ι Origin) : FileDelivery ι where
  sending := self.sending.request fun shared => { shared with server := after.server }
  client := after.client
  links := after.links

variable [DecidableEq ι]

/-- One step; `none` when the action is not possible. -/
def step (python : Interpreter) (self : FileDelivery ι) :
    FileDeliveryAction ι → Option (FileDelivery ι)
  | .sending action => (self.sending.step action).map fun sending => { self with sending }
  | .delivery (.server _) => none
  | .delivery action => (self.delivery.step python action).map self.withDelivery

def started (config : TcpServerConfig Origin) (sendHeader loop : Bool) (loaded : LoadedFile)
    (receiver : TcpClientReceiverConfig) (cfg : SinkConfig) (files : String → Option Bytes) :
    FileDelivery ι where
  sending := Sending.started config sendHeader loop loaded
  client := ClientEngine.init receiver cfg files

/-- The user asks for pauses only, and no two connections have the same name. -/
def Undisturbed (self : FileDelivery ι) : FileDeliveryAction ι → Prop
  | .sending (.server action) => self.sending.shared.server.Joinable action
  | .sending action => action.isPlain = true
  | .delivery action => self.delivery.Joinable action

instance (self : FileDelivery ι) (action : FileDeliveryAction ι) :
    Decidable (self.Undisturbed action) :=
  match action with
  | .sending (.server action) =>
      inferInstanceAs (Decidable (self.sending.shared.server.Joinable action))
  | .sending (.autoTurn _) | .sending (.wake _ _) | .sending (.sent _) | .sending .togglePause =>
      .isTrue rfl
  | .sending (.stepOnce _) | .sending (.jumpTo _) | .sending (.setLineControls _ _ _)
  | .sending (.swapFile _ _) => .isFalse Bool.false_ne_true
  | .delivery action => inferInstanceAs (Decidable (self.delivery.Joinable action))

/-! ## Steps -/

theorem step_delivery_eq_some {self next : FileDelivery ι} {action : DeliveryAction ι Origin}
    (taken : self.step python (.delivery action) = some next) :
    (∀ own, action ≠ .server own) ∧
      ∃ after, self.delivery.step python action = some after ∧ next = self.withDelivery after := by
  cases action with
  | server own => cases taken
  | _ =>
      obtain ⟨after, ran, rfl⟩ := Option.map_eq_some_iff.mp taken
      exact ⟨(fun _ same => by cases same), after, ran, rfl⟩

/-- The loop is where it should be in the file, and the client has what it should of the
broadcasts. -/
structure Faithful (config : TcpServerConfig Origin) (receiver : TcpClientReceiverConfig)
    (loaded : LoadedFile) (loop : Bool) (state : FileDelivery ι) : Prop where
  traversing : state.sending.Traversing loaded loop
  sound : LineDelivery.Sound config receiver state.delivery

namespace Faithful

variable {config : TcpServerConfig Origin} {receiver : TcpClientReceiverConfig}
  {loaded : LoadedFile} {loop : Bool} {state next : FileDelivery ι}
  (faithful : Faithful config receiver loaded loop state)

include faithful

theorem fed {sending : Sending ι} (traversing : sending.Traversing loaded loop)
    (feeds : Transmission.Feeds state.sending.shared.server sending.shared.server) :
    Faithful config receiver loaded loop { state with sending } where
  traversing := traversing
  sound := by
    have sound := faithful.sound
    rcases feeds with same | ⟨payload, order, idle, begun⟩
    · unfold delivery at sound ⊢
      rw [← same] at sound
      exact sound
    · have joinable : state.delivery.server.Joinable (.broadcast payload order) := idle
      exact sound.serverStep joinable begun

theorem sendingStep {action : SendingAction ι} (undisturbed : state.Undisturbed (.sending action))
    {sending : Sending ι} (taken : state.sending.step action = some sending) :
    Faithful config receiver loaded loop { state with sending } := by
  cases action with
  | server action =>
      obtain ⟨traversing, moved⟩ := faithful.traversing.server taken
      exact ⟨traversing, faithful.sound.serverStep undisturbed moved⟩
  | _ =>
      obtain ⟨traversing, feeds⟩ := faithful.traversing.step undisturbed taken
      exact faithful.fed traversing feeds

theorem deliveryStep {action : DeliveryAction ι Origin} (joinable : state.delivery.Joinable action)
    (foreign : ∀ own, action ≠ .server own) {after : LineDelivery ι Origin}
    (taken : state.delivery.step python action = some after) :
    Faithful config receiver loaded loop (state.withDelivery after) where
  sound := faithful.sound.step joinable taken
  traversing := by
    rcases LineDelivery.step_server foreign taken with same | ⟨id, _, connects⟩
    · have unchanged : (state.withDelivery after).sending = state.sending := by
        unfold withDelivery Sending.request
        rw [same]
        rfl
      rw [unchanged]
      exact faithful.traversing
    · have taken : state.sending.step (.server (.connect id)) =
          some (state.withDelivery after).sending := by
        have own : (ServerAction.connect id : ServerAction ι Origin).isOwn = true := rfl
        simp only [Sending.step]
        rw [if_pos own]
        exact congrArg (Option.map _) connects
      exact (faithful.traversing.server taken).1

theorem step {action : FileDeliveryAction ι} (undisturbed : state.Undisturbed action)
    (taken : state.step python action = some next) : Faithful config receiver loaded loop next := by
  cases action with
  | sending action =>
      obtain ⟨sending, ran, rfl⟩ := Option.map_eq_some_iff.mp taken
      exact faithful.sendingStep undisturbed ran
  | delivery action =>
      obtain ⟨foreign, after, ran, rfl⟩ := step_delivery_eq_some taken
      exact faithful.deliveryStep undisturbed foreign ran

end Faithful

end FileDelivery

/-! ## Lines of the file -/

/-- A part without gaps of what is made of the first numbers is made of numbers without gaps. -/
theorem exists_range_of_infix {β : Type} {make : Nat → Option β} {segment : List β} {count : Nat}
    (inside : segment <:+: (List.range count).filterMap make) :
    ∃ first size, first + size ≤ count ∧ segment = (List.range' first size).filterMap make := by
  obtain ⟨numbers, part, rfl⟩ := List.infix_filterMap_iff.mp inside
  obtain ⟨front, back, whole⟩ := part
  rw [List.range_eq_range'] at whole
  obtain ⟨upTo, within, initialPart, _⟩ := List.range'_eq_append_iff.mp whole.symm
  obtain ⟨first, before, _, rfl⟩ := List.range'_eq_append_iff.mp initialPart.symm
  exact ⟨0 + first * 1, upTo - first, by omega, rfl⟩

namespace LoadedFile

variable (self : LoadedFile)

def headerLine (sendHeader : Bool) : Option Bytes := if sendHeader then self.headerRaw else none

/-- The record with this number; behind the last record they start over. -/
def record (number : Nat) : Option Bytes := self.records[number % self.records.length]?

/-- Records one after the other. -/
def recordsFrom (first size : Nat) : List Bytes := (List.range' first size).filterMap self.record

/-- The header line and some records one after the other. -/
def texts (sendHeader : Bool) (first size : Nat) : List Bytes :=
  (self.headerLine sendHeader).toList ++ self.recordsFrom first size

variable {self}

theorem recordsFrom_subset (first size : Nat) : self.recordsFrom first size ⊆ self.records := by
  intro bytes member
  obtain ⟨number, _, found⟩ := List.mem_filterMap.mp member
  exact List.mem_of_getElem? found

theorem message_bytes (number : Nat) :
    (self.message number).map Payload.bytes = self.record number := by
  simp [message, record, payloads, Function.comp_def]

theorem broadcasts_of_lines {max : Nat} (records : ∀ bytes ∈ self.records, IsTextLine max bytes)
    (count : Nat) : self.broadcasts count = self.traversal count := by
  refine List.filter_eq_self.mpr ?_
  intro payload member
  obtain ⟨number, _, found⟩ := List.mem_filterMap.mp member
  have bytes : self.record number = some payload.bytes := by
    rw [← message_bytes, found]
    rfl
  obtain ⟨body, shape, _⟩ := records _ (List.mem_of_getElem? bytes)
  simp [shape]

theorem headerPayload_bytes (file : Nat) (sendHeader : Bool) :
    (self.headerPayload file sendHeader).map Payload.bytes = self.headerLine sendHeader := by
  cases sendHeader
  · rfl
  · simp [headerPayload, headerLine, Function.comp_def]

end LoadedFile

namespace FileDelivery

def serverConfig (config : TcpServerConfig Origin) (sendHeader : Bool) (loaded : LoadedFile) :
    TcpServerConfig Origin :=
  { config with
    sendHeaderOnConnect := sendHeader
    headerPayload := loaded.headerPayload 0 sendHeader }

section Lines

variable {max : Nat} {loaded : LoadedFile} {sendHeader : Bool}
  (header : ∀ bytes ∈ loaded.headerLine sendHeader, IsTextLine max bytes)
  (records : ∀ bytes ∈ loaded.records, IsTextLine max bytes)

include header

theorem greeting_bytes (config : TcpServerConfig Origin) :
    (serverConfig config sendHeader loaded).settings.greeting.toList.map Payload.bytes =
      (loaded.headerLine sendHeader).toList := by
  rw [← LoadedFile.headerPayload_bytes 0] at header ⊢
  unfold Settings.greeting serverConfig TcpServerConfig.settings
  dsimp only
  cases sendHeader with
  | false => rfl
  | true =>
      cases read : loaded.headerPayload 0 true with
      | none => rfl
      | some payload =>
          obtain ⟨body, shape, _⟩ := header payload.bytes (by rw [read]; rfl)
          simp [Option.filter, shape]

include records

theorem texts_areLines (first size : Nat) :
    ∀ text ∈ loaded.texts sendHeader first size, IsTextLine max text := by
  intro text member
  rcases List.mem_append.mp member with greets | follows
  · exact header text (Option.mem_toList.mp greets)
  · exact records text (LoadedFile.recordsFrom_subset first size follows)

/-- What a client is sent is the header line and then some records without a gap. -/
theorem stream_texts {config : TcpServerConfig Origin} {count : Nat}
    {stream : List (Payload Origin)}
    (served : (serverConfig config sendHeader loaded).Stream (loaded.broadcasts count) stream) :
    ∃ first size, first + size ≤ count ∧
      (stream.map Payload.bytes).flatten <+: (loaded.texts sendHeader first size).flatten := by
  unfold TcpServerConfig.Stream at served
  split at served
  · rw [served]
    exact ⟨0, 0, Nat.zero_le _, List.nil_prefix⟩
  · obtain ⟨segment, inside, rfl⟩ := served
    rw [LoadedFile.broadcasts_of_lines records] at inside
    obtain ⟨first, size, within, rfl⟩ := exists_range_of_infix inside
    refine ⟨first, size, within, ?_⟩
    rw [List.map_append, greeting_bytes header, List.map_filterMap]
    simp only [LoadedFile.message_bytes]
    exact List.prefix_rfl

end Lines

theorem started_faithful (config : TcpServerConfig Origin) (receiver : TcpClientReceiverConfig)
    (cfg : SinkConfig) (files : String → Option Bytes) (sendHeader loop : Bool)
    (loaded : LoadedFile) : Faithful (serverConfig config sendHeader loaded) receiver loaded loop
      (started config sendHeader loop loaded receiver cfg files : FileDelivery ι) where
  traversing := Sending.started_traversing config sendHeader loop loaded
  sound := LineDelivery.init_sound (serverConfig config sendHeader loaded) receiver cfg files

variable [DecidableEq ι]

/-- What the client delivers is, connection by connection, the first lines of the header and some
records of the file one after the other; the records start over if the loop is set, and only the
last line of a connection that ended may be cut off. What its sink writes has that order too. -/
theorem file_delivered (config : TcpServerConfig Origin) (receiver : TcpClientReceiverConfig)
    (cfg : SinkConfig) (files : String → Option Bytes) (lf : receiver.framingMode = .lf)
    (sendHeader loop : Bool) (loaded : LoadedFile)
    (header : ∀ bytes ∈ loaded.headerLine sendHeader, IsTextLine receiver.maxRecordBytes bytes)
    (records : ∀ bytes ∈ loaded.records, IsTextLine receiver.maxRecordBytes bytes)
    {actions : List (FileDeliveryAction ι)} {final : FileDelivery ι}
    (undisturbed : Runs.Each (step python) Undisturbed
      (started config sendHeader loop loaded receiver cfg files) actions)
    (ran : Runs.run (step python) (started config sendHeader loop loaded receiver cfg files)
      actions = some final) :
    final.client.transport.delivered =
        final.links.flatMap (fun link => link.session.records receiver.toReceiverConfig) ∧
      (final.client.sink.file.written.map WrittenRecord.item ++
        final.client.sink.queue.filter QueueItem.isData).Sublist
          (final.client.transport.delivered.map (ClientEngine.item receiver)) ∧
      ∀ link ∈ final.links, ∃ first size count tail,
        (loop = false → first + size ≤ loaded.records.length) ∧
          LinesOf receiver.toReceiverConfig (linesOf (loaded.texts sendHeader first size))
            link.session count tail := by
  have faithful : Faithful (serverConfig config sendHeader loaded) receiver loaded loop final :=
    undisturbed.visits_invariant _ (fun _ _ _ undisturbed faithful taken =>
      faithful.step undisturbed taken) (started_faithful config receiver cfg files sendHeader loop
        loaded) ⟨actions, List.prefix_rfl, ran⟩
  obtain ⟨_, received⟩ := faithful.sound.received
  refine ⟨?_, ?_, ?_⟩
  · rw [show final.client = final.delivery.client from rfl, received.framed.delivered,
      List.flatMap_map]
    rfl
  · have order := received.fed.intake.order
    rw [received.framed.same] at order
    exact received.fed.ordered.writtenAndQueued.trans order
  · intro link member
    obtain ⟨stream, served, part⟩ := faithful.sound.carries member
    obtain ⟨sent, given, within, _⟩ := faithful.traversing.counts
    rw [show final.delivery.server.shared.sent = _ from given] at served
    obtain ⟨first, size, inside, bytes⟩ := stream_texts header records served
    obtain ⟨count, tail, lines⟩ := Session.records_of_texts lf
      (texts_areLines header records first size) (part.trans bytes)
    exact ⟨first, size, count, tail, fun never => inside.trans (within never), lines⟩

/-! A client that joins after the first record, loses its connection in the middle of the second
and joins again when the file starts over; its sink has got as far as the last line but one. -/

def twoLines : LoadedFile where
  records := [[0x31, 0x0A], [0x32, 0x32, 0x0A]]
  headerRaw := some [0x68, 0x0A]

def joinsAgain : List (FileDeliveryAction String) :=
  [.sending (.server (.connect "a")), .sending (.autoTurn ["a"]), .sending (.sent 0),
    .delivery (.client (.sink .start)), .delivery (.client (.sink (.begin []))),
    .delivery (.client (.start none)), .delivery (.connect "b"), .sending (.autoTurn ["a", "b"]),
    .sending (.sent 0), .sending (.server (.resume 4 true)), .sending (.server (.resume 4 true)),
    .delivery (.read [0x68]), .delivery (.read [0x0A, 0x32]),
    .delivery (.client (.readFails ⟨"ConnectionResetError", "reset"⟩)), .delivery (.client .slept),
    .delivery (.connect "c"), .sending (.autoTurn ["a", "b", "c"]),
    .sending (.server (.resume 7 true)), .sending (.server (.resume 7 true)),
    .delivery (.read [0x68, 0x0A, 0x31, 0x0A]),
    .delivery (.client (.sink (.drain "t" [] []))), .delivery (.client (.sink (.drain "t" [] []))),
    .delivery (.client (.sink (.drain "t" [] [])))]

theorem twoLines_areTextLines {bytes : Bytes}
    (member : bytes ∈ twoLines.headerLine true ∨ bytes ∈ twoLines.records) :
    IsTextLine 1048576 bytes := by
  have known : bytes = [0x68, 0x0A] ∨ bytes = [0x31, 0x0A] ∨ bytes = [0x32, 0x32, 0x0A] := by
    rcases member with greets | record
    · exact .inl (Option.some.inj greets).symm
    · exact .inr (by simpa [twoLines] using record)
  rcases known with rfl | rfl | rfl
  · exact ⟨[0x68], rfl, by decide, by decide⟩
  · exact ⟨[0x31], rfl, by decide, by decide⟩
  · exact ⟨[0x32, 0x32], rfl, by decide, by decide⟩

theorem file_delivered_joins_again : ∃ final,
    Runs.run (step { minor := 11 })
        (started {} true true twoLines { host := "s", port := 1 } loggingSink fun _ => none)
        joinsAgain = some final ∧
      final.client.transport.delivered.map (·.payload) = [[0x68], [0x32], [0x68], [0x31]] ∧
      final.client.sink.file.written.map (·.item.record.payload) = [[0x68], [0x32], [0x68]] ∧
      final.client.transport.delivered =
        final.links.flatMap (fun link => link.session.records {}) ∧
      (final.client.sink.file.written.map WrittenRecord.item ++
        final.client.sink.queue.filter QueueItem.isData).Sublist
          (final.client.transport.delivered.map (ClientEngine.item { host := "s", port := 1 })) ∧
      ∀ link ∈ final.links, ∃ first size count tail,
        (true = false → first + size ≤ twoLines.records.length) ∧
          LinesOf {} (linesOf (twoLines.texts true first size)) link.session count tail := by
  have reached : (Runs.run (step { minor := 11 })
      (started {} true true twoLines { host := "s", port := 1 } loggingSink fun _ => none)
      joinsAgain).map (fun final => (final.client.transport.delivered.map (·.payload),
        final.client.sink.file.written.map (·.item.record.payload))) =
      some ([[0x68], [0x32], [0x68], [0x31]], [[0x68], [0x32], [0x68]]) := by
    decide +kernel
  obtain ⟨final, ran, same⟩ := Option.map_eq_some_iff.mp reached
  obtain ⟨delivered, written⟩ := Prod.mk.inj same
  exact ⟨final, ran, delivered, written, file_delivered {} { host := "s", port := 1 } loggingSink
    (fun _ => none) rfl true true twoLines (fun _ greets => twoLines_areTextLines (.inl greets))
    (fun _ record => twoLines_areTextLines (.inr record)) (by decide +kernel) ran⟩

end FileDelivery

end TcpSim.Gui
