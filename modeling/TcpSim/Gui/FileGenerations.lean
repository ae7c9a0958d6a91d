import TcpSim.Gui.TransmissionProperties
import TcpSim.Transport.UnfinishedBroadcasts
import Mathlib.Data.List.Chain

/-! What each client gets while files are swapped: whether the files come one after the other,
each with its header once and first. -/

set_option autoImplicit false

namespace TcpSim.Gui

open Engine Transport

variable {ι : Type}

/-! ## What clients have accepted -/

/-- The file goes on, or the header of a newer one begins. -/
def GoesOn (previous next : Payload Origin) : Prop :=
  if next.tag.isHeader then previous.tag.file < next.tag.file
  else next.tag.file = previous.tag.file

/-- The files follow one another, and a header only comes before all else of its file. -/
def Precedes (earlier later : Payload Origin) : Prop :=
  earlier.tag.file ≤ later.tag.file ∧
    (later.tag.isHeader = true → earlier.tag.file < later.tag.file)

instance (earlier later : Payload Origin) : Decidable (Precedes earlier later) :=
  inferInstanceAs (Decidable (earlier.tag.file ≤ later.tag.file ∧
    (later.tag.isHeader = true → earlier.tag.file < later.tag.file)))

/-- One block after the other, each of a file with its header first. -/
structure GenerationSafe (accepted : List (Payload Origin)) : Prop where
  starts : ∀ first ∈ accepted.head?, first.tag.isHeader = true
  goesOn : accepted.IsChain GoesOn

theorem GoesOn.precedes {previous next : Payload Origin} (goesOn : GoesOn previous next) :
    Precedes previous next := by
  unfold GoesOn at goesOn
  split at goesOn
  next header => exact ⟨Nat.le_of_lt goesOn, fun _ => goesOn⟩
  next record => exact ⟨Nat.le_of_eq goesOn.symm, fun header => absurd header record⟩

instance : IsTrans (Payload Origin) Precedes where
  trans _ _ _ first second :=
    ⟨first.1.trans second.1, fun header => Nat.lt_of_le_of_lt first.1 (second.2 header)⟩

/-- No file comes back, and no header comes twice. -/
theorem GenerationSafe.pairwise {accepted : List (Payload Origin)}
    (safe : GenerationSafe accepted) : accepted.Pairwise Precedes :=
  List.isChain_iff_pairwise.mp (safe.goesOn.imp fun _ _ => GoesOn.precedes)

theorem generationSafe_nil : GenerationSafe [] where
  starts := fun first member => by cases member
  goesOn := List.isChain_nil

theorem generationSafe_singleton {header : Payload Origin} (isHeader : header.tag.isHeader = true) :
    GenerationSafe [header] where
  starts := by
    intro first member
    obtain rfl := Option.some.inj member
    exact isHeader
  goesOn := List.isChain_singleton header

theorem GenerationSafe.concat {accepted : List (Payload Origin)} {last payload : Payload Origin}
    (safe : GenerationSafe accepted) (ends : accepted.getLast? = some last)
    (goesOn : GoesOn last payload) : GenerationSafe (accepted ++ [payload]) where
  starts := by
    have nonempty : accepted ≠ [] := by
      rintro rfl
      cases ends
    rw [List.head?_append_of_ne_nil accepted nonempty]
    exact safe.starts
  goesOn := by
    refine safe.goesOn.append (List.isChain_singleton payload) ?_
    intro previous isLast next isFirst
    rw [ends] at isLast
    obtain rfl := Option.some.inj isLast
    obtain rfl := Option.some.inj isFirst
    exact goesOn

/-- The client is in the middle of the current file, or has just been greeted with a newer
header. -/
def UpTo (current : Nat) (accepted : List (Payload Origin)) : Prop :=
  GenerationSafe accepted ∧ ∃ last, accepted.getLast? = some last ∧
    (last.tag.file = current ∨ current < last.tag.file ∧ accepted = [last])

/-- The client can go on with the header, or with a record, of the current file. -/
def AwaitsFile (current : Nat) (isHeader : Bool) (accepted : List (Payload Origin)) : Prop :=
  GenerationSafe accepted ∧ ∃ last, accepted.getLast? = some last ∧
    if isHeader then last.tag.file < current else last.tag.file = current

def generations (settings : Settings Origin) (current : Nat) (isHeader : Bool) :
    Expectation Origin where
  settings := settings
  everyone := GenerationSafe
  upToDate := UpTo current
  awaiting := AwaitsFile current isHeader

theorem generations_accepts (settings : Settings Origin) (payload : Payload Origin) :
    (generations settings payload.tag.file payload.tag.isHeader).Accepts payload := by
  intro accepted awaits
  obtain ⟨safe, last, ends, fits⟩ := awaits
  have goesOn : GoesOn last payload := by
    unfold GoesOn
    split at fits
    next header =>
      rw [if_pos header]
      exact fits
    next record =>
      rw [if_neg record]
      exact fits.symm
  have longer := safe.concat ends goesOn
  exact ⟨longer, longer, payload, List.getLast?_concat, Or.inl rfl⟩

/-! ## What the scheduler hands out -/

structure IsHeaderOf (file : Nat) (payload : Payload Origin) : Prop where
  isHeader : payload.tag.isHeader = true
  file : payload.tag.file = file
  full : payload.bytes ≠ []

structure IsRecordOf (file : Nat) (payload : Payload Origin) : Prop where
  isRecord : payload.tag.isHeader = false
  file : payload.tag.file = file

/-- There is a header line to send. -/
def LoadedFile.hasHeader (self : LoadedFile) : Bool :=
  match self.headerRaw with
  | some (_ :: _) => true
  | _ => false

theorem LoadedFile.payloads_records (self : LoadedFile) (file : Nat) :
    ∀ record ∈ self.payloads file, IsRecordOf file record := by
  intro record member
  obtain ⟨bytes, _, rfl⟩ := List.mem_map.mp member
  exact ⟨rfl, rfl⟩

theorem LoadedFile.headerPayload_eq_some {self : LoadedFile} (has : self.hasHeader = true)
    (file : Nat) :
    ∃ header, self.headerPayload file true = some header ∧ IsHeaderOf file header := by
  unfold hasHeader at has
  split at has
  next first rest raw =>
    refine ⟨_, by rw [headerPayload, if_pos rfl, raw]; rfl, rfl, rfl, ?_⟩
    exact List.cons_ne_nil first rest
  · cases has

namespace Transmission

/-- The scheduler hands out the active file, or will go on with the one asked for last, whose
header is sent to new clients. -/
structure Serves (transmission : Transmission ι) (active : Nat) : Prop where
  greets : transmission.server.shared.sendHeaderOnConnect = true
  header : ∃ header, transmission.server.shared.headerPayload = some header ∧
    IsHeaderOf transmission.files header
  source : ∀ record ∈ transmission.scheduler.sourceRecords, IsRecordOf active record
  records : ∀ record ∈ transmission.scheduler.records, IsRecordOf active record
  handedOut : transmission.scheduler.pendingHeader = none
  swap : (transmission.scheduler.pendingSwap = none ∧ active = transmission.files) ∨
    (active < transmission.files ∧ ∃ records header,
      transmission.scheduler.pendingSwap = some (records, some header) ∧
      (∀ record ∈ records, IsRecordOf transmission.files record) ∧
      IsHeaderOf transmission.files header)

/-- A payload of the file that is handed out next. -/
def NextOf (active files : Nat) (payload : Payload Origin) : Prop :=
  (IsHeaderOf files payload ∧ active < files) ∨ (IsRecordOf files payload ∧ active = files)

namespace Serves

variable {self : Transmission ι} {active : Nat}

theorem active_le (serves : self.Serves active) : active ≤ self.files := by
  rcases serves.swap with ⟨_, same⟩ | ⟨older, _⟩
  · exact Nat.le_of_eq same
  · exact Nat.le_of_lt older

theorem steer {next : Transmission ι} (serves : self.Serves active) (steers : Steers self next) :
    next.Serves active := by
  refine ⟨?_, ?_, ?_, ?_, ?_, ?_⟩
  · rw [steers.server]
    exact serves.greets
  · rw [steers.server, steers.files]
    exact serves.header
  · rw [steers.source]
    exact serves.source
  · intro record member
    rcases steers.records record member with old | selected
    · exact serves.records record old
    · exact serves.source record selected
  · rw [steers.pendingHeader]
    exact serves.handedOut
  · rw [steers.pendingSwap, steers.files]
    exact serves.swap

theorem withServer (serves : self.Serves active) {server : Transport.System ι Origin}
    (greets : server.shared.sendHeaderOnConnect = self.server.shared.sendHeaderOnConnect)
    (header : server.shared.headerPayload = self.server.shared.headerPayload) :
    ({ self with server } : Transmission ι).Serves active := by
  refine ⟨greets.trans serves.greets, ?_, serves.source, serves.records, serves.handedOut,
    serves.swap⟩
  rw [header]
  exact serves.header

theorem swapRecords (serves : self.Serves active) {loaded : LoadedFile}
    (has : loaded.hasHeader = true) : (self.swapRecords true loaded).Serves active := by
  obtain ⟨header, found, isHeader⟩ := loaded.headerPayload_eq_some has (self.files + 1)
  refine ⟨rfl, ⟨header, found, isHeader⟩, serves.source, serves.records, serves.handedOut, ?_⟩
  refine Or.inr ⟨Nat.lt_succ_of_le serves.active_le, loaded.payloads (self.files + 1), header, ?_,
    loaded.payloads_records _, isHeader⟩
  simp only [Transmission.swapRecords, SendScheduler.requestFileSwap, if_true, found]

/-- A message is of the file asked for last, and its header if it is the first of the file. -/
theorem take (serves : self.Serves active) {message : Option Message} {after : Transmission ι}
    (took : self.take = (message, after)) :
    after.Serves self.files ∧ after.files = self.files ∧ (message = none → active = self.files) ∧
      ∀ taken ∈ message, NextOf active self.files taken.payload := by
  rcases serves.swap with ⟨noSwap, rfl⟩ | ⟨older, records, header, swap, all, isHeader⟩
  · have stepped := SendScheduler.step_of_noSwap noSwap serves.handedOut
    rcases self.scheduler.stepRecord_cases with nothing | ⟨payload, member, handed⟩
    · unfold Transmission.take at took
      rw [stepped, nothing] at took
      cases took
      refine ⟨serves, rfl, fun _ => rfl, ?_⟩
      intro taken none
      cases none
    · unfold Transmission.take at took
      rw [stepped, handed] at took
      cases took
      refine ⟨⟨serves.greets, serves.header, serves.source, serves.records, serves.handedOut,
        Or.inl ⟨noSwap, rfl⟩⟩, rfl, fun _ => rfl, ?_⟩
      intro taken same
      obtain rfl := Option.some.inj same
      obtain ⟨isRecord, file⟩ := serves.records payload member
      exact Or.inr ⟨⟨isRecord, file⟩, rfl⟩
  · unfold Transmission.take at took
    rw [SendScheduler.step_of_swap swap] at took
    cases took
    refine ⟨⟨serves.greets, serves.header, all, ?_, rfl, Or.inl ⟨rfl, rfl⟩⟩, rfl, ?_, ?_⟩
    · intro record member
      exact all record (self.scheduler.lines.mem_of_select member)
    · intro none
      cases none
    · intro taken same
      obtain rfl := Option.some.inj same
      exact Or.inl ⟨⟨isHeader.isHeader, isHeader.file, isHeader.full⟩, older⟩

/-- What a new client accepts is the header of the file asked for last, unless that is over the
hard cap. -/
theorem firstAccepted (serves : self.Serves active) :
    ∃ header, IsHeaderOf self.files header ∧ self.server.shared.settings.firstAccepted =
      if self.server.shared.settings.turnsAway then [] else [header] := by
  obtain ⟨header, found, isHeader⟩ := serves.header
  refine ⟨header, isHeader, ?_⟩
  have greeting : self.server.shared.settings.greeting = some header := by
    unfold Settings.greeting TcpServerSender.settings
    rw [if_pos serves.greets, found]
    exact Option.filter_eq_some_iff.mpr ⟨rfl, by simpa using isHeader.full⟩
  unfold Settings.firstAccepted
  rw [greeting]
  rfl

end Serves

end Transmission

/-! ## Steps -/

/-- Where the auto loop is; `current` is the file of the last broadcast. -/
def AutoAt (server : Transport.System ι Origin) (active current : Nat) : SenderPoint → Prop
  | .sleeping => current = active ∧ ∀ task, ¬PendsAt server.points false task
  | .waiting sender message => sender = .auto ∧ (∀ task, ¬PendsAt server.points false task) ∧
      Transmission.NextOf current active message.payload
  | .broadcasting sender _ task => sender = .auto ∧ current = active ∧
      ∀ other, PendsAt server.points false other → other = task
  | .done => True

namespace Sending

/-- The auto loop is the only sender. -/
structure Generational (system : Sending ι) (active current : Nat) (isHeader : Bool) : Prop where
  serves : system.shared.Serves active
  streaming : system.shared.server.Streaming
    (generations system.shared.server.shared.settings current isHeader)
  reached : current ≤ system.shared.files
  auto : ∃ point, system.points = [point] ∧ AutoAt system.shared.server active current point

namespace Generational

variable {self next : Sending ι} {active current : Nat} {isHeader : Bool}

theorem steer (held : self.Generational active current isHeader) {shared : Transmission ι}
    (steers : self.shared.Steers shared) :
    Generational ({ self with shared } : Sending ι) active current isHeader := by
  refine ⟨held.serves.steer steers, ?_, ?_, ?_⟩
  · rw [steers.server]
    exact held.streaming
  · rw [steers.files]
    exact held.reached
  · rw [steers.server]
    exact held.auto

theorem withServer {self : Transmission ι} (serves : self.Serves active)
    {server : Transport.System ι Origin} {settings : Settings Origin}
    (streaming : server.Streaming (generations settings current isHeader))
    (greets : settings.sendHeaderOnConnect = self.server.shared.sendHeaderOnConnect)
    (header : settings.headerPayload = self.server.shared.headerPayload)
    (reached : current ≤ self.files) {points : List SenderPoint}
    (auto : ∃ point, points = [point] ∧ AutoAt server active current point) :
    Generational ({ shared := { self with server }, points } : Sending ι) active current
      isHeader := by
  obtain rfl : server.shared.settings = settings := streaming.streams.settings
  exact ⟨serves.withServer greets header, streaming, reached, auto⟩

variable [DecidableEq ι]

theorem swapRecords (held : self.Generational active current isHeader) {loaded : LoadedFile}
    (has : loaded.hasHeader = true) :
    Generational (self.request (·.swapRecords true loaded)) active current isHeader where
  serves := held.serves.swapRecords has
  streaming := System.updateHeader_streaming held.streaming rfl
  reached := Nat.le_succ_of_le held.reached
  auto := held.auto

theorem server (held : self.Generational active current isHeader)
    {action : ServerAction ι Origin}
    (free : ∀ id, action = .connect id → ∀ entry ∈ self.shared.server.pendings false, id ∉ entry.2)
    (taken : self.step (.server action) = some next) :
    next.Generational active current isHeader := by
  obtain ⟨own, server, moved, rfl⟩ := step_server_eq_some taken
  obtain ⟨header, headed, first⟩ := held.serves.firstAccepted
  have pends : ∀ task, PendsAt server.points false task →
      PendsAt self.shared.server.points false task :=
    fun task => System.pendsAt_of_own own moved
  have streaming : server.Streaming
      (generations self.shared.server.shared.settings current isHeader) := by
    refine System.own_streaming held.streaming own ?_ ?_ ?_ moved
    · rw [first]
      split
      · exact generationSafe_nil
      · exact generationSafe_singleton headed.isHeader
    · intro welcome
      rw [first, if_neg (by simp [welcome])]
      refine ⟨generationSafe_singleton headed.isHeader, header, rfl, ?_⟩
      rcases Nat.eq_or_lt_of_le held.reached with same | newer
      · exact Or.inl (headed.file.trans same.symm)
      · exact Or.inr ⟨headed.file ▸ newer, rfl⟩
    · intro id connects waits
      obtain ⟨entry, member, named⟩ := List.mem_flatMap.mp waits
      exact absurd named (free id connects entry member)
  obtain ⟨point, alone, place⟩ := held.auto
  refine withServer held.serves streaming rfl rfl held.reached ⟨point, alone, ?_⟩
  cases point with
  | sleeping => exact ⟨place.1, fun task waits => place.2 task (pends task waits)⟩
  | waiting sender message =>
      exact ⟨place.1, fun task waits => place.2.1 task (pends task waits), place.2.2⟩
  | broadcasting sender message task =>
      exact ⟨place.1, place.2.1, fun other waits => place.2.2 other (pends other waits)⟩
  | done => trivial

end Generational

theorem started_generational (config : TcpServerConfig Origin) (loop : Bool) {loaded : LoadedFile}
    (has : loaded.hasHeader = true) :
    Generational (started config true loop loaded : Sending ι) 0 0 false := by
  obtain ⟨header, found, isHeader⟩ := loaded.headerPayload_eq_some has 0
  refine ⟨⟨rfl, ⟨header, found, isHeader⟩, loaded.payloads_records 0, loaded.payloads_records 0, rfl,
    Or.inl ⟨rfl, rfl⟩⟩, System.started_streaming _ _ rfl, Nat.le_refl 0, .sleeping, rfl, rfl, ?_⟩
  intro task pends
  obtain ⟨point, entry, present, pending⟩ := pends
  obtain ⟨_, rfl⟩ := Interleaving.of_getElem?_singleton rfl present
  cases pending

variable [DecidableEq ι]

/-- Each ready client was greeted with an older header, or with that of the record's file. -/
def FollowsGreetings (self : Transmission ι) (message : Message) : Prop :=
  ∀ id ∈ self.server.shared.broadcastReadyClients,
    ∀ entry ∈ self.server.shared.connectionManager.getClientState id,
      ∀ first ∈ entry.2.accepted.head?,
        if message.payload.tag.isHeader then first.tag.file < message.payload.tag.file
        else first.tag.file ≤ message.payload.tag.file

instance (self : Transmission ι) (message : Message) : Decidable (FollowsGreetings self message) :=
  inferInstanceAs (Decidable (∀ id ∈ self.server.shared.broadcastReadyClients,
    ∀ entry ∈ self.server.shared.connectionManager.getClientState id,
      ∀ first ∈ entry.2.accepted.head?,
        if message.payload.tag.isHeader then first.tag.file < message.payload.tag.file
        else first.tag.file ≤ message.payload.tag.file))

/-- No client connects under a name that a broadcast still has to serve, and each file has a
header that is sent. -/
def Admits (self : Sending ι) : SendingAction ι → Prop
  | .server (.connect id) => ∀ entry ∈ self.shared.server.pendings false, id ∉ entry.2
  | .swapFile stream (.ok loaded) => stream.preset.1.sendHeader = true ∧ loaded.hasHeader = true
  | _ => True

instance (self : Sending ι) (action : SendingAction ι) : Decidable (self.Admits action) :=
  match action with
  | .server (.connect id) => inferInstanceAs
      (Decidable (∀ entry ∈ self.shared.server.pendings false, id ∉ entry.2))
  | .swapFile stream (.ok loaded) => inferInstanceAs
      (Decidable (stream.preset.1.sendHeader = true ∧ loaded.hasHeader = true))
  | .server (.resume _ _) | .server (.closeCancelled _) | .server (.broadcast _ _)
  | .server (.cancelBroadcast _) | .server (.updateHeader _ _) | .server .stop | .server (.tick _)
  | .autoTurn _ | .wake _ _ | .sent _ | .stepOnce _ | .togglePause | .jumpTo _
  | .setLineControls _ _ _ | .swapFile _ (.error _) => .isTrue trivial

/-- And no broadcast begins for a client that already has the header of that file or of a newer
one. -/
def KeepsGenerations (self : Sending ι) (action : SendingAction ι) : Prop :=
  self.Admits action ∧ ∀ message ∈ begins self action, message.payload.bytes ≠ [] →
    FollowsGreetings self.shared message

instance (self : Sending ι) (action : SendingAction ι) : Decidable (self.KeepsGenerations action) :=
  inferInstanceAs (Decidable (self.Admits action ∧ ∀ message ∈ begins self action,
    message.payload.bytes ≠ [] → FollowsGreetings self.shared message))

/-- A ready client can go on with a message that follows its greeting. -/
theorem awaitsFile_of_upTo {current active : Nat} {payload : Payload Origin}
    {accepted : List (Payload Origin)} (upTo : UpTo current accepted)
    (nextOf : Transmission.NextOf current active payload)
    (follows : ∀ first ∈ accepted.head?, if payload.tag.isHeader then
      first.tag.file < payload.tag.file else first.tag.file ≤ payload.tag.file) :
    AwaitsFile active payload.tag.isHeader accepted := by
  obtain ⟨safe, last, ends, place⟩ := upTo
  refine ⟨safe, last, ends, ?_⟩
  rcases nextOf with ⟨header, newer⟩ | ⟨record, rfl⟩
  · rw [if_pos header.isHeader]
    rcases place with same | ⟨_, rfl⟩
    · omega
    · have fits := follows last rfl
      rw [if_pos header.isHeader, header.file] at fits
      exact fits
  · rw [if_neg (by simp [record.isRecord])]
    rcases place with same | ⟨greeted, rfl⟩
    · exact same
    · have fits := follows last rfl
      rw [if_neg (by simp [record.isRecord]), record.file] at fits
      omega

theorem send_generational {self next : Transmission ι} {active current : Nat} {isHeader : Bool}
    (serves : self.Serves active)
    (streaming : self.server.Streaming (generations self.server.shared.settings current isHeader))
    (reached : current ≤ self.files) (idle : ∀ task, ¬PendsAt self.server.points false task)
    {message : Message} (nextOf : Transmission.NextOf current active message.payload)
    (follows : self.server.shared.hasBroadcastClients = true →
      message.payload.bytes ≠ [] → FollowsGreetings self message)
    {order : List ι} {replacement : SenderPoint}
    (sent : self.sendScheduledMessage true .auto message order = some (next, replacement)) :
    ∃ current isHeader, Generational ({ shared := next, points := [replacement] } : Sending ι)
      active current isHeader := by
  obtain ⟨ready, server, begun, rfl, rfl⟩ | ⟨_, ⟨rfl, rfl⟩ | ⟨ended, _⟩⟩ :=
    Transmission.sendScheduledMessage_cases sent
  · have alone : ∀ other, PendsAt server.points false other →
        other = self.server.points.length :=
      fun other pends => (System.pendsAt_of_broadcast begun pends).resolve_left (idle other)
    by_cases empty : message.payload.bytes = []
    · rcases nextOf with ⟨header, _⟩ | ⟨_, rfl⟩
      · exact absurd empty header.full
      · have streaming := System.broadcast_empty_streaming streaming begun empty
        exact ⟨current, isHeader, Generational.withServer serves streaming rfl rfl reached
          ⟨_, rfl, rfl, rfl, alone⟩⟩
    · have file : message.payload.tag.file = active := by
        rcases nextOf with ⟨header, _⟩ | ⟨record, _⟩
        · exact header.file
        · exact record.file
      have streaming : server.Streaming (generations
          { self.server.shared.settings with
            sent := self.server.shared.settings.sent ++ [message.payload] }
          message.payload.tag.file message.payload.tag.isHeader) := by
        refine System.broadcast_streaming streaming (pendings_eq_nil_iff.mpr idle) rfl rfl begun
          (fun _ safe => safe) ?_ (generations_accepts _ message.payload) empty
        intro id member entry found upTo
        rw [file]
        exact awaitsFile_of_upTo upTo nextOf (follows ready empty id member entry found)
      rw [file] at streaming
      exact ⟨active, message.payload.tag.isHeader, Generational.withServer serves streaming rfl rfl
        serves.active_le ⟨_, rfl, rfl, rfl, alone⟩⟩
  · exact ⟨current, isHeader, serves, streaming, reached, _, rfl, rfl, idle, nextOf⟩
  · cases ended

theorem autoTurn_generational {self next : Sending ι} {active current : Nat} {isHeader : Bool}
    {order : List ι} (met : self.KeepsGenerations (.autoTurn order))
    (held : self.Generational active current isHeader)
    (taken : self.step (.autoTurn order) = some next) :
    ∃ active current isHeader, next.Generational active current isHeader := by
  obtain ⟨shared, replacement, found, ran, rfl⟩ := step_autoTurn_eq_some taken
  obtain ⟨serves, streaming, reached, point, alone, place⟩ := held
  have sleeping : point = .sleeping := by
    rw [alone] at found
    exact Option.some.inj found
  subst sleeping
  obtain ⟨rfl, idle⟩ := place
  have single : self.points.set 0 replacement = [replacement] := by
    rw [alone]
    rfl
  rw [single]
  obtain ⟨_, ⟨rfl, rests⟩ | ⟨runs, unpaused, taking⟩⟩ := Transmission.autoTurn_eq_some ran
  · refine ⟨current, current, isHeader, serves, streaming, reached, replacement, rfl, ?_⟩
    cases replacement with
    | sleeping => exact ⟨rfl, idle⟩
    | done => trivial
    | _ => exact rests.elim
  · obtain ⟨took, rfl⟩ | ⟨message, after, took, sent⟩ := taking
    · obtain ⟨later, files, none, _⟩ := serves.take took
      have same := Transmission.take_server took
      have newest := none rfl
      refine ⟨self.shared.files, current, isHeader, later, ?_, ?_, .sleeping, rfl, newest, ?_⟩
      · rw [same]
        exact streaming
      · rw [files]
        exact reached
      · rw [same]
        exact idle
    · obtain ⟨later, files, _, nextOf⟩ := serves.take took
      have same := Transmission.take_server took
      rw [← same] at streaming idle
      rw [← files] at reached
      refine ⟨_, send_generational later streaming reached idle (nextOf message rfl) ?_ sent⟩
      unfold FollowsGreetings
      rw [same]
      intro ready full
      exact met.2 message (begins_autoTurn ready found runs unpaused took order) full

theorem wake_generational {self next : Sending ι} {active current : Nat} {isHeader : Bool}
    {index : Nat} {order : List ι} (met : self.KeepsGenerations (.wake index order))
    (held : self.Generational active current isHeader)
    (taken : self.step (.wake index order) = some next) :
    ∃ active current isHeader, next.Generational active current isHeader := by
  obtain ⟨sender, message, shared, replacement, found, sent, rfl⟩ := step_wake_eq_some taken
  obtain ⟨serves, streaming, reached, point, alone, place⟩ := held
  obtain ⟨rfl, rfl⟩ := Interleaving.of_getElem?_singleton alone found
  obtain ⟨rfl, idle, nextOf⟩ := place
  have runs : engineRuns self.points = true := by
    rw [alone]
    rfl
  rw [runs] at sent
  rw [alone]
  refine ⟨active, send_generational serves streaming reached idle nextOf ?_ sent⟩
  intro ready full
  exact met.2 message (begins_wake ready found order) full

theorem sent_generational {self next : Sending ι} {active current : Nat} {isHeader : Bool}
    {index : Nat} (held : self.Generational active current isHeader)
    (taken : self.step (.sent index) = some next) :
    next.Generational active current isHeader := by
  obtain ⟨sender, message, task, found, after⟩ := step_sent_eq_some taken
  obtain ⟨serves, streaming, reached, point, alone, place⟩ := held
  obtain ⟨rfl, rfl⟩ := Interleaving.of_getElem?_singleton alone found
  obtain ⟨rfl, rfl, only⟩ := place
  rcases after with ⟨ended, rfl⟩ | rfl
  · have alike := self.shared.finish_alike .auto message
    refine ⟨serves.steer alike.steers, streaming, reached, .sleeping, by rw [alone]; rfl, rfl, ?_⟩
    intro other pends
    obtain rfl := only other pends
    obtain ⟨entry, pending⟩ := (pendsAt_iff_of_getElem? ended).mp pends
    cases pending
  · exact ⟨⟨serves.greets, serves.header, serves.source, serves.records, serves.handedOut,
      serves.swap⟩, streaming, reached, .done, by rw [alone]; rfl, trivial⟩

theorem step_generational {self next : Sending ι} {action : SendingAction ι}
    (auto : action.isStepOnce = false) (met : self.KeepsGenerations action)
    (held : ∃ active current isHeader, self.Generational active current isHeader)
    (taken : self.step action = some next) :
    ∃ active current isHeader, next.Generational active current isHeader := by
  obtain ⟨active, current, isHeader, held⟩ := held
  cases action with
  | server action =>
      refine ⟨active, current, isHeader, held.server ?_ taken⟩
      rintro id rfl
      exact met.1
  | autoTurn order => exact autoTurn_generational met held taken
  | wake index order => exact wake_generational met held taken
  | sent index => exact ⟨active, current, isHeader, sent_generational held taken⟩
  | stepOnce order => cases auto
  | togglePause | jumpTo | setLineControls | swapFile =>
      obtain ⟨shared, rfl, steers | ⟨stream, loaded, swaps, alike⟩⟩ := step_request_eq_some rfl taken
      · exact ⟨active, current, isHeader, held.steer steers⟩
      · rw [swaps] at met
        obtain ⟨sends, has⟩ := met.1
        rw [sends] at alike
        exact ⟨active, current, isHeader, (held.swapRecords has).steer alike.steers⟩

/-- If no broadcast begins for a client that already has the header of the file or of a newer
one, each client gets the files one after the other, each with its header once and first. -/
theorem streams_generation_safe (config : TcpServerConfig Origin) (loop : Bool)
    {loaded : LoadedFile} (has : loaded.hasHeader = true) {actions : List (SendingAction ι)}
    {final : Sending ι} (auto : ∀ action ∈ actions, action.isStepOnce = false)
    (each : Runs.Each step KeepsGenerations (started config true loop loaded) actions)
    (ran : Runs.run step (started config true loop loaded) actions = some final) :
    ∀ state ∈ final.shared.server.shared.connectionManager.states,
      GenerationSafe state.accepted ∧ state.accepted.Pairwise Precedes := by
  obtain ⟨active, current, isHeader, held⟩ := (each.of_only auto).visits_invariant
    (fun self => ∃ active current isHeader, Generational self active current isHeader)
    (fun self action next met held taken => step_generational met.1 met.2 held taken)
    ⟨0, 0, false, started_generational config loop has⟩ ⟨actions, List.prefix_rfl, ran⟩
  intro state member
  have safe := held.streaming.streams.everyone state member
  exact ⟨safe, safe.pairwise⟩

def firstFile : LoadedFile where
  records := [[49, 10], [50, 10]]
  headerRaw := some [65, 10]

def secondFile : LoadedFile where
  records := [[51, 10]]
  headerRaw := some [66, 10]

/-- The second client connects when the new header has been broadcast. -/
def joinAfterSwap : List (SendingAction String) :=
  [.server (.connect "a"), .autoTurn ["a"], .sent 0, .swapFile { filePath := "b" } (.ok secondFile),
    .autoTurn ["a"], .sent 0, .server (.connect "b"), .autoTurn ["b", "a"]]

theorem streams_generation_safe_two_files : ∃ final,
    Runs.run step (started {} true true firstFile) joinAfterSwap = some final ∧
    ∀ state ∈ final.shared.server.shared.connectionManager.states,
      GenerationSafe state.accepted ∧ state.accepted.Pairwise Precedes := by
  have possible : (Runs.run step (started {} true true firstFile)
      joinAfterSwap).isSome = true := by decide +kernel
  obtain ⟨final, ran⟩ := Option.isSome_iff_exists.mp possible
  exact ⟨final, ran, streams_generation_safe {} true (by decide) (by decide) (by decide +kernel) ran⟩

/-- A client connects between the swap and the next turn of the auto loop. -/
def joinDuringSwap : List (SendingAction String) :=
  [.server (.connect "a"), .swapFile { filePath := "b" } (.ok secondFile), .server (.connect "b"),
    .autoTurn ["a", "b"]]

theorem joinDuringSwap_not_generation_safe : ∃ final,
    Runs.run step (started {} true true firstFile) joinDuringSwap = some final ∧
    ∃ state ∈ final.shared.server.shared.connectionManager.states,
      ¬(GenerationSafe state.accepted ∧ state.accepted.Pairwise Precedes) := by
  have twice : (Runs.run step (started {} true true firstFile) joinDuringSwap).map
      (fun final => decide (∀ state ∈ final.shared.server.shared.connectionManager.states,
        state.accepted.Pairwise Precedes)) = some false := by decide +kernel
  obtain ⟨final, ran, twice⟩ := Option.map_eq_some_iff.mp twice
  refine ⟨final, ran, ?_⟩
  by_contra safe
  push Not at safe
  exact of_decide_eq_false twice fun state member => (safe state member).2

/-- The auto loop holds a record of the first file while the second is swapped in. -/
example : (Runs.run step (started {} true true firstFile)
    [.autoTurn [], .swapFile { filePath := "b" } (.ok secondFile), .server (.connect "a"),
      .wake 0 ["a"]]).map (·.shared.server.shared.connectionManager.states.map fun state =>
        state.accepted.map fun payload => (payload.tag.file, payload.tag.isHeader)) =
    some [[(1, true), (0, false)]] := by decide +kernel

end Sending

end TcpSim.Gui
