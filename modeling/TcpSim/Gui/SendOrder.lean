import TcpSim.Gui.TransmissionProperties
import TcpSim.Transport.Streams

/-! The order in which messages reach the clients, with any number of single steps next to the
auto loop. -/

set_option autoImplicit false

namespace TcpSim.Gui

open Engine Transport

variable {ι : Type}

/-! ## What clients have accepted -/

/-- The messages among the accepted payloads, by their places in what `step` returned. -/
def numbers (accepted : List (Payload Origin)) : List Nat :=
  accepted.filterMap (·.tag.number)

/-- The messages are in order, and all come before the bound. -/
structure IncreasesTo (bound : Nat) (accepted : List (Payload Origin)) : Prop where
  increasing : (numbers accepted).Pairwise (· < ·)
  below : ∀ number ∈ numbers accepted, number < bound

theorem IncreasesTo.mono {low high : Nat} {accepted : List (Payload Origin)}
    (increases : IncreasesTo low accepted) (higher : low ≤ high) : IncreasesTo high accepted where
  increasing := increases.increasing
  below := fun number member => Nat.lt_of_lt_of_le (increases.below number member) higher

theorem IncreasesTo.concat {number : Nat} {accepted : List (Payload Origin)}
    (increases : IncreasesTo number accepted) {payload : Payload Origin}
    (numbered : payload.tag.number = some number) :
    IncreasesTo (number + 1) (accepted ++ [payload]) := by
  have split : numbers (accepted ++ [payload]) = numbers accepted ++ [number] := by
    simp [numbers, numbered]
  constructor
  · rw [split, List.pairwise_append]
    refine ⟨increases.increasing, List.pairwise_singleton _ _, ?_⟩
    intro earlier member last same
    rw [List.mem_singleton.mp same]
    exact increases.below earlier member
  · rw [split]
    intro other member
    rcases List.mem_append.mp member with earlier | last
    · exact Nat.lt_succ_of_lt (increases.below other earlier)
    · rw [List.mem_singleton.mp last]
      exact Nat.lt_succ_self number

theorem increasesTo_of_unnumbered (bound : Nat) {accepted : List (Payload Origin)}
    (none : numbers accepted = []) : IncreasesTo bound accepted := by
  constructor
  · rw [none]
    exact List.Pairwise.nil
  · rw [none]
    intro number member
    cases member

/-- The bound is one more than the number of the last broadcast. -/
def inOrder (settings : Settings Origin) (bound : Nat) : Expectation Origin where
  settings := settings
  everyone := IncreasesTo bound
  upToDate := IncreasesTo bound
  awaiting := IncreasesTo (bound - 1)
  lenient := true
  forgives := fun _ _ increases => increases.mono (Nat.sub_le bound 1)

theorem inOrder_accepts (settings : Settings Origin) {payload : Payload Origin} {number : Nat}
    (numbered : payload.tag.number = some number) :
    (inOrder settings (number + 1)).Accepts payload :=
  fun _ increases => ⟨increases.concat numbered, increases.concat numbered⟩

theorem numbers_firstAccepted {settings : Settings Origin}
    (unnumbered : ∀ header ∈ settings.headerPayload, header.tag.number = none) :
    numbers settings.firstAccepted = [] := by
  unfold Settings.firstAccepted Settings.greeting
  split
  · rfl
  · split
    · cases header : settings.headerPayload with
      | none => rfl
      | some payload =>
          have plain := unnumbered payload header
          by_cases full : payload.bytes = []
          · simp [numbers, Option.filter, full]
          · simp [numbers, Option.filter, full, plain]
    · rfl

theorem LoadedFile.headerPayload_unnumbered {loaded : LoadedFile} {file : Nat} {sendHeader : Bool}
    {header : Payload Origin} (member : header ∈ loaded.headerPayload file sendHeader) :
    header.tag.number = none := by
  unfold LoadedFile.headerPayload at member
  split at member
  · obtain ⟨bytes, _, rfl⟩ := Option.map_eq_some_iff.mp member
    rfl
  · cases member

/-! ## Messages that are held back -/

def SenderPoint.held : SenderPoint → Option Nat
  | .waiting _ message => message.payload.tag.number
  | _ => none

def SenderPoint.HoldsIn (low high : Nat) : SenderPoint → Prop
  | .waiting _ message =>
      ∃ number, message.payload.tag.number = some number ∧ low ≤ number ∧ number < high
  | _ => True

theorem SenderPoint.Rests.holdsIn {point : SenderPoint} (rests : point.Rests) (low high : Nat) :
    point.HoldsIn low high := by
  cases point with
  | waiting sender message => exact rests.elim
  | _ => trivial

namespace Sending

/-- The senders next to the one that acts. -/
def others (self : Sending ι) : SendingAction ι → List SenderPoint
  | .wake index _ => self.points.eraseIdx index
  | _ => self.points

/-- A broadcast begins when none is under way and no earlier message is held back. -/
def SendsInOrder (self : Sending ι) (action : SendingAction ι) : Prop :=
  ∀ message ∈ begins self action, message.payload.bytes ≠ [] →
    self.shared.server.pendings true = [] ∧
    ∀ number ∈ message.payload.tag.number,
      ∀ other ∈ (self.others action).filterMap SenderPoint.held, number < other

instance (self : Sending ι) (action : SendingAction ι) : Decidable (self.SendsInOrder action) :=
  inferInstanceAs (Decidable (∀ message ∈ begins self action, message.payload.bytes ≠ [] →
    self.shared.server.pendings true = [] ∧
    ∀ number ∈ message.payload.tag.number,
      ∀ other ∈ (self.others action).filterMap SenderPoint.held, number < other))

/-- Every message not broadcast yet comes after those that were. -/
structure Ordered (system : Sending ι) (bound : Nat) : Prop where
  streaming : system.shared.server.Streaming (inOrder system.shared.server.shared.settings bound)
  unnumbered : ∀ header ∈ system.shared.server.shared.headerPayload, header.tag.number = none
  held : ∀ point ∈ system.points, point.HoldsIn bound system.shared.produced
  produced : bound ≤ system.shared.produced

namespace Ordered

variable {bound : Nat}

theorem change {self next : Sending ι} (ordered : self.Ordered bound)
    (server : next.shared.server = self.shared.server)
    (produced : next.shared.produced = self.shared.produced)
    (held : ∀ point ∈ next.points, point ∈ self.points ∨
      point.HoldsIn bound self.shared.produced) : next.Ordered bound where
  streaming := by
    rw [server]
    exact ordered.streaming
  unnumbered := by
    rw [server]
    exact ordered.unnumbered
  held := by
    rw [produced]
    intro point member
    rcases held point member with old | new
    · exact ordered.held point old
    · exact new
  produced := by
    rw [produced]
    exact ordered.produced

theorem set {self : Sending ι} (ordered : self.Ordered bound) {index : Nat}
    {replacement : SenderPoint} (rests : replacement.Rests) :
    Ordered ({ self with points := self.points.set index replacement } : Sending ι) bound := by
  refine ordered.change rfl rfl ?_
  intro point member
  rcases List.mem_or_eq_of_mem_set member with old | rfl
  · exact Or.inl old
  · exact Or.inr (rests.holdsIn _ _)

theorem drop {self : Sending ι} (ordered : self.Ordered bound) (index : Nat) :
    Ordered ({ self with points := self.points.eraseIdx index } : Sending ι) bound :=
  ordered.change rfl rfl fun _ member => Or.inl (List.mem_of_mem_eraseIdx member)

theorem steer {self : Sending ι} (ordered : self.Ordered bound) {shared : Transmission ι}
    (steers : self.shared.Steers shared) :
    Ordered ({ self with shared } : Sending ι) bound :=
  ordered.change steers.server steers.produced fun _ member => Or.inl member

theorem take {self : Sending ι} (ordered : self.Ordered bound) {message : Option Message}
    {after : Transmission ι} (took : self.shared.take = (message, after)) :
    Ordered ({ shared := after, points := self.points } : Sending ι) bound ∧
      ∀ message' ∈ message, ∃ number, message'.payload.tag.number = some number ∧
        bound ≤ number ∧ number < after.produced := by
  rcases self.shared.take_cases with ⟨_, same⟩ | ⟨found, _, same⟩
  · rw [same] at took
    cases took
    refine ⟨ordered.change rfl rfl fun point member => Or.inl member, ?_⟩
    intro message' member
    cases member
  · rw [same] at took
    cases took
    refine ⟨⟨ordered.streaming, ordered.unnumbered, ?_, ?_⟩, ?_⟩
    · intro point member
      have held := ordered.held point member
      cases point with
      | waiting sender message =>
          obtain ⟨number, numbered, low, high⟩ := held
          exact ⟨number, numbered, low, Nat.lt_succ_of_lt high⟩
      | _ => trivial
    · exact Nat.le_succ_of_le ordered.produced
    · intro message' member
      obtain rfl := Option.some.inj member
      exact ⟨self.shared.produced, rfl, ordered.produced, Nat.lt_succ_self _⟩

theorem withServer {self : Sending ι} (ordered : self.Ordered bound) {later : Nat}
    {server : Transport.System ι Origin} {settings : Settings Origin}
    (streaming : server.Streaming (inOrder settings later))
    (header : settings.headerPayload = self.shared.server.shared.headerPayload)
    {points : List SenderPoint}
    (held : ∀ point ∈ points, point.HoldsIn later self.shared.produced)
    (produced : later ≤ self.shared.produced) :
    Ordered ({ shared := { self.shared with server }, points } : Sending ι) later := by
  obtain rfl : server.shared.settings = settings := streaming.streams.settings
  refine ⟨streaming, ?_, held, produced⟩
  rw [show server.shared.headerPayload = self.shared.server.shared.headerPayload from header]
  exact ordered.unnumbered

variable [DecidableEq ι]

theorem server {self next : Sending ι} (ordered : self.Ordered bound)
    {action : ServerAction ι Origin} (taken : self.step (.server action) = some next) :
    next.Ordered bound := by
  obtain ⟨own, server, moved, rfl⟩ := step_server_eq_some taken
  have first : ∀ limit, IncreasesTo limit self.shared.server.shared.settings.firstAccepted :=
    fun limit => increasesTo_of_unnumbered limit (numbers_firstAccepted ordered.unnumbered)
  have streaming := System.own_streaming ordered.streaming own (first _) (fun _ => first _)
    (fun _ _ _ => first _) moved
  exact ordered.withServer streaming rfl ordered.held ordered.produced

theorem swapRecords {self : Sending ι} (ordered : self.Ordered bound) (sendHeader : Bool)
    (loaded : LoadedFile) : Ordered (self.request (·.swapRecords sendHeader loaded)) bound where
  streaming := System.updateHeader_streaming ordered.streaming rfl
  unnumbered := by
    intro header member
    have loadedHeader : header ∈ loaded.headerPayload (self.shared.files + 1) sendHeader := member
    exact loaded.headerPayload_unnumbered loadedHeader
  held := ordered.held
  produced := ordered.produced

/-- A message that comes after all that were broadcast is sent, held back or dropped. -/
theorem send {self : Sending ι} (ordered : self.Ordered bound) {runs : Bool} {sender : Sender}
    {message : Message} {order : List ι} {next : Transmission ι} {replacement : SenderPoint}
    {number : Nat} (numbered : message.payload.tag.number = some number) (low : bound ≤ number)
    (high : number < self.shared.produced)
    (free : self.shared.server.shared.hasBroadcastClients = true →
      message.payload.bytes ≠ [] → self.shared.server.pendings true = [] ∧
        ∀ other ∈ self.points.filterMap SenderPoint.held, number < other)
    (sent : self.shared.sendScheduledMessage runs sender message order = some (next, replacement))
    {points : List SenderPoint}
    (split : ∀ point ∈ points, point ∈ self.points ∨ point = replacement) :
    ∃ bound, Ordered ({ shared := next, points } : Sending ι) bound := by
  obtain ⟨ready, server, begun, rfl, rfl⟩ | ⟨_, ⟨rfl, rfl⟩ | ⟨_, dropped⟩⟩ :=
    Transmission.sendScheduledMessage_cases sent
  · by_cases empty : message.payload.bytes = []
    · refine ⟨bound, ordered.withServer
        (System.broadcast_empty_streaming ordered.streaming begun empty) rfl ?_ ordered.produced⟩
      intro point member
      rcases split point member with old | rfl
      · exact ordered.held point old
      · trivial
    · obtain ⟨idle, first⟩ := free ready empty
      have streaming : server.Streaming (inOrder { self.shared.server.shared.settings with
          sent := self.shared.server.shared.settings.sent ++ [message.payload] } (number + 1)) :=
        System.broadcast_streaming ordered.streaming idle rfl rfl begun
          (fun _ increases => increases.mono (Nat.le_succ_of_le low))
          (fun _ _ _ _ increases => increases.mono low) (inOrder_accepts _ numbered) empty
      refine ⟨number + 1, ordered.withServer streaming rfl ?_ high⟩
      intro point member
      rcases split point member with old | rfl
      · have held := ordered.held point old
        cases point with
        | waiting sender waiting =>
            obtain ⟨other, known, _, below⟩ := held
            exact ⟨other, known, first other (List.mem_filterMap.mpr ⟨_, old, known⟩), below⟩
        | _ => trivial
      · trivial
  · refine ⟨bound, ordered.change rfl rfl ?_⟩
    intro point member
    refine (split point member).imp_right ?_
    rintro rfl
    exact ⟨number, numbered, low, high⟩
  · have alike := self.shared.finish_alike sender message
    have rests := self.shared.finish_rests sender message
    rw [← dropped] at alike rests
    refine ⟨bound, ordered.change alike.server alike.produced ?_⟩
    intro point member
    refine (split point member).imp_right ?_
    rintro rfl
    exact rests.holdsIn _ _

end Ordered

theorem started_ordered (config : TcpServerConfig Origin) (sendHeader loop : Bool)
    (loaded : LoadedFile) :
    Ordered (started config sendHeader loop loaded : Sending ι) 0 where
  streaming := System.started_streaming _ (inOrder _ 0) rfl
  unnumbered := fun header member => loaded.headerPayload_unnumbered member
  held := by
    intro point member
    rw [List.mem_singleton.mp member]
    trivial
  produced := Nat.le_refl 0

variable [DecidableEq ι]

theorem step_ordered {self next : Sending ι} {action : SendingAction ι} {bound : Nat}
    (met : self.SendsInOrder action) (ordered : self.Ordered bound)
    (taken : self.step action = some next) : ∃ bound, next.Ordered bound := by
  cases action with
  | server action => exact ⟨bound, ordered.server taken⟩
  | autoTurn order =>
      obtain ⟨shared, replacement, found, ran, rfl⟩ := step_autoTurn_eq_some taken
      obtain ⟨_, ⟨rfl, rests⟩ | ⟨runs, unpaused, ⟨took, rfl⟩ | ⟨message, after, took, sent⟩⟩⟩ :=
        Transmission.autoTurn_eq_some ran
      · exact ⟨bound, ordered.set rests⟩
      · exact ⟨bound, (ordered.take took).1.set trivial⟩
      · obtain ⟨middle, handed⟩ := ordered.take took
        obtain ⟨number, numbered, low, high⟩ := handed message rfl
        refine middle.send numbered low high ?_ sent fun point => List.mem_or_eq_of_mem_set
        simp only [Transmission.take_server took]
        intro ready full
        obtain ⟨idle, first⟩ := met message (begins_autoTurn ready found runs unpaused took order) full
        exact ⟨idle, first number numbered⟩
  | wake index order =>
      obtain ⟨sender, message, shared, replacement, found, sent, rfl⟩ := step_wake_eq_some taken
      obtain ⟨number, numbered, low, high⟩ := ordered.held _ (List.mem_of_getElem? found)
      have begun : self.shared.server.shared.hasBroadcastClients = true →
          begins self (.wake index order) = some message :=
        fun ready => begins_wake ready found order
      refine (ordered.drop index).send numbered low high ?_ sent
        fun point => Interleaving.mem_set_of_others
      intro ready full
      obtain ⟨idle, first⟩ := met message (begun ready) full
      exact ⟨idle, first number numbered⟩
  | sent index =>
      obtain ⟨sender, message, task, _, after⟩ := step_sent_eq_some taken
      refine ⟨bound, ?_⟩
      rcases after with ⟨_, rfl⟩ | rfl
      · have alike := self.shared.finish_alike sender message
        exact (ordered.set (self.shared.finish_rests sender message)).change alike.server
          alike.produced fun point member => Or.inl member
      · obtain ⟨running, stopped⟩ := self.shared.cancelSender_scheduler sender
        rw [stopped]
        exact (ordered.set (self.shared.cancelSender_rests sender)).change rfl rfl
          fun point member => Or.inl member
  | stepOnce order =>
      obtain ⟨shared, point, ran, rfl⟩ := step_stepOnce_eq_some taken
      obtain ⟨after, took, alike, rfl⟩ | ⟨message, after, took, sent⟩ :=
        Transmission.stepOnce_eq_some ran
      · refine ⟨bound, (ordered.take took).1.change alike.server alike.produced ?_⟩
        intro point member
        rcases List.mem_append.mp member with old | new
        · exact Or.inl old
        · rw [List.mem_singleton.mp new]
          exact Or.inr trivial
      · obtain ⟨middle, handed⟩ := ordered.take took
        obtain ⟨number, numbered, low, high⟩ := handed message rfl
        refine middle.send numbered low high ?_ sent ?_
        · simp only [Transmission.take_server took]
          intro ready full
          obtain ⟨idle, first⟩ := met message (begins_stepOnce ready took order) full
          exact ⟨idle, first number numbered⟩
        · intro other member
          exact (List.mem_append.mp member).imp_right List.mem_singleton.mp
  | togglePause | jumpTo | setLineControls | swapFile =>
      obtain ⟨shared, rfl, steers | ⟨stream, loaded, _, alike⟩⟩ := step_request_eq_some rfl taken
      · exact ⟨bound, ordered.steer steers⟩
      · exact ⟨bound, (ordered.swapRecords stream.preset.1.sendHeader loaded).steer alike.steers⟩

/-- If no broadcast begins while another one is under way or an earlier message is held back,
each client accepts the messages in the order in which they were taken. -/
theorem messages_in_order (config : TcpServerConfig Origin) (sendHeader loop : Bool)
    (loaded : LoadedFile) {actions : List (SendingAction ι)} {final : Sending ι}
    (each : Runs.Each step SendsInOrder (started config sendHeader loop loaded) actions)
    (ran : Runs.run step (started config sendHeader loop loaded) actions = some final) :
    ∀ state ∈ final.shared.server.shared.connectionManager.states,
      (numbers state.accepted).Pairwise (· < ·) := by
  obtain ⟨bound, ordered⟩ := each.visits_invariant (fun self => ∃ bound, Ordered self bound)
    (fun self action next met ⟨bound, ordered⟩ taken => step_ordered met ordered taken)
    ⟨0, started_ordered config sendHeader loop loaded⟩ ⟨actions, List.prefix_rfl, ran⟩
  intro state member
  exact (ordered.streaming.streams.everyone state member).increasing

def fourLines : LoadedFile where
  records := [[49, 10], [50, 10], [51, 10], [52, 10]]
  headerRaw := none

/-- Single steps while the auto loop sleeps; the second client joins between them. -/
def stepsBetweenTurns : List (SendingAction String) :=
  [.server (.connect "a"), .autoTurn ["a"], .sent 0, .stepOnce ["a"], .sent 1,
    .server (.connect "b"), .stepOnce ["b", "a"], .sent 2, .autoTurn ["a", "b"]]

theorem messages_in_order_two_clients : ∃ final,
    Runs.run step (started {} false true fourLines) stepsBetweenTurns = some final ∧
    ∀ state ∈ final.shared.server.shared.connectionManager.states,
      (numbers state.accepted).Pairwise (· < ·) := by
  have possible : (Runs.run step (started {} false true fourLines)
      stepsBetweenTurns).isSome = true := by decide +kernel
  obtain ⟨final, ran⟩ := Option.isSome_iff_exists.mp possible
  exact ⟨final, ran, messages_in_order {} false true fourLines (by decide +kernel) ran⟩

/-- A single step is asked for when the first client has connected and the auto loop, which
holds a message, has not woken up yet. -/
def stepBeforeWaking : List (SendingAction String) :=
  [.autoTurn [], .server (.connect "a"), .stepOnce ["a"], .wake 0 ["a"]]

theorem stepBeforeWaking_not_in_order : ∃ final,
    Runs.run step (started {} false true fourLines) stepBeforeWaking = some final ∧
    ∃ state ∈ final.shared.server.shared.connectionManager.states,
      ¬(numbers state.accepted).Pairwise (· < ·) := by
  have overtaken : (Runs.run step (started {} false true fourLines) stepBeforeWaking).map
      (·.shared.server.shared.connectionManager.states.map (numbers ·.accepted)) =
        some [[1, 0]] := by decide +kernel
  obtain ⟨final, ran, accepted⟩ := Option.map_eq_some_iff.mp overtaken
  obtain ⟨state, member, same⟩ := List.mem_map.mp (accepted ▸ List.mem_singleton_self [1, 0])
  refine ⟨final, ran, state, member, ?_⟩
  rw [same]
  decide

end Sending

end TcpSim.Gui
