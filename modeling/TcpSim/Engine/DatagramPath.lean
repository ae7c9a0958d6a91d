import TcpSim.Engine.DatagramReception
import TcpSim.Lib.Channel
import TcpSim.Transport.UdpClientSender

/-! The UDP path from end to end: a client sender, a network that loses, duplicates and reorders
datagrams and carries those of others, and a receiver engine. Not every payload becomes a
datagram. -/

set_option autoImplicit false

namespace TcpSim.Engine

open Transport

/-- The sender is configured to the receiver's address; its own is `source`. -/
structure DatagramPath where
  sender : UdpClientSender
  source : Address
  network : Channel Arrival := {}
  engine : DatagramEngine

inductive PathAction where
  | startSender (endpoint : Except String Unit)
  | stopSender
  | send (payload : Bytes)
  /-- Somebody else sends the receiver a datagram. -/
  | inject (arrival : Arrival)
  | lose (place : Nat)
  | copy (place : Nat)
  | deliver (place : Nat)
  /-- Anything but a datagram happens to the receiver engine. -/
  | engine (action : DatagramAction)

/-- The network delivers in the order of sending, and does nothing else. -/
def PathAction.InOrder : PathAction → Prop
  | .lose _ => False
  | .copy _ => False
  | .deliver place => place = 0
  | _ => True

namespace DatagramPath

variable (transport : DatagramTransport) (self : DatagramPath)

def init (config : UdpClientConfig) (source : Address) (receiver : UdpReceiver) (cfg : SinkConfig)
    (files : String → Option Bytes) : DatagramPath where
  sender := { config }
  source := source
  engine := DatagramEngine.init receiver cfg files

/-- One step; `none` when the action is not possible. -/
def step (self : DatagramPath) : PathAction → Option DatagramPath
  | .startSender endpoint => some { self with sender := self.sender.start endpoint }
  | .stopSender => some { self with sender := self.sender.stop }
  | .send payload =>
      match self.sender.send payload with
      | .error _ => some self
      | .ok sender =>
          if transport.carries payload then
            (self.network.step (.send (payload, self.source))).map fun network =>
              { self with sender, network }
          else some { self with sender }
  | .inject arrival =>
      if arrival.2 = self.source then none
      else (self.network.step (.send arrival)).map fun network => { self with network }
  | .lose place => (self.network.step (.lose place)).map fun network => { self with network }
  | .copy place => (self.network.step (.copy place)).map fun network => { self with network }
  | .deliver place => do
      let arrival ← self.network.inFlight[place]?
      let network ← self.network.step (.deliver place)
      let engine ← self.engine.step (.datagram arrival.1 arrival.2)
      return { self with network, engine }
  | .engine action =>
      if action.arrival.isSome then none
      else (self.engine.step action).map fun engine => { self with engine }

/-- What the sender has put on the network. -/
def payloads : List Bytes := (self.sender.datagrams.map Prod.fst).filter transport.carries

/-- What a step does: to the sender, to the network, to both, to the receiver or with a
delivery. -/
inductive Steps : PathAction → DatagramPath → Prop where
  | sender {action : PathAction} (sender : UdpClientSender)
      (same : payloads transport { self with sender } = self.payloads transport) :
      Steps action { self with sender }
  | sends (payload : Bytes) {sender : UdpClientSender} {network : Channel Arrival}
      (sent : payloads transport { self with sender } = self.payloads transport ++ [payload])
      (taken : self.network.step (.send (payload, self.source)) = some network) :
      Steps (.send payload) { self with sender, network }
  | injects {arrival : Arrival} {network : Channel Arrival} (other : arrival.2 ≠ self.source)
      (taken : self.network.step (.send arrival) = some network) :
      Steps (.inject arrival) { self with network }
  | loses {place : Nat} {network : Channel Arrival}
      (taken : self.network.step (.lose place) = some network) :
      Steps (.lose place) { self with network }
  | copies {place : Nat} {network : Channel Arrival}
      (taken : self.network.step (.copy place) = some network) :
      Steps (.copy place) { self with network }
  | delivers {place : Nat} {arrival : Arrival} {network : Channel Arrival} {engine : DatagramEngine}
      (found : self.network.inFlight[place]? = some arrival)
      (taken : self.network.step (.deliver place) = some network)
      (arrives : self.engine.step (.datagram arrival.1 arrival.2) = some engine) :
      Steps (.deliver place) { self with network, engine }
  | receiver {action : DatagramAction} {engine : DatagramEngine} (quiet : action.arrival = none)
      (taken : self.engine.step action = some engine) : Steps (.engine action) { self with engine }

variable {transport} in
theorem steps_of_step {self next : DatagramPath} {action : PathAction}
    (taken : self.step transport action = some next) : self.Steps transport action next := by
  cases action with
  | startSender endpoint =>
      cases taken
      refine .sender _ ?_
      unfold UdpClientSender.start
      split
      · rfl
      · split <;> rfl
  | stopSender =>
      cases taken
      exact .sender _ rfl
  | send payload =>
      simp only [step] at taken
      split at taken
      · cases taken
        exact .sender self.sender rfl
      next sender sent =>
          unfold UdpClientSender.send at sent
          split at sent
          · cases sent
          · cases sent
            split at taken
            next carried =>
                obtain ⟨network, networkTaken, rfl⟩ := Option.map_eq_some_iff.mp taken
                exact .sends payload (by simp [payloads, carried]) networkTaken
            next refused =>
                cases taken
                exact .sender _ (by simp [payloads, refused])
  | inject arrival =>
      simp only [step] at taken
      split at taken
      · cases taken
      next other =>
          obtain ⟨network, networkTaken, rfl⟩ := Option.map_eq_some_iff.mp taken
          exact .injects other networkTaken
  | lose place =>
      obtain ⟨network, networkTaken, rfl⟩ := Option.map_eq_some_iff.mp taken
      exact .loses networkTaken
  | copy place =>
      obtain ⟨network, networkTaken, rfl⟩ := Option.map_eq_some_iff.mp taken
      exact .copies networkTaken
  | deliver place =>
      simp only [step, Option.bind_eq_bind, Option.bind_eq_some_iff, Option.pure_def] at taken
      obtain ⟨arrival, found, network, networkTaken, engine, arrives, same⟩ := taken
      cases same
      exact .delivers found networkTaken arrives
  | engine action =>
      simp only [step] at taken
      split at taken
      · cases taken
      next quiet =>
          obtain ⟨engine, engineTaken, rfl⟩ := Option.map_eq_some_iff.mp taken
          exact .receiver (by simpa using quiet) engineTaken

/-! ## What was sent and what has arrived -/

/-- The duplicates of the sender's datagrams. -/
def repeats : List Bytes :=
  (self.network.copied.filter fun arrival => arrival.2 = self.source).map Prod.fst

structure Carried (transport : DatagramTransport) (admission : Admission) (path : DatagramPath) :
    Prop where
  received : Received admission path.network.delivered path.engine
  intake : ∃ ignored,
    path.engine.sink.Intake (submittedOf admission path.network.delivered) ignored
  conserved : path.network.Conserved
  known : path.network.Known
  own : (path.network.sent.filter fun arrival => arrival.2 = path.source) =
    (path.payloads transport).map fun payload => (payload, path.source)
  /-- The receiver listens to the sender and hears nobody else. -/
  audible : ∀ arrival ∈ path.network.sent,
    admission.admits arrival = decide (arrival.2 = path.source)

/-- Nobody else sends the receiver anything, or it does not listen to them. -/
def Hears (admission : Admission) (source : Address) (action : PathAction) : Prop :=
  admission.remote = some source ∨
    (admission.remote = none ∧ ∀ arrival, action ≠ .inject arrival)

variable {transport} {self} {next : DatagramPath} {admission : Admission}

theorem Carried.onNetwork {action : ChannelAction Arrival} {network : Channel Arrival}
    (carried : self.Carried transport admission) (taken : self.network.step action = some network)
    (delivered : network.delivered = self.network.delivered)
    (sent : network.sent = self.network.sent) : { self with network }.Carried transport admission where
  received := delivered ▸ carried.received
  intake := delivered ▸ carried.intake
  conserved := carried.conserved.step taken
  known := carried.known.step taken
  own := sent ▸ carried.own
  audible := sent ▸ carried.audible

theorem Carried.step {action : PathAction} (carried : self.Carried transport admission)
    (hears : Hears admission self.source action) (taken : self.step transport action = some next) :
    next.Carried transport admission := by
  cases steps_of_step taken with
  | sender sender same =>
      refine ⟨carried.received, carried.intake, carried.conserved, carried.known, ?_,
        carried.audible⟩
      rw [same]
      exact carried.own
  | @sends payload sender network sent networkTaken =>
      refine ⟨?_, ?_, carried.conserved.step networkTaken, carried.known.step networkTaken, ?_, ?_⟩
      · cases networkTaken
        exact carried.received
      · cases networkTaken
        exact carried.intake
      · cases networkTaken
        change (self.network.sent ++ [(payload, self.source)]).filter _ =
          (payloads transport { self with sender }).map _
        rw [sent, List.map_append, List.filter_append, carried.own]
        simp
      · cases networkTaken
        intro arrival member
        rcases List.mem_append.mp member with before | now
        · exact carried.audible arrival before
        · obtain rfl := List.mem_singleton.mp now
          rcases hears with remote | ⟨remote, _⟩
          · simp [Admission.admits, remote]
          · simp [Admission.admits, remote]
  | @injects arrival network other networkTaken =>
      refine ⟨?_, ?_, carried.conserved.step networkTaken, carried.known.step networkTaken, ?_, ?_⟩
      · cases networkTaken
        exact carried.received
      · cases networkTaken
        exact carried.intake
      · cases networkTaken
        change (self.network.sent ++ [arrival]).filter _ = (self.payloads transport).map _
        rw [List.filter_append, carried.own]
        simp [other]
      · cases networkTaken
        intro arrived member
        rcases List.mem_append.mp member with before | now
        · exact carried.audible arrived before
        · obtain rfl := List.mem_singleton.mp now
          rcases hears with remote | ⟨_, silent⟩
          · simp [Admission.admits, remote]
          · exact absurd rfl (silent arrived)
  | loses networkTaken =>
      obtain ⟨message, found, rfl⟩ := Option.map_eq_some_iff.mp networkTaken
      exact carried.onNetwork networkTaken rfl rfl
  | copies networkTaken =>
      obtain ⟨message, found, rfl⟩ := Option.map_eq_some_iff.mp networkTaken
      exact carried.onNetwork networkTaken rfl rfl
  | @delivers place arrival network engine found networkTaken arrives =>
      obtain ⟨ignored, intake⟩ := carried.intake
      obtain ⟨more, later, _⟩ := intake_step carried.received.counted.config intake arrives
      have received := carried.received.step arrives
      have conserved := carried.conserved.step networkTaken
      have known := carried.known.step networkTaken
      obtain ⟨message, again, rfl⟩ := Option.map_eq_some_iff.mp networkTaken
      obtain rfl := Option.some.inj (found.symm.trans again)
      exact ⟨received, ⟨more, later⟩, conserved, known, carried.own, carried.audible⟩
  | receiver quiet engineTaken =>
      obtain ⟨ignored, intake⟩ := carried.intake
      obtain ⟨more, later, _⟩ := intake_step carried.received.counted.config intake engineTaken
      have received := carried.received.step engineTaken
      rw [quiet, Option.toList_none, List.append_nil] at later received
      exact ⟨received, ⟨more, later⟩, carried.conserved, carried.known, carried.own,
        carried.audible⟩

theorem filter_source (arrivals : List Arrival) (source : Address) :
    (arrivals.filter fun arrival => arrival.2 = source) =
      ((arrivals.filter fun arrival => arrival.2 = source).map Prod.fst).map
        fun payload => (payload, source) := by
  rw [List.map_map]
  have same : ∀ arrival ∈ arrivals.filter fun arrival => arrival.2 = source,
      ((fun payload => (payload, source)) ∘ Prod.fst) arrival = id arrival := by
    intro arrival member
    have from_ : arrival.2 = source := by simpa using (List.mem_filter.mp member).2
    exact Prod.ext rfl from_.symm
  rw [List.map_congr_left same, List.map_id]

/-- Of all that was put on the network the receiver submits what comes from the sender. -/
theorem Carried.submitted (carried : self.Carried transport admission) :
    submittedOf admission (self.network.sent ++ self.network.copied) =
      (self.payloads transport ++ self.repeats).map fun payload => admission.item (payload, self.source) := by
  have sent : self.network.sent.filter admission.admits =
      (self.payloads transport).map fun payload => (payload, self.source) :=
    (List.filter_congr carried.audible).trans carried.own
  have copied : self.network.copied.filter admission.admits =
      self.repeats.map fun payload => (payload, self.source) :=
    (List.filter_congr fun arrival member =>
      carried.audible arrival (carried.known.copied member)).trans (filter_source _ _)
  rw [submittedOf, List.filter_append, sent, copied, ← List.map_append, List.map_map]
  rfl

theorem Carried.written_subperm (carried : self.Carried transport admission) :
    (self.engine.sink.file.written.map WrittenRecord.item ++
        self.engine.sink.queue.filter QueueItem.isData).Subperm
      ((self.payloads transport ++ self.repeats).map fun payload =>
        admission.item (payload, self.source)) := by
  obtain ⟨_, intake⟩ := carried.intake
  have recorded := carried.received.ordered.writtenAndQueued.trans intake.order
  have arrived : (submittedOf admission self.network.delivered).Subperm
      (submittedOf admission (self.network.sent ++ self.network.copied)) := by
    have part : (submittedOf admission self.network.delivered).Sublist
        (submittedOf admission
          (self.network.delivered ++ self.network.lost ++ self.network.inFlight)) := by
      refine List.Sublist.map _ (List.Sublist.filter _ ?_)
      rw [List.append_assoc]
      exact List.sublist_append_left _ _
    exact part.subperm.trans ((carried.conserved.filter _).map _).subperm
  rw [carried.submitted] at arrived
  exact recorded.subperm.trans arrived

theorem Carried.repeats_subset (carried : self.Carried transport admission) :
    self.repeats ⊆ self.payloads transport := by
  intro payload member
  obtain ⟨arrival, copied, rfl⟩ := List.mem_map.mp member
  obtain ⟨inCopied, own⟩ := List.mem_filter.mp copied
  have sent : arrival ∈ self.network.sent.filter fun arrival => arrival.2 = self.source :=
    List.mem_filter.mpr ⟨carried.known.copied inCopied, own⟩
  rw [carried.own] at sent
  obtain ⟨payload, known, rfl⟩ := List.mem_map.mp sent
  exact known

theorem Carried.accounted (carried : self.Carried transport admission) :
    self.engine.receiver.counts.recordsReceived + self.engine.receiver.packetsFiltered +
        self.network.lost.length + self.network.inFlight.length =
      self.network.sent.length + self.network.copied.length := by
  have total := carried.conserved.length_eq
  simp only [List.length_append] at total
  have counted := carried.received.counted
  have records := counted.records
  have filtered := counted.filtered
  omega

theorem source_step {action : PathAction} (taken : self.step transport action = some next) :
    next.source = self.source := by
  cases steps_of_step taken <;> rfl

/-- A run over a network without faults into an enabled sink. -/
structure Ordered (transport : DatagramTransport) (admission : Admission) (path : DatagramPath) :
    Prop where
  carried : path.Carried transport admission
  network : path.network.InOrder
  intake : path.engine.sink.Intake (submittedOf admission path.network.delivered) 0

theorem Ordered.step {path next : DatagramPath} {admission : Admission} {action : PathAction}
    (ordered : path.Ordered transport admission) (hears : Hears admission path.source action)
    (faultless : action.InOrder) (enabled : path.engine.sink.cfg.enabled = true)
    (taken : path.step transport action = some next) : next.Ordered transport admission := by
  have carried := ordered.carried.step hears taken
  have config := ordered.carried.received.counted.config
  cases steps_of_step taken with
  | sender => exact ⟨carried, ordered.network, ordered.intake⟩
  | sends payload sent networkTaken =>
      refine ⟨carried, ordered.network.step networkTaken trivial, ?_⟩
      cases networkTaken
      exact ordered.intake
  | injects other networkTaken =>
      refine ⟨carried, ordered.network.step networkTaken trivial, ?_⟩
      cases networkTaken
      exact ordered.intake
  | loses => cases faultless
  | copies => cases faultless
  | delivers found networkTaken arrives =>
      have network := ordered.network.step networkTaken faultless
      obtain ⟨more, later, same⟩ := intake_step config ordered.intake arrives
      rw [same enabled] at later
      obtain ⟨message, again, rfl⟩ := Option.map_eq_some_iff.mp networkTaken
      obtain rfl := Option.some.inj (found.symm.trans again)
      exact ⟨carried, network, later⟩
  | receiver quiet engineTaken =>
      obtain ⟨more, later, same⟩ := intake_step config ordered.intake engineTaken
      rw [same enabled, quiet, Option.toList_none, List.append_nil] at later
      exact ⟨carried, ordered.network, later⟩

/-- Once everything has arrived, all that was sent has been accepted. -/
theorem Ordered.accepted_eq {path : DatagramPath} {admission : Admission}
    (ordered : path.Ordered transport admission) (dropsNothing : path.engine.sink.recordsDropped = 0)
    (arrived : path.network.inFlight = []) :
    path.engine.sink.accepted =
      (path.payloads transport).map fun payload => admission.item (payload, path.source) := by
  have nothingCopied : path.repeats = [] := by simp [repeats, ordered.network.copied]
  have all : path.network.delivered = path.network.sent ++ path.network.copied := by
    rw [ordered.network.copied, ordered.network.sent, arrived, List.append_nil, List.append_nil]
  have submitted := ordered.carried.submitted
  rw [← all, nothingCopied, List.append_nil] at submitted
  rw [← submitted]
  have total := ordered.intake.total
  have refused : path.engine.sink.recordsDropped = path.engine.sink.refused :=
    ordered.carried.received.refusals
  exact ordered.intake.order.eq_of_length (by omega)

/-! ## Runs -/

section Runs

variable (transport : DatagramTransport) (config : UdpClientConfig) (source : Address)
  {receiver : UdpReceiver} (isNew : IsNew receiver) (cfg : SinkConfig)
  (files : String → Option Bytes) {actions : List PathAction} {final : DatagramPath}

include isNew

theorem init_carried : (init config source receiver cfg files).Carried transport (admissionOf receiver) where
  received := isNew.received cfg files
  intake := ⟨0, SinkWriter.init_intake cfg files⟩
  conserved := List.Perm.refl _
  known := ⟨List.nil_subset _, List.nil_subset _⟩
  own := rfl
  audible := by
    intro arrival member
    cases member

theorem carried_run
    (hears : ∀ action ∈ actions, Hears (admissionOf receiver) source action)
    (ran : Runs.run (step transport) (init config source receiver cfg files) actions = some final) :
    final.Carried transport (admissionOf receiver) ∧ final.source = source :=
  Runs.run_invariant_of (Hears (admissionOf receiver) source)
    (fun path => path.Carried transport (admissionOf receiver) ∧ path.source = source)
    (fun _ _ _ hears inv taken =>
      ⟨inv.1.step (inv.2 ▸ hears) taken, (source_step taken).trans inv.2⟩)
    ⟨init_carried transport config source isNew cfg files, rfl⟩ hears ran

/-- Over a network that loses, duplicates and reorders datagrams: what is written and what is
queued is no more than the payloads that the sender has put on it, each cut off at the cap, and their
duplicates; and each datagram is received, filtered out, lost or still on its way. -/
theorem path_invents_nothing
    (hears : ∀ action ∈ actions, Hears (admissionOf receiver) source action)
    (ran : Runs.run (step transport) (init config source receiver cfg files) actions = some final) :
    (final.engine.sink.file.written.map WrittenRecord.item ++
          final.engine.sink.queue.filter QueueItem.isData).Subperm
        ((final.payloads transport ++ final.repeats).map fun payload =>
          (admissionOf receiver).item (payload, source)) ∧
      final.repeats ⊆ final.payloads transport ∧
      final.engine.receiver.counts.recordsReceived + final.engine.receiver.packetsFiltered +
          final.network.lost.length + final.network.inFlight.length =
        final.network.sent.length + final.network.copied.length := by
  obtain ⟨carried, rfl⟩ := carried_run transport config source isNew cfg files hears ran
  exact ⟨carried.written_subperm, carried.repeats_subset, carried.accounted⟩

end Runs

def toReceiver : UdpClientConfig := { host := "10.0.0.7", port := 5565 }

/-- One payload is duplicated and its copy overtakes it, another one is lost, and somebody else
sends a datagram. -/
def faultyNetwork : List PathAction :=
  [.engine (.sink .start), .engine (.sink (.begin [])), .engine (.start (.ok none)),
    .send [0x60], .startSender (.ok ()), .send [0x61], .send [0x62],
    .inject ([0x63], { host := "10.0.0.2", port := 9000 }), .copy 0, .deliver 3, .lose 1,
    .deliver 0, .deliver 0]

theorem path_invents_nothing_faulty_network : ∃ final,
    Runs.run (step python312) (init toReceiver { host := "10.0.0.1", port := 9000 } filteringClient
      twoByteQueue fun _ => none) faultyNetwork = some final ∧
    (final.engine.sink.file.written.map WrittenRecord.item ++
          final.engine.sink.queue.filter QueueItem.isData).Subperm
        ((final.payloads python312 ++ final.repeats).map fun payload =>
          (admissionOf filteringClient).item (payload, { host := "10.0.0.1", port := 9000 })) ∧
      final.repeats ⊆ final.payloads python312 ∧
      final.engine.receiver.counts.recordsReceived + final.engine.receiver.packetsFiltered +
          final.network.lost.length + final.network.inFlight.length =
        final.network.sent.length + final.network.copied.length := by
  have reached : (Runs.run (step python312) (init toReceiver { host := "10.0.0.1", port := 9000 }
      filteringClient twoByteQueue fun _ => none) faultyNetwork).isSome = true := by decide +kernel
  obtain ⟨final, ran⟩ := Option.isSome_iff_exists.mp reached
  exact ⟨final, ran, path_invents_nothing python312 toReceiver _ filteringClient_isNew twoByteQueue
    (fun _ => none) (fun _ _ => .inl rfl) ran⟩

end DatagramPath

end TcpSim.Engine
