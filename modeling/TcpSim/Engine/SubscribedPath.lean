import TcpSim.Engine.DatagramPath
import TcpSim.Transport.Subscriptions

/-! The UDP path in the other direction: a server that replies to its senders, and a client
receiver that subscribes with hellos. For the subscriber the server is a sender with an open path
to it. -/

set_option autoImplicit false

namespace TcpSim.Transport

open Engine

/-- The datagrams to an address. -/
def mailTo (addr : Address) (server : UdpServerSender Address) : List (Bytes × Address) :=
  server.datagrams.filter fun datagram => datagram.2 = addr

namespace Subscription

/-- What a step does for an address: nothing, a hello, or a datagram to it. -/
inductive Turns (addr : Address) (state : Subscription) :
    SubscriptionAction → Subscription → Prop where
  | quiet {action : SubscriptionAction} {next : Subscription}
      (receiver : next.receiver = state.receiver)
      (mail : mailTo addr next.server = mailTo addr state.server) : Turns addr state action next
  | greets {next : Subscription} (asleep : state.receiver.helloTask = some .sleeping)
      (receiver : next.receiver = state.receiver.helloWakes)
      (mail : mailTo addr next.server = mailTo addr state.server) : Turns addr state .helloWakes next
  | sends (payload : Bytes) {next : Subscription} (receiver : next.receiver = state.receiver)
      (mail : mailTo addr next.server = mailTo addr state.server ++ [(payload, addr)]) :
      Turns addr state (.send payload) next

variable {surroundings : Surroundings} {config : UdpClientReceiverConfig}
  {serverConfig : UdpServerConfig Address} {state next : Subscription}

theorem turns_of_step {action : SubscriptionAction}
    (lasting : Lasting surroundings config serverConfig)
    (kept : Kept surroundings config serverConfig state)
    (taken : state.step surroundings action = some next) :
    Turns surroundings.me state action next := by
  cases action with
  | wait duration =>
      obtain ⟨_, taken⟩ := Option.ite_none_right_eq_some.mp taken
      cases taken
      exact .quiet rfl rfl
  | helloWakes =>
      obtain ⟨possible, taken⟩ := Option.ite_none_right_eq_some.mp taken
      cases taken
      exact .greets possible.1 rfl rfl
  | arrive place =>
      obtain ⟨_, _, rfl⟩ := Option.map_eq_some_iff.mp taken
      exact .quiet rfl rfl
  | register addr =>
      obtain ⟨_, taken⟩ := Option.ite_none_right_eq_some.mp taken
      cases taken
      exact .quiet rfl rfl
  | cleanup =>
      cases taken
      obtain ⟨recipientCache, events, cleaned, _⟩ := state.server.cleanupExpired_cache state.now
      refine .quiet rfl ?_
      rw [cleaned]
      rfl
  | send payload =>
      obtain ⟨server, ran, _, _, _, replies⟩ :=
        UdpServerSender.send_open kept.serves.isOpen payload state.now
      simp only [Subscription.step, ran, Option.some.injEq] at taken
      obtain rfl := taken
      have mail : mailTo surroundings.me server = mailTo surroundings.me state.server ++
          (if surroundings.me ∈ server.recipientCache.entries.map Prod.fst then [payload]
            else []).map (·, surroundings.me) := by
        rw [← replies_to, ← DatagramPath.filter_source, mailTo,
          replies (kept.serves.config ▸ lasting.reply), List.filter_append]
        rfl
      split at mail
      · exact .sends payload rfl mail
      · exact .quiet rfl (mail.trans (List.append_nil _))

/-- The receiver may have gone on in the meantime, as long as it still greets. -/
theorem Kept.withReceiver (kept : Kept surroundings config serverConfig state)
    {receiver : UdpClientReceiver} (greets : Greets config receiver) :
    Kept surroundings config serverConfig { state with receiver } :=
  ⟨greets, kept.serves, kept.hellos, kept.asleep, kept.wakes, kept.entry, kept.absent, kept.paid,
    kept.heard⟩

end Subscription

end TcpSim.Transport

namespace TcpSim.Engine

open Transport

structure SubscribedPath where
  subscription : Subscription
  /-- The server's address. -/
  home : Address
  network : Channel Arrival := {}
  sink : SinkWriter
  sinkEvents : List SinkEvent := []

inductive SubscribedAction where
  /-- Time passes, or something happens between the server and its senders. -/
  | subscription (action : SubscriptionAction)
  /-- Somebody else sends the subscriber a datagram. -/
  | inject (arrival : Arrival)
  | lose (place : Nat)
  | copy (place : Nat)
  | deliver (place : Nat)
  | sink (action : SinkAction)
  | errorReceived (error : String)

/-- The network delivers in the order of sending, and does nothing else. -/
def SubscribedAction.InOrder : SubscribedAction → Prop
  | .lose _ => False
  | .copy _ => False
  | .deliver place => place = 0
  | _ => True

namespace SubscribedPath

variable (surroundings : Surroundings) (self : SubscribedPath)

def init (config : UdpClientReceiverConfig) (server : UdpServerConfig Address)
    (sockname : Option Int) (now : ℚ) (home : Address) (cfg : SinkConfig)
    (files : String → Option Bytes) : SubscribedPath where
  subscription := Subscription.started surroundings config server sockname now
  home := home
  sink := SinkWriter.init cfg files

def engine : DatagramEngine where
  receiver := .client self.subscription.receiver
  sink := self.sink
  sinkEvents := self.sinkEvents

def withEngine (engine : DatagramEngine) : Option SubscribedPath :=
  match engine.receiver with
  | .client receiver => some { self with
      subscription := { self.subscription with receiver }
      sink := engine.sink
      sinkEvents := engine.sinkEvents }
  | .server _ => none

def engineStep (action : DatagramAction) : Option SubscribedPath :=
  (self.engine.step action).bind self.withEngine

/-- One step; `none` when the action is not possible. -/
def step (self : SubscribedPath) : SubscribedAction → Option SubscribedPath
  | .subscription action => do
      let subscription ← self.subscription.step surroundings action
      let sent := ((mailTo surroundings.me subscription.server).drop
        (mailTo surroundings.me self.subscription.server).length).filter fun datagram =>
          surroundings.transport.carries datagram.1
      let network ← sent.foldlM (fun network datagram =>
        network.step (.send (datagram.1, self.home))) self.network
      return { self with subscription, network }
  | .inject arrival =>
      if arrival.2 = self.home then none
      else (self.network.step (.send arrival)).map fun network => { self with network }
  | .lose place => (self.network.step (.lose place)).map fun network => { self with network }
  | .copy place => (self.network.step (.copy place)).map fun network => { self with network }
  | .deliver place => do
      let arrival ← self.network.inFlight[place]?
      let network ← self.network.step (.deliver place)
      let self ← self.engineStep (.datagram arrival.1 arrival.2)
      return { self with network }
  | .sink action => self.engineStep (.sink action)
  | .errorReceived error => self.engineStep (.errorReceived error)

/-! ## The server as a sender to the subscriber -/

def path : DatagramPath where
  sender := {
    config := { host := surroundings.me.host, port := surroundings.me.port }
    transportOpen := true
    datagrams := mailTo surroundings.me self.subscription.server }
  source := self.home
  network := self.network
  engine := self.engine

end SubscribedPath

/-- What an action is on the path of the subscriber. -/
def SubscribedAction.mirror : SubscribedAction → Option PathAction
  | .subscription .helloWakes => some (.engine .helloWakes)
  | .subscription (.send payload) => some (.send payload)
  | .subscription _ => none
  | .inject arrival => some (.inject arrival)
  | .lose place => some (.lose place)
  | .copy place => some (.copy place)
  | .deliver place => some (.deliver place)
  | .sink action => some (.engine (.sink action))
  | .errorReceived error => some (.engine (.errorReceived error))

namespace SubscribedPath

open Subscription

variable {surroundings : Surroundings} {config : UdpClientReceiverConfig}
  {serverConfig : UdpServerConfig Address} {self next : SubscribedPath}

theorem engineStep_path {action : DatagramAction} (taken : self.engineStep action = some next) :
    self.engine.step action = some next.engine ∧ next.home = self.home ∧
      next.network = self.network ∧ next.subscription =
        { self.subscription with receiver := next.subscription.receiver } := by
  obtain ⟨engine, engineTaken, taken⟩ := Option.bind_eq_some_iff.mp taken
  obtain ⟨receiver, sink, sinkEvents⟩ := engine
  cases receiver with
  | client receiver =>
      cases taken
      exact ⟨engineTaken, rfl, rfl, rfl⟩
  | server receiver => cases taken

/-- Anything but a datagram. -/
theorem path_engine {action : DatagramAction} (quiet : action.arrival = none)
    (taken : self.engineStep action = some next) :
    (self.path surroundings).step surroundings.transport (.engine action) =
      some (next.path surroundings) := by
  obtain ⟨engineTaken, home, network, subscription⟩ := engineStep_path taken
  have same : next.path surroundings = { self.path surroundings with engine := next.engine } := by
    simp only [path, home, network]
    rw [subscription]
  simp only [DatagramPath.step, quiet, Option.isSome_none, Bool.false_eq_true, if_false, same]
  rw [show (self.path surroundings).engine = self.engine from rfl, engineTaken]
  rfl

/-- A step is one on the path of the subscriber, or none. -/
theorem step_path {action : SubscribedAction} (lasting : Lasting surroundings config serverConfig)
    (kept : Kept surroundings config serverConfig self.subscription)
    (taken : self.step surroundings action = some next) :
    next.path surroundings = self.path surroundings ∨ ∃ mirrored ∈ action.mirror,
      (self.path surroundings).step surroundings.transport mirrored = some (next.path surroundings) := by
  cases action with
  | subscription action =>
      simp only [step, Option.bind_eq_bind, Option.bind_eq_some_iff, Option.pure_def] at taken
      obtain ⟨subscription, turned, network, sent, same⟩ := taken
      cases same
      cases turns_of_step lasting kept turned with
      | quiet receiver mail =>
          rw [mail, List.drop_length, List.filter_nil] at sent
          cases sent
          refine .inl ?_
          simp only [path, engine, mail, receiver]
      | greets asleep receiver mail =>
          rw [mail, List.drop_length, List.filter_nil] at sent
          cases sent
          refine .inr ⟨_, rfl, ?_⟩
          simp only [path, DatagramPath.step, engine, mail, receiver, DatagramEngine.step,
            UdpReceiver.helloWakes, if_pos asleep]
          rfl
      | sends payload receiver mail =>
          rw [mail, List.drop_left, List.filter_singleton] at sent
          refine .inr ⟨_, rfl, ?_⟩
          simp only [path, DatagramPath.step, engine, mail, receiver, UdpClientSender.send,
            Bool.not_true, Bool.false_eq_true, if_false]
          cases carried : surroundings.transport.carries payload with
          | true =>
              rw [carried] at sent
              cases sent
              rfl
          | false =>
              rw [carried] at sent
              cases sent
              rfl
  | inject arrival =>
      simp only [step] at taken
      split at taken
      · cases taken
      next other =>
          obtain ⟨network, networkTaken, rfl⟩ := Option.map_eq_some_iff.mp taken
          refine .inr ⟨_, rfl, ?_⟩
          simp only [DatagramPath.step, path, if_neg other, networkTaken, Option.map_some]
          rfl
  | lose place =>
      obtain ⟨network, networkTaken, rfl⟩ := Option.map_eq_some_iff.mp taken
      refine .inr ⟨_, rfl, ?_⟩
      simp only [DatagramPath.step, path, networkTaken, Option.map_some]
      rfl
  | copy place =>
      obtain ⟨network, networkTaken, rfl⟩ := Option.map_eq_some_iff.mp taken
      refine .inr ⟨_, rfl, ?_⟩
      simp only [DatagramPath.step, path, networkTaken, Option.map_some]
      rfl
  | deliver place =>
      simp only [step, Option.bind_eq_bind, Option.bind_eq_some_iff, Option.pure_def] at taken
      obtain ⟨arrival, found, network, networkTaken, middle, engineTaken, same⟩ := taken
      cases same
      obtain ⟨arrives, home, _, subscription⟩ := engineStep_path engineTaken
      refine .inr ⟨_, rfl, ?_⟩
      simp only [DatagramPath.step, path, found, networkTaken, arrives, home, Option.bind_eq_bind,
        Option.bind_some, Option.pure_def]
      rw [subscription]
      rfl
  | sink action => exact .inr ⟨_, rfl, path_engine rfl taken⟩
  | errorReceived error => exact .inr ⟨_, rfl, path_engine rfl taken⟩

/-! ## The receiver goes on greeting -/

/-- What the hello loop depends on. -/
def duty : UdpReceiver → Option (UdpClientReceiverConfig × Bool × Bool × Option HelloTask)
  | .client receiver =>
      some (receiver.config, receiver.running, receiver.transportOpen, receiver.helloTask)
  | .server _ => none

theorem onDatagram_duty (engine : DatagramEngine) (data : Bytes) (addr : Address) :
    duty (engine.onDatagram data addr).receiver = duty engine.receiver := by
  have received : duty (engine.receiver.onDatagram data addr).2 = duty engine.receiver := by
    cases engine.receiver with
    | server receiver => rfl
    | client receiver =>
        simp only [UdpReceiver.onDatagram, UdpClientReceiver.onDatagram]
        split <;> rfl
  have drop (receiver : UdpReceiver) : duty receiver.countDrop = duty receiver := by
    cases receiver <;> rfl
  unfold DatagramEngine.onDatagram
  split
  next receiver outcome =>
      rw [outcome] at received
      exact received
  next src record receiver outcome =>
      rw [outcome] at received
      rw [handleRecord_eq]
      split
      · rw [takeSink_receiver]
        exact received
      · refine (drop _).trans ?_
        rw [takeSink_receiver]
        exact received

theorem engine_duty {engine after : DatagramEngine} {action : DatagramAction}
    (taken : engine.step action = some after)
    (listens : (∃ sink, action = .sink sink) ∨ (∃ data addr, action = .datagram data addr) ∨
      ∃ error, action = .errorReceived error) :
    duty after.receiver = duty engine.receiver := by
  rcases listens with ⟨sink, rfl⟩ | ⟨data, addr, rfl⟩ | ⟨error, rfl⟩
  · simp only [DatagramEngine.step] at taken
    split at taken
    · cases taken
    · obtain ⟨sink, _, rfl⟩ := Option.map_eq_some_iff.mp taken
      rw [takeSink_receiver]
  · obtain ⟨_, taken⟩ := Option.ite_none_right_eq_some.mp taken
    cases taken
    exact onDatagram_duty engine data addr
  · obtain ⟨_, taken⟩ := Option.ite_none_right_eq_some.mp taken
    cases taken
    cases engine.receiver <;> rfl

theorem greets_of_duty {before after : UdpClientReceiver}
    (same : duty (.client after) = duty (.client before)) (greets : Greets config before) :
    Greets config after := by
  simp only [duty, Option.some.injEq, Prod.mk.injEq] at same
  obtain ⟨config, running, isOpen, task⟩ := same
  refine ⟨config.trans greets.config, running.trans greets.running, isOpen.trans greets.isOpen,
    task.trans greets.task, ?_⟩
  rw [UdpClientReceiver.hello, config]
  exact greets.hello

theorem engineStep_kept {action : DatagramAction}
    (kept : Kept surroundings config serverConfig self.subscription)
    (listens : (∃ sink, action = .sink sink) ∨ (∃ data addr, action = .datagram data addr) ∨
      ∃ error, action = .errorReceived error)
    (taken : self.engineStep action = some next) :
    Kept surroundings config serverConfig next.subscription := by
  obtain ⟨engineTaken, _, _, subscription⟩ := engineStep_path taken
  rw [subscription]
  exact kept.withReceiver (greets_of_duty (engine_duty engineTaken listens) kept.greets)

theorem step_kept {action : SubscribedAction} (lasting : Lasting surroundings config serverConfig)
    (kept : Kept surroundings config serverConfig self.subscription)
    (taken : self.step surroundings action = some next) :
    Kept surroundings config serverConfig next.subscription := by
  cases action with
  | subscription action =>
      simp only [step, Option.bind_eq_bind, Option.bind_eq_some_iff, Option.pure_def] at taken
      obtain ⟨subscription, turned, network, _, same⟩ := taken
      cases same
      exact kept.step lasting action turned
  | inject arrival =>
      simp only [step] at taken
      split at taken
      · cases taken
      · obtain ⟨network, _, rfl⟩ := Option.map_eq_some_iff.mp taken
        exact kept
  | lose place =>
      obtain ⟨network, _, rfl⟩ := Option.map_eq_some_iff.mp taken
      exact kept
  | copy place =>
      obtain ⟨network, _, rfl⟩ := Option.map_eq_some_iff.mp taken
      exact kept
  | deliver place =>
      simp only [step, Option.bind_eq_bind, Option.bind_eq_some_iff, Option.pure_def] at taken
      obtain ⟨arrival, _, network, _, middle, engineTaken, same⟩ := taken
      have greets := engineStep_kept kept (.inr (.inl ⟨_, _, rfl⟩)) engineTaken
      cases same
      exact greets
  | sink action => exact engineStep_kept kept (.inl ⟨_, rfl⟩) taken
  | errorReceived error => exact engineStep_kept kept (.inr (.inr ⟨_, rfl⟩)) taken

/-! ## Runs -/

/-- Nobody else sends the subscriber anything, or it does not listen to them. -/
def Hears (admission : Admission) (home : Address) (action : SubscribedAction) : Prop :=
  admission.remote = some home ∨
    (admission.remote = none ∧ ∀ arrival, action ≠ .inject arrival)

theorem Hears.mirror {admission : Admission} {home : Address} {action : SubscribedAction}
    (hears : Hears admission home action) {mirrored : PathAction}
    (image : mirrored ∈ action.mirror) : DatagramPath.Hears admission home mirrored := by
  refine hears.imp_right fun ⟨anyone, silent⟩ => ⟨anyone, ?_⟩
  rintro arrival rfl
  cases action with
  | inject other => exact silent other rfl
  | subscription action => cases action <;> cases image
  | _ => cases image

theorem inOrder_mirror {action : SubscribedAction} (faultless : action.InOrder)
    {mirrored : PathAction} (image : mirrored ∈ action.mirror) : mirrored.InOrder := by
  cases action with
  | subscription action => cases action <;> cases image <;> trivial
  | _ =>
      cases image
      exact faultless

/-- The subscription is alive, and the path carries the server's datagrams. -/
structure Served (surroundings : Surroundings) (config : UdpClientReceiverConfig)
    (serverConfig : UdpServerConfig Address) (home : Address) (state : SubscribedPath) : Prop where
  kept : Kept surroundings config serverConfig state.subscription
  carried : (state.path surroundings).Carried surroundings.transport (admissionOf (.client { config }))
  home : state.home = home

theorem Served.payloads {home : Address} (served : Served surroundings config serverConfig home self) :
    (self.path surroundings).payloads surroundings.transport =
      self.subscription.owed.filter surroundings.transport.carries :=
  congrArg _ served.kept.paid

theorem Served.step {home : Address} {action : SubscribedAction}
    (lasting : Lasting surroundings config serverConfig)
    (served : Served surroundings config serverConfig home self)
    (hears : Hears (admissionOf (.client { config })) home action)
    (taken : self.step surroundings action = some next) :
    Served surroundings config serverConfig home next := by
  have kept := step_kept lasting served.kept taken
  rcases step_path lasting served.kept taken with same | ⟨mirrored, image, onPath⟩
  · refine ⟨kept, same ▸ served.carried, ?_⟩
    exact (congrArg DatagramPath.source same).trans served.home
  · refine ⟨kept, served.carried.step ?_ onPath, ?_⟩
    · exact (served.home ▸ hears).mirror image
    · exact (DatagramPath.source_step onPath).trans served.home

theorem Served.ordered {home : Address} {action : SubscribedAction}
    (lasting : Lasting surroundings config serverConfig)
    (served : Served surroundings config serverConfig home self)
    (ordered : (self.path surroundings).Ordered surroundings.transport (admissionOf (.client { config })))
    (hears : Hears (admissionOf (.client { config })) home action) (faultless : action.InOrder)
    (enabled : self.sink.cfg.enabled = true) (taken : self.step surroundings action = some next) :
    (next.path surroundings).Ordered surroundings.transport (admissionOf (.client { config })) := by
  rcases step_path lasting served.kept taken with same | ⟨mirrored, image, onPath⟩
  · exact same ▸ ordered
  · refine ordered.step ?_ (inOrder_mirror faultless image) enabled onPath
    exact (served.home ▸ hears).mirror image

section Runs

variable (lasting : Lasting surroundings config serverConfig) (sockname : Option Int) (now : ℚ)
  (home : Address) (cfg : SinkConfig) (files : String → Option Bytes)
  {actions : List SubscribedAction} {final : SubscribedPath}

include lasting

theorem init_served :
    Served surroundings config serverConfig home
      (init surroundings config serverConfig sockname now home cfg files) where
  kept := kept_started lasting sockname now
  carried := {
    received :=
      (IsNew.received (show IsNew (.client { config }) from rfl) cfg files).of_tally
        (start_tally (.client { config }) (.ok sockname))
    intake := ⟨0, SinkWriter.init_intake cfg files⟩
    conserved := List.Perm.refl _
    known := ⟨List.nil_subset _, List.nil_subset _⟩
    own := rfl
    audible := by
      intro arrival member
      cases member }
  home := rfl

theorem served_run
    (hears : ∀ action ∈ actions, Hears (admissionOf (.client { config })) home action)
    (ran : Runs.run (step surroundings) (init surroundings config serverConfig sockname now home cfg files)
      actions = some final) : Served surroundings config serverConfig home final :=
  Runs.run_invariant_of (Hears (admissionOf (.client { config })) home)
    (Served surroundings config serverConfig home)
    (fun _ _ _ hears served taken => served.step lasting hears taken)
    (init_served lasting sockname now home cfg files) hears ran

/-- Over a network that loses, duplicates and reorders datagrams: what the subscriber's sink has
written and queued is no more than what the server sent since the first hello and its transport
carries, each cut off at the cap, and the duplicates of that. -/
theorem subscriber_invents_nothing
    (hears : ∀ action ∈ actions, Hears (admissionOf (.client { config })) home action)
    (ran : Runs.run (step surroundings) (init surroundings config serverConfig sockname now home cfg files)
      actions = some final) :
    let carried := final.subscription.owed.filter surroundings.transport.carries
    ∃ repeats ⊆ carried,
      (final.sink.file.written.map WrittenRecord.item ++
          final.sink.queue.filter QueueItem.isData).Subperm
        ((carried ++ repeats).map fun payload =>
          (admissionOf (.client { config })).item (payload, home)) := by
  have served := served_run lasting sockname now home cfg files hears ran
  obtain rfl := served.home
  have written := served.carried.written_subperm
  have repeats := served.carried.repeats_subset
  rw [served.payloads] at written repeats
  exact ⟨_, repeats, written⟩

/-- Over a network without faults, and as long as the sink is enabled and drops nothing: once
everything has arrived, the subscriber's sink has accepted what the server sent since the first
hello and its transport carries, each payload as one record and in the order of the `send` calls;
whatever the interleaving of hellos, cleanups and other subscribers. -/
theorem subscriber_receives
    (hears : ∀ action ∈ actions, Hears (admissionOf (.client { config })) home action)
    (faultless : ∀ action ∈ actions, action.InOrder)
    (enabled : Runs.Each (step surroundings) (fun path _ => path.sink.cfg.enabled = true)
      (init surroundings config serverConfig sockname now home cfg files) actions)
    (ran : Runs.run (step surroundings) (init surroundings config serverConfig sockname now home cfg files)
      actions = some final)
    (dropsNothing : final.sink.recordsDropped = 0) (arrived : final.network.inFlight = []) :
    final.sink.accepted =
        (final.subscription.owed.filter surroundings.transport.carries).map (fun payload =>
          (admissionOf (.client { config })).item (payload, home)) ∧
      (final.sink.file.written.map WrittenRecord.item ++
          final.sink.queue.filter QueueItem.isData).Sublist final.sink.accepted := by
  have served := served_run lasting sockname now home cfg files hears ran
  have start := init_served lasting sockname now home cfg files
  have conditions := enabled.of_only fun action member =>
    And.intro (hears action member) (faultless action member)
  have both := conditions.visits_invariant
    (fun path => Served surroundings config serverConfig home path ∧
      (path.path surroundings).Ordered surroundings.transport (admissionOf (.client { config })))
    (fun _ _ _ condition inv taken =>
      ⟨inv.1.step lasting condition.1.1 taken, inv.1.ordered lasting inv.2 condition.1.1
        condition.1.2 condition.2 taken⟩)
    ⟨start, start.carried, ⟨rfl, rfl, rfl⟩, SinkWriter.init_intake cfg files⟩
    ⟨actions, List.prefix_rfl, ran⟩
  have accepted := both.2.accepted_eq dropsNothing arrived
  rw [served.payloads] at accepted
  obtain rfl := served.home
  exact ⟨accepted, served.carried.received.ordered.writtenAndQueued⟩

end Runs

def server : Address := { host := "10.0.0.1", port := 5565 }

/-- The second hello is late, and the client listens to the server only. -/
def filteringSubscriber : UdpClientReceiverConfig :=
  { everyThreeSeconds with filterRemotePeer := true }

/-- One datagram is duplicated and overtaken by its copy, another one is lost, and somebody else
sends one. -/
def faultyReplies : List SubscribedAction :=
  sendsBetween.map .subscription ++ [.inject ([9], { host := "10.0.0.9", port := 7 }), .copy 0,
    .deliver 4, .lose 1, .deliver 2, .deliver 0]

theorem subscriber_invents_nothing_faulty_replies : ∃ final,
    Runs.run (step lateHellos) (init lateHellos filteringSubscriber fiveSecondCache none 0 server
      twoByteQueue fun _ => none) faultyReplies = some final ∧
    let carried := final.subscription.owed.filter lateHellos.transport.carries
    ∃ repeats ⊆ carried,
      (final.sink.file.written.map WrittenRecord.item ++
          final.sink.queue.filter QueueItem.isData).Subperm
        ((carried ++ repeats).map fun payload =>
          (admissionOf (.client { config := filteringSubscriber })).item (payload, server)) := by
  have lasting : Lasting lateHellos filteringSubscriber fiveSecondCache := by
    refine ⟨?_, ?_, ?_, ?_, ?_, ?_, ?_, ?_⟩ <;> decide +kernel
  have reached : (Runs.run (step lateHellos) (init lateHellos filteringSubscriber fiveSecondCache none
      0 server twoByteQueue fun _ => none) faultyReplies).isSome = true := by decide +kernel
  obtain ⟨final, ran⟩ := Option.isSome_iff_exists.mp reached
  exact ⟨final, ran, subscriber_invents_nothing lasting none 0 server twoByteQueue (fun _ => none)
    (fun _ _ => .inl rfl) ran⟩

/-- An empty payload is sent as well, and does not leave. -/
def inOrderReplies : List SubscribedAction :=
  [.sink .start, .sink (.begin [])] ++ sendsBetween.map .subscription ++
    [.subscription (.send []), .deliver 0, .sink (.drain "t" [] []), .deliver 0,
      .errorReceived "unreachable", .deliver 0]

theorem subscriber_receives_in_order_replies : ∃ final,
    Runs.run (step lateHellos) (init lateHellos everyThreeSeconds fiveSecondCache none 0 server
      loggingSink fun _ => none) inOrderReplies = some final ∧
    final.sink.accepted =
        (final.subscription.owed.filter lateHellos.transport.carries).map (fun payload =>
          (admissionOf (.client { config := everyThreeSeconds })).item (payload, server)) ∧
      (final.sink.file.written.map WrittenRecord.item ++
          final.sink.queue.filter QueueItem.isData).Sublist final.sink.accepted := by
  have reached : (Runs.run (step lateHellos) (init lateHellos everyThreeSeconds fiveSecondCache none 0
      server loggingSink fun _ => none) inOrderReplies).any (fun final =>
        decide (final.sink.recordsDropped = 0) && final.network.inFlight.isEmpty) = true := by
    decide +kernel
  obtain ⟨final, ran, ends⟩ := (Option.any_eq_true _ _).mp reached
  simp only [Bool.and_eq_true, decide_eq_true_eq, List.isEmpty_iff] at ends
  refine ⟨final, ran, subscriber_receives lateHellos_lasting none 0 server loggingSink (fun _ => none)
    ?_ ?_ ?_ ran ends.1 ends.2⟩
  · intro action member
    refine .inr ⟨rfl, ?_⟩
    rintro arrival rfl
    simp [inOrderReplies] at member
  · simp [inOrderReplies, sendsBetween, SubscribedAction.InOrder]
  · decide +kernel

end SubscribedPath

end TcpSim.Engine
