import TcpSim.Transport.RecipientWindow
import TcpSim.Transport.UdpReceivers
import TcpSim.Lib.Runs
import Mathlib.Data.List.Perm.Subperm

/-! A UDP client receiver subscribed to a UDP server sender: its hello loop keeps its address in
the recipient cache. The clock is the environment's; a wake-up and a datagram may be late. -/

set_option autoImplicit false

namespace TcpSim.Transport

open Engine

/-- The subscriber's address, the other addresses that send the server datagrams, what becomes a
datagram, and by how much a wake-up and a hello may be late. -/
structure Surroundings where
  me : Address
  others : List Address
  transport : DatagramTransport
  slack : ℚ
  delay : ℚ

structure Subscription where
  now : ℚ
  receiver : UdpClientReceiver
  /-- When the sleep of the hello loop ends. -/
  nextHello : ℚ
  /-- The hellos on their way, by the time at which they were sent. -/
  hellos : List ℚ := []
  server : UdpServerSender Address
  /-- History: a hello has arrived, and the payloads sent since then. -/
  subscribed : Bool := false
  owed : List Bytes := []

inductive SubscriptionAction where
  | wait (duration : ℚ)
  | helloWakes
  /-- A hello arrives. -/
  | arrive (place : Nat)
  /-- Another address sends the server a datagram. -/
  | register (addr : Address)
  | cleanup
  | send (payload : Bytes)

namespace Subscription

variable (surroundings : Surroundings)

/-- Of the datagrams that are greetings, those that get on their way. -/
def leaving (datagrams : List (Bytes × Address)) : List (Bytes × Address) :=
  datagrams.filter fun datagram => surroundings.transport.carries datagram.1

/-- The server and the receiver have just been started. -/
def started (config : UdpClientReceiverConfig) (server : UdpServerConfig Address)
    (sockname : Option Int) (now : ℚ) : Subscription :=
  let receiver := ({ config } : UdpClientReceiver).start (.ok sockname)
  { now
    receiver
    nextHello := now + config.helloIntervalSeconds
    hellos := List.replicate (leaving surroundings receiver.datagrams).length now
    server := (UdpServerSender.init server).start none }

/-- The hello loop goes on after its sleep, and sleeps again. -/
def greet (self : Subscription) : Subscription :=
  let receiver := self.receiver.helloWakes
  { self with
    receiver
    nextHello := self.now + self.receiver.config.helloIntervalSeconds
    hellos := self.hellos ++
      List.replicate (leaving surroundings
        (receiver.datagrams.drop self.receiver.datagrams.length)).length self.now }

/-- One step; `none` when the action is not possible. Time does not pass over a wake-up or an
arrival that is due. -/
def step (self : Subscription) : SubscriptionAction → Option Subscription
  | .wait duration =>
      if 0 ≤ duration ∧ self.now + duration ≤ self.nextHello + surroundings.slack ∧
          ∀ sent ∈ self.hellos, self.now + duration ≤ sent + surroundings.delay then
        some { self with now := self.now + duration }
      else none
  | .helloWakes =>
      if self.receiver.helloTask = some .sleeping ∧ self.nextHello ≤ self.now then
        some (self.greet surroundings)
      else none
  | .arrive place => self.hellos[place]?.map fun _ =>
      { self with
        hellos := self.hellos.eraseIdx place
        server := self.server.registerSender surroundings.me self.now
        subscribed := true }
  | .register addr =>
      if addr ∈ surroundings.others then
        some { self with server := self.server.registerSender addr self.now }
      else none
  | .cleanup => some { self with server := self.server.cleanupExpired self.now }
  | .send payload =>
      match self.server.send payload self.now with
      | .error _ => some self
      | .ok server =>
          some { self with
            server
            owed := if self.subscribed then self.owed ++ [payload] else self.owed }

/-! ## The hello loop -/

/-- The receiver is running and its hello loop sleeps. -/
structure Greets (config : UdpClientReceiverConfig) (receiver : UdpClientReceiver) : Prop where
  config : receiver.config = config
  running : receiver.running = true
  isOpen : receiver.transportOpen = true
  task : receiver.helloTask = some .sleeping
  hello : receiver.hello.isSome = true

theorem Greets.helloWakes {config : UdpClientReceiverConfig} {receiver : UdpClientReceiver}
    (greets : Greets config receiver) : Greets config receiver.helloWakes ∧
      ∃ payload, (config.helloPayload.filter (· ≠ [])) = some payload ∧
        receiver.helloWakes.datagrams.drop receiver.datagrams.length =
          [(payload, receiver.config.remote)] := by
  obtain ⟨payload, hello⟩ := Option.isSome_iff_exists.mp greets.hello
  have own : config.helloPayload.filter (· ≠ []) = some payload := by
    rw [← greets.config]
    exact hello
  simp only [UdpClientReceiver.helloWakes, greets.running, if_true, UdpClientReceiver.sendHello,
    greets.isOpen, hello]
  refine ⟨⟨greets.config, rfl, rfl, greets.task, greets.hello⟩, payload, own, ?_⟩
  simp [UdpClientReceiver.emit]

/-- The greeting becomes a datagram. -/
def Greetable (surroundings : Surroundings) (config : UdpClientReceiverConfig) : Prop :=
  ∀ payload ∈ config.helloPayload.filter (· ≠ []), surroundings.transport.carries payload = true

/-- What keeps a subscription alive: a hello loop whose hellos arrive within the TTL of one
another, and a cache with room for all who send the server datagrams. -/
structure Lasting (surroundings : Surroundings) (config : UdpClientReceiverConfig)
    (server : UdpServerConfig Address) : Prop where
  hello : (config.helloPayload.filter (· ≠ [])).isSome = true
  interval : 0 < config.helloIntervalSeconds
  slack : 0 ≤ surroundings.slack
  delay : 0 ≤ surroundings.delay
  inTime : config.helloIntervalSeconds + surroundings.slack + surroundings.delay ≤
    server.recipientCacheTtlSeconds
  reply : server.recipientMode = .replyToSenders
  room : surroundings.others.length < server.recipientCacheMaxEntries
  apart : surroundings.me ∉ surroundings.others

/-! ## The cache -/

/-- The server is open and its cache holds no strangers. -/
structure Serves (surroundings : Surroundings) (config : UdpServerConfig Address)
    (server : UdpServerSender Address) : Prop where
  config : server.config = config
  isOpen : server.transportOpen = true
  known : server.recipientCache.entries.map Prod.fst ⊆ surroundings.me :: surroundings.others

variable {surroundings} {config : UdpClientReceiverConfig} {serverConfig : UdpServerConfig Address}
  {server : UdpServerSender Address}

theorem Serves.filtered (serves : Serves surroundings serverConfig server)
    {after : UdpServerSender Address} (config : after.config = server.config)
    (isOpen : after.transportOpen = true) {keep : Address × ℚ → Bool}
    (entries : after.recipientCache.entries = server.recipientCache.entries.filter keep) :
    Serves surroundings serverConfig after where
  config := config.trans serves.config
  isOpen := isOpen
  known := by
    rw [entries]
    exact List.Subset.trans (List.filter_sublist.map _).subset serves.known

/-- A registration evicts nobody. -/
theorem Serves.register_entries (serves : Serves surroundings serverConfig server)
    (room : surroundings.others.length < serverConfig.recipientCacheMaxEntries) {addr : Address}
    (welcome : addr ∈ surroundings.me :: surroundings.others) (now : ℚ) :
    (server.registerSender addr now).recipientCache.entries =
      OrderedDict.without addr server.recipientCache.entries ++ [(addr, now)] := by
  rw [UdpServerSender.registerSender_entries, serves.config]
  apply OrderedDict.rtake_of_length_le
  have nodup : ((OrderedDict.without addr server.recipientCache.entries ++ [(addr, now)]).map
      Prod.fst).Nodup :=
    OrderedDict.nodup_snoc
      (OrderedDict.nodup_of_sublist server.recipientCache.nodup List.filter_sublist)
      (OrderedDict.not_mem_without addr server.recipientCache.entries) now
  have known : (OrderedDict.without addr server.recipientCache.entries ++ [(addr, now)]).map
      Prod.fst ⊆ surroundings.me :: surroundings.others := by
    rw [List.map_append]
    refine List.append_subset.mpr ⟨?_, by simpa using welcome⟩
    exact List.Subset.trans (List.filter_sublist.map _).subset serves.known
  have fits := (List.Nodup.subperm nodup known).length_le
  rw [List.length_map, List.length_cons] at fits
  omega

theorem Serves.register (serves : Serves surroundings serverConfig server)
    (room : surroundings.others.length < serverConfig.recipientCacheMaxEntries) {addr : Address}
    (welcome : addr ∈ surroundings.me :: surroundings.others) (now : ℚ) :
    Serves surroundings serverConfig (server.registerSender addr now) where
  config := serves.config
  isOpen := serves.isOpen
  known := by
    rw [serves.register_entries room welcome, List.map_append]
    refine List.append_subset.mpr ⟨?_, by simpa using welcome⟩
    exact List.Subset.trans (List.filter_sublist.map _).subset serves.known

/-- A reply to all entries goes to an address once if it is one of them. -/
theorem replies_to (cache : OrderedDict Address ℚ) (payload : Bytes) (addr : Address) :
    (((cache.entries.map Prod.fst).map (payload, ·)).filter
      fun datagram => datagram.2 = addr).map Prod.fst =
      if addr ∈ cache.entries.map Prod.fst then [payload] else [] := by
  rw [List.filter_map, List.map_map]
  have once : (cache.entries.map Prod.fst).filter
      ((fun datagram : Bytes × Address => decide (datagram.2 = addr)) ∘ (payload, ·)) =
      List.replicate ((cache.entries.map Prod.fst).count addr) addr :=
    List.filter_eq addr
  rw [once, List.map_replicate, List.Nodup.count cache.nodup]
  split
  · rfl
  · rfl

/-! ## Kept subscriptions -/

/-- Whatever is due has not been passed over, and the subscriber's entry, once there is one, is
not older than the previous hello of the oldest on the way, or of the next one. -/
structure Kept (surroundings : Surroundings) (config : UdpClientReceiverConfig)
    (serverConfig : UdpServerConfig Address) (state : Subscription) : Prop where
  greets : Greets config state.receiver
  serves : Serves surroundings serverConfig state.server
  hellos : ∀ sent ∈ state.hellos, sent ≤ state.now ∧ state.now ≤ sent + surroundings.delay
  asleep : state.nextHello ≤ state.now + config.helloIntervalSeconds
  wakes : state.now ≤ state.nextHello + surroundings.slack
  entry : state.subscribed = true → ∃ seen, (surroundings.me, seen) ∈ state.server.recipientCache.entries ∧
    ∃ due, (due ∈ state.hellos ∨ state.hellos = [] ∧ due = state.nextHello + surroundings.slack) ∧
      due ≤ seen + config.helloIntervalSeconds + surroundings.slack
  absent : state.subscribed = false → surroundings.me ∉ state.server.recipientCache.entries.map Prod.fst
  paid : (state.server.datagrams.filter fun datagram => datagram.2 = surroundings.me).map Prod.fst =
    state.owed
  heard : Greetable surroundings config ∨ state.hellos = [] ∧ state.subscribed = false

namespace Kept

variable {state : Subscription}
  (kept : Kept surroundings config serverConfig state)

include kept

/-- The subscriber's entry has not expired. -/
theorem fresh (lasting : Lasting surroundings config serverConfig) (subscribed : state.subscribed = true) :
    ∃ seen, (surroundings.me, seen) ∈ state.server.recipientCache.entries ∧
      state.now - seen ≤ serverConfig.recipientCacheTtlSeconds ∧
      ∃ due, (due ∈ state.hellos ∨ state.hellos = [] ∧ due = state.nextHello + surroundings.slack) ∧
        due ≤ seen + config.helloIntervalSeconds + surroundings.slack := by
  obtain ⟨seen, member, due, pending, recent⟩ := kept.entry subscribed
  refine ⟨seen, member, ?_, due, pending, recent⟩
  have inTime := lasting.inTime
  have delay := lasting.delay
  rcases pending with onTheWay | ⟨_, rfl⟩
  · have arrives := (kept.hellos due onTheWay).2
    linarith
  · have wakes := kept.wakes
    linarith

theorem wait {duration : ℚ} (forward : 0 ≤ duration)
    (wakes : state.now + duration ≤ state.nextHello + surroundings.slack)
    (arrive : ∀ sent ∈ state.hellos, state.now + duration ≤ sent + surroundings.delay) :
    Kept surroundings config serverConfig { state with now := state.now + duration } where
  greets := kept.greets
  serves := kept.serves
  hellos := by
    intro sent member
    refine ⟨?_, arrive sent member⟩
    have before := (kept.hellos sent member).1
    change sent ≤ state.now + duration
    linarith
  asleep := by
    have before := kept.asleep
    change state.nextHello ≤ state.now + duration + _
    linarith
  wakes := wakes
  entry := kept.entry
  absent := kept.absent
  paid := kept.paid
  heard := kept.heard

theorem greet (lasting : Lasting surroundings config serverConfig) :
    Kept surroundings config serverConfig (state.greet surroundings) := by
  obtain ⟨greets, payload, hello, one⟩ := kept.greets.helloWakes
  have interval := kept.greets.config
  have hellos : (state.greet surroundings).hellos = state.hellos ++
      if surroundings.transport.carries payload then [state.now] else [] := by
    simp only [Subscription.greet, leaving, one, List.filter_singleton]
    cases surroundings.transport.carries payload <;> rfl
  have next : (state.greet surroundings).nextHello = state.now + config.helloIntervalSeconds := by
    simp [Subscription.greet, interval]
  have slack := lasting.slack
  have delay := lasting.delay
  have positive := lasting.interval
  refine ⟨greets, kept.serves, ?_, ?_, ?_, ?_, kept.absent, kept.paid, ?_⟩
  · intro sent member
    rw [hellos] at member
    rcases List.mem_append.mp member with before | now
    · exact kept.hellos sent before
    · obtain ⟨_, now⟩ := List.mem_ite_nil_right.mp now
      obtain rfl := List.mem_singleton.mp now
      change state.now ≤ state.now ∧ state.now ≤ state.now + _
      exact ⟨le_rfl, by linarith⟩
  · rw [next]
    exact le_rfl
  · rw [next]
    change state.now ≤ _
    linarith
  · intro subscribed
    obtain ⟨seen, member, pending, waiting, recent⟩ := kept.entry subscribed
    refine ⟨seen, member, ?_⟩
    have greetable : Greetable surroundings config := by
      refine kept.heard.resolve_right fun unheard => ?_
      exact Bool.false_ne_true (unheard.2.symm.trans subscribed)
    rw [hellos, if_pos (greetable payload hello)]
    rcases waiting with onTheWay | ⟨_, rfl⟩
    · exact ⟨pending, .inl (List.mem_append_left _ onTheWay), recent⟩
    · refine ⟨state.now, .inl (by simp), ?_⟩
      have wakes := kept.wakes
      linarith
  · rcases kept.heard with greetable | ⟨nothing, unsubscribed⟩
    · exact .inl greetable
    · rw [hellos, nothing, List.nil_append]
      split
      next carried =>
          refine .inl ?_
          intro other own
          obtain rfl := Option.some.inj (hello.symm.trans own)
          exact carried
      next => exact .inr ⟨rfl, unsubscribed⟩

/-- A cleanup takes nothing from the subscriber. -/
theorem swept (lasting : Lasting surroundings config serverConfig)
    {after : UdpServerSender Address} (sameConfig : after.config = state.server.config)
    (isOpen : after.transportOpen = true)
    (entries : after.recipientCache.entries = state.server.recipientCache.entries.filter
      fun entry => state.now - entry.2 ≤ serverConfig.recipientCacheTtlSeconds)
    {owed : List Bytes}
    (paid : (after.datagrams.filter fun datagram => datagram.2 = surroundings.me).map Prod.fst =
      owed) :
    Kept surroundings config serverConfig { state with server := after, owed } where
  greets := kept.greets
  serves := kept.serves.filtered sameConfig isOpen entries
  hellos := kept.hellos
  asleep := kept.asleep
  wakes := kept.wakes
  entry := by
    intro subscribed
    obtain ⟨seen, member, young, pending⟩ := kept.fresh lasting subscribed
    refine ⟨seen, ?_, pending⟩
    rw [entries]
    exact List.mem_filter.mpr ⟨member, decide_eq_true young⟩
  absent := by
    intro unsubscribed member
    rw [entries] at member
    exact kept.absent unsubscribed ((List.filter_sublist.map _).subset member)
  paid := paid
  heard := kept.heard

theorem cleanup (lasting : Lasting surroundings config serverConfig) :
    Kept surroundings config serverConfig
      { state with server := state.server.cleanupExpired state.now } := by
  obtain ⟨recipientCache, events, cleaned, entries⟩ := state.server.cleanupExpired_cache state.now
  rw [kept.serves.config] at entries
  refine kept.swept lasting ?_ ?_ ?_ ?_
  · rw [cleaned]
  · rw [cleaned]
    exact kept.serves.isOpen
  · rw [cleaned]
    exact entries
  · rw [cleaned]
    exact kept.paid

theorem send (lasting : Lasting surroundings config serverConfig) {payload : Bytes}
    {server : UdpServerSender Address} (sent : state.server.send payload state.now = .ok server) :
    Kept surroundings config serverConfig { state with
      server
      owed := if state.subscribed then state.owed ++ [payload] else state.owed } := by
  obtain ⟨after, ran, sameConfig, isOpen, entries, replies⟩ :=
    UdpServerSender.send_open kept.serves.isOpen payload state.now
  obtain rfl := Except.ok.inj (ran.symm.trans sent)
  rw [kept.serves.config] at entries replies
  refine kept.swept lasting sameConfig isOpen entries ?_
  have before := kept.swept lasting sameConfig isOpen entries rfl
  rw [replies lasting.reply, List.filter_append, List.map_append, kept.paid,
    replies_to]
  cases subscribed : state.subscribed with
  | true =>
      obtain ⟨seen, member, _⟩ := before.entry subscribed
      rw [if_pos (List.mem_map_of_mem member), if_pos rfl]
  | false =>
      rw [if_neg (before.absent subscribed), List.append_nil]
      rfl

theorem arrive (lasting : Lasting surroundings config serverConfig) {place : Nat} {greeting : ℚ}
    (found : state.hellos[place]? = some greeting) :
    Kept surroundings config serverConfig { state with
      hellos := state.hellos.eraseIdx place
      server := state.server.registerSender surroundings.me state.now
      subscribed := true } where
  greets := kept.greets
  serves := kept.serves.register lasting.room List.mem_cons_self state.now
  hellos := fun sent member => kept.hellos sent (List.mem_of_mem_eraseIdx member)
  asleep := kept.asleep
  wakes := kept.wakes
  entry := by
    intro _
    refine ⟨state.now, ?_, ?_⟩
    · rw [kept.serves.register_entries lasting.room List.mem_cons_self]
      simp
    have slack := lasting.slack
    have interval := lasting.interval
    cases rest : state.hellos.eraseIdx place with
    | nil =>
        have asleep := kept.asleep
        refine ⟨_, .inr ⟨rfl, rfl⟩, ?_⟩
        change state.nextHello + _ ≤ _
        linarith
    | cons sent others =>
        have onTheWay : sent ∈ state.hellos.eraseIdx place := by
          rw [rest]
          exact List.mem_cons_self
        have before := (kept.hellos sent (List.mem_of_mem_eraseIdx onTheWay)).1
        exact ⟨sent, .inl List.mem_cons_self, by linarith⟩
  absent := fun impossible => by cases impossible
  paid := kept.paid
  heard := by
    refine .inl (kept.heard.resolve_right fun unheard => ?_)
    rw [unheard.1] at found
    cases found

theorem register (lasting : Lasting surroundings config serverConfig) {addr : Address}
    (other : addr ∈ surroundings.others) :
    Kept surroundings config serverConfig
      { state with server := state.server.registerSender addr state.now } := by
  have welcome : addr ∈ surroundings.me :: surroundings.others := List.mem_cons_of_mem _ other
  have entries := kept.serves.register_entries lasting.room welcome state.now
  have differ : surroundings.me ≠ addr := fun same => lasting.apart (same ▸ other)
  refine ⟨kept.greets, kept.serves.register lasting.room welcome state.now, kept.hellos,
    kept.asleep, kept.wakes, ?_, ?_, kept.paid, kept.heard⟩
  · intro subscribed
    obtain ⟨seen, member, pending⟩ := kept.entry subscribed
    refine ⟨seen, ?_, pending⟩
    rw [entries]
    refine List.mem_append_left _ (List.mem_filter.mpr ⟨member, ?_⟩)
    simpa using differ
  · intro unsubscribed member
    rw [entries, List.map_append] at member
    rcases List.mem_append.mp member with older | newest
    · exact kept.absent unsubscribed ((List.filter_sublist.map _).subset older)
    · exact differ (by simpa using newest)

theorem step {next : Subscription} (lasting : Lasting surroundings config serverConfig)
    (action : SubscriptionAction) (taken : state.step surroundings action = some next) :
    Kept surroundings config serverConfig next := by
  cases action with
  | wait duration =>
      simp only [Subscription.step] at taken
      split at taken
      · rename_i possible
        obtain ⟨forward, wakes, arrive⟩ := possible
        cases taken
        exact kept.wait forward wakes arrive
      · cases taken
  | helloWakes =>
      simp only [Subscription.step] at taken
      split at taken
      · cases taken
        exact kept.greet lasting
      · cases taken
  | arrive place =>
      obtain ⟨greeting, found, rfl⟩ := Option.map_eq_some_iff.mp taken
      exact kept.arrive lasting found
  | register addr =>
      simp only [Subscription.step] at taken
      split at taken
      · rename_i other
        cases taken
        exact kept.register lasting other
      · cases taken
  | cleanup =>
      cases taken
      exact kept.cleanup lasting
  | send payload =>
      simp only [Subscription.step] at taken
      split at taken
      · cases taken
        exact kept
      · rename_i sent
        cases taken
        exact kept.send lasting sent

end Kept

theorem kept_started (lasting : Lasting surroundings config serverConfig)
    (sockname : Option Int) (now : ℚ) :
    Kept surroundings config serverConfig (started surroundings config serverConfig sockname now) := by
  obtain ⟨payload, hello⟩ := Option.isSome_iff_exists.mp lasting.hello
  have receiver : ({ config } : UdpClientReceiver).start (.ok sockname) =
      { config, transportOpen := true, running := true, helloTask := some .sleeping
        events := [.receiverBound config.localHost (sockname.getD config.localPort) config.remote,
          .udpHelloSent config.remote]
        datagrams := [(payload, config.remote)] } := by
    simp only [UdpClientReceiver.start, Bool.false_eq_true, if_false, UdpClientReceiver.emit,
      UdpClientReceiver.startHello, UdpClientReceiver.hello, hello, Option.isSome_some, if_true,
      UdpClientReceiver.sendHello, gt_iff_lt, lasting.interval, List.nil_append, List.cons_append]
  have slack := lasting.slack
  have interval := lasting.interval
  have delay := lasting.delay
  have hellos : (started surroundings config serverConfig sockname now).hellos =
      if surroundings.transport.carries payload then [now] else [] := by
    simp only [started, receiver, leaving, List.filter_singleton]
    cases surroundings.transport.carries payload <;> rfl
  refine ⟨?_, ?_, ?_, ?_, ?_, ?_, ?_, ?_, ?_⟩
  · rw [show (started surroundings config serverConfig sockname now).receiver = _ from receiver]
    exact ⟨rfl, rfl, rfl, rfl, lasting.hello⟩
  · exact ⟨rfl, rfl, List.nil_subset _⟩
  · intro sent member
    rw [hellos] at member
    obtain rfl := List.mem_singleton.mp (List.mem_ite_nil_right.mp member).2
    exact ⟨le_rfl, by change sent ≤ sent + _; linarith⟩
  · exact le_rfl
  · change now ≤ now + config.helloIntervalSeconds + _
    linarith
  · intro impossible
    cases impossible
  · intro _
    exact List.not_mem_nil
  · rfl
  · rw [hellos]
    split
    next carried =>
        refine .inl ?_
        intro other own
        obtain rfl := Option.some.inj (hello.symm.trans own)
        exact carried
    next => exact .inr ⟨rfl, rfl⟩

def lateHellos : Surroundings where
  me := { host := "10.0.0.2", port := 40000 }
  others := [{ host := "10.0.0.9", port := 7 }]
  slack := 1
  delay := 1
  transport := python312

def everyThreeSeconds : UdpClientReceiverConfig where
  host := "10.0.0.1"
  port := 5565
  helloPayload := some [104]
  helloIntervalSeconds := 3

def fiveSecondCache : UdpServerConfig Address where
  multicastAddress := { host := "239.255.0.1", port := 5565 }
  recipientCacheTtlSeconds := 5
  recipientCacheMaxEntries := 2

theorem lateHellos_lasting : Lasting lateHellos everyThreeSeconds fiveSecondCache := by
  refine ⟨?_, ?_, ?_, ?_, ?_, ?_, ?_, ?_⟩ <;> decide +kernel

def sendsBetween : List SubscriptionAction :=
  [.send [1], .arrive 0, .send [2], .register { host := "10.0.0.9", port := 7 }, .wait 4,
    .helloWakes, .wait 1, .cleanup, .send [3], .arrive 0, .wait 1, .send [4]]

end Subscription

end TcpSim.Transport
