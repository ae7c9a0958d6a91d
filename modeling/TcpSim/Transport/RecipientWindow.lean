import TcpSim.Transport.UdpServerSender
import Mathlib.Algebra.Order.Ring.Rat
import Mathlib.Tactic.Linarith

/-! The recipient cache as a function of its history: of the addresses in the order of their
latest registration the last ones, less those that a later cleanup found too old. -/

set_option autoImplicit false

namespace TcpSim.Transport

open Engine

variable {ι : Type}

/-! ## The history -/

/-- An address with its latest registration and the latest cleanup after it. -/
structure Seen (ι : Type) where
  addr : ι
  time : ℚ
  cleaned : Option ℚ

namespace UdpCall

/-- Both `cleanup_expired` and `send` remove what has expired. -/
def cleansUp : UdpCall ι → Bool
  | .registerSender _ _ => false
  | .cleanupExpired _ => true
  | .send _ _ => true

def registers [DecidableEq ι] (addr : ι) : UdpCall ι → Bool
  | .registerSender other _ => other = addr
  | _ => false

@[simp] theorem registers_registerSender [DecidableEq ι] (addr other : ι) (now : ℚ) :
    (registerSender other now).registers addr = decide (other = addr) := rfl

end UdpCall

def registered [DecidableEq ι] (addr : ι) (calls : List (UdpCall ι)) : Bool :=
  calls.any (·.registers addr)

@[simp] theorem registered_nil [DecidableEq ι] (addr : ι) : registered addr [] = false := rfl

theorem registered_snoc [DecidableEq ι] (addr : ι) (calls : List (UdpCall ι)) (call : UdpCall ι) :
    registered addr (calls ++ [call]) = (registered addr calls || call.registers addr) := by
  simp [registered]

def lastCleanup : List (UdpCall ι) → Option ℚ
  | [] => none
  | call :: later => (lastCleanup later).or (if call.cleansUp then some call.now else none)

/-- The distinct addresses of the history, in the order of their latest registration. -/
def lastSeen [DecidableEq ι] : List (UdpCall ι) → List (Seen ι)
  | [] => []
  | .registerSender addr now :: later =>
      if registered addr later then lastSeen later
      else { addr, time := now, cleaned := lastCleanup later } :: lastSeen later
  | _ :: later => lastSeen later

/-- Not older than the TTL at the latest cleanup after the registration. -/
def Seen.fresh (ttl : ℚ) (seen : Seen ι) : Bool :=
  match seen.cleaned with
  | none => true
  | some now => now - seen.time ≤ ttl

def Seen.entry (seen : Seen ι) : ι × ℚ := (seen.addr, seen.time)

/-- The last addresses of the history, as many as the cache may hold. -/
def lastAddresses [DecidableEq ι] (config : UdpServerConfig ι) (calls : List (UdpCall ι)) :
    List (Seen ι) :=
  (lastSeen calls).rtake config.recipientCacheMaxEntries

/-- What the cache should hold: the last addresses, less those that expired. -/
def recipientWindow [DecidableEq ι] (config : UdpServerConfig ι) (calls : List (UdpCall ι)) :
    List (ι × ℚ) :=
  ((lastAddresses config calls).filter (·.fresh config.recipientCacheTtlSeconds)).map Seen.entry

/-! ## One more call -/

theorem clock_of_snoc {calls : List (UdpCall ι)} {call : UdpCall ι}
    (clock : ((calls ++ [call]).map UdpCall.now).Pairwise (· ≤ ·)) :
    (calls.map UdpCall.now).Pairwise (· ≤ ·) := by
  rw [List.map_append] at clock
  exact (List.pairwise_append.mp clock).1

theorem lastCleanup_snoc (calls : List (UdpCall ι)) (call : UdpCall ι) :
    lastCleanup (calls ++ [call]) =
      if call.cleansUp then some call.now else lastCleanup calls := by
  induction calls with
  | nil => simp [lastCleanup]
  | cons first later ih =>
      rw [List.cons_append, lastCleanup, ih]
      cases call.cleansUp with
      | true => simp
      | false => simp [lastCleanup]

theorem lastCleanup_mem {calls : List (UdpCall ι)} {now : ℚ} (last : lastCleanup calls = some now) :
    ∃ call ∈ calls, call.now = now := by
  induction calls with
  | nil => cases last
  | cons first later ih =>
      cases after : lastCleanup later with
      | some other =>
          rw [lastCleanup, after, Option.some_or] at last
          obtain ⟨call, member, same⟩ := ih (after.trans last)
          exact ⟨call, List.mem_cons_of_mem first member, same⟩
      | none =>
          rw [lastCleanup, after, Option.none_or] at last
          split at last
          · exact ⟨first, List.mem_cons_self, Option.some.inj last⟩
          · cases last

section Registrations

variable [DecidableEq ι]

theorem lastSeen_snoc_register (calls : List (UdpCall ι)) (addr : ι) (now : ℚ) :
    lastSeen (calls ++ [.registerSender addr now]) =
      (lastSeen calls).filter (·.addr ≠ addr) ++ [{ addr, time := now, cleaned := none }] := by
  induction calls with
  | nil => simp [lastSeen, lastCleanup]
  | cons first later ih =>
      cases first with
      | registerSender other time =>
          have after : lastCleanup (later ++ [.registerSender addr now]) = lastCleanup later := by
            simp [lastCleanup_snoc, UdpCall.cleansUp]
          simp only [List.cons_append, lastSeen, registered_snoc, after, ih]
          cases registered other later with
          | true => simp
          | false =>
              by_cases same : addr = other
              · simp [same]
              · simp [same, Ne.symm same]
      | cleanupExpired time => exact ih
      | send payload time => exact ih

theorem lastSeen_snoc_cleanup (calls : List (UdpCall ι)) {call : UdpCall ι}
    (cleans : call.cleansUp = true) :
    lastSeen (calls ++ [call]) =
      (lastSeen calls).map fun seen => { seen with cleaned := some call.now } := by
  induction calls with
  | nil =>
      cases call with
      | registerSender addr now => cases cleans
      | _ => rfl
  | cons first later ih =>
      cases first with
      | registerSender other time =>
          have nobody : call.registers other = false := by
            cases call with
            | registerSender addr now => cases cleans
            | _ => rfl
          simp only [List.cons_append, lastSeen, registered_snoc, nobody, ih, lastCleanup_snoc,
            cleans]
          cases registered other later with
          | true => simp
          | false => simp
      | cleanupExpired time => exact ih
      | send payload time => exact ih

theorem mem_lastSeen {calls : List (UdpCall ι)} {seen : Seen ι} (member : seen ∈ lastSeen calls) :
    .registerSender seen.addr seen.time ∈ calls := by
  induction calls with
  | nil => cases member
  | cons first later ih =>
      cases first with
      | registerSender addr now =>
          rw [lastSeen] at member
          split at member
          · exact List.mem_cons_of_mem _ (ih member)
          · rcases List.mem_cons.mp member with rfl | member
            · exact List.mem_cons_self
            · exact List.mem_cons_of_mem _ (ih member)
      | cleanupExpired now => exact List.mem_cons_of_mem _ (ih member)
      | send payload now => exact List.mem_cons_of_mem _ (ih member)

theorem lastSeen_nodup (calls : List (UdpCall ι)) : ((lastSeen calls).map Seen.addr).Nodup := by
  induction calls with
  | nil => exact List.nodup_nil
  | cons first later ih =>
      cases first with
      | registerSender addr now =>
          rw [lastSeen]
          split
          · exact ih
          next last =>
              refine List.nodup_cons.mpr ⟨?_, ih⟩
              intro again
              obtain ⟨seen, member, same⟩ := List.mem_map.mp again
              apply last
              apply List.any_eq_true.mpr
              exact ⟨_, mem_lastSeen member, by simpa [UdpCall.registers] using same⟩
      | cleanupExpired now => exact ih
      | send payload now => exact ih

theorem lastSeen_cleaned {calls : List (UdpCall ι)} {seen : Seen ι} {now : ℚ}
    (member : seen ∈ lastSeen calls) (cleaned : now ∈ seen.cleaned) :
    lastCleanup calls = some now := by
  induction calls with
  | nil => cases member
  | cons first later ih =>
      cases first with
      | registerSender addr time =>
          have same : lastCleanup (.registerSender addr time :: later) = lastCleanup later := by
            simp [lastCleanup, UdpCall.cleansUp]
          rw [same]
          rw [lastSeen] at member
          split at member
          · exact ih member
          · rcases List.mem_cons.mp member with rfl | member
            · exact cleaned
            · exact ih member
      | cleanupExpired time => rw [lastCleanup, ih member, Option.some_or]
      | send payload time => rw [lastCleanup, ih member, Option.some_or]

/-- The order of the list is the order of the times, and a cleanup after a later registration
is also one after an earlier. -/
theorem lastSeen_ordered {calls : List (UdpCall ι)}
    (clock : (calls.map UdpCall.now).Pairwise (· ≤ ·)) :
    (lastSeen calls).Pairwise fun older newer =>
      older.time ≤ newer.time ∧ ∀ now ∈ newer.cleaned, older.cleaned = some now := by
  induction calls with
  | nil => exact List.Pairwise.nil
  | cons first later ih =>
      obtain ⟨before, clock⟩ := List.pairwise_cons.mp clock
      have rest := ih clock
      cases first with
      | registerSender addr now =>
          rw [lastSeen]
          split
          · exact rest
          · refine List.pairwise_cons.mpr ⟨?_, rest⟩
            intro newer member
            constructor
            · exact before newer.time (List.mem_map_of_mem (mem_lastSeen member))
            · exact fun time cleaned => lastSeen_cleaned member cleaned
      | cleanupExpired now => exact rest
      | send payload now => exact rest

/-! ## The window -/

theorem lastSeen_fresh_ordered {calls : List (UdpCall ι)}
    (clock : (calls.map UdpCall.now).Pairwise (· ≤ ·)) (ttl : ℚ) :
    (lastSeen calls).Pairwise fun older newer =>
      older.fresh ttl = true → newer.fresh ttl = true := by
  refine (lastSeen_ordered clock).imp ?_
  intro older newer order fresh
  obtain ⟨times, cleanups⟩ := order
  unfold Seen.fresh
  split
  next => rfl
  next now cleaned =>
      have before := cleanups now cleaned
      simp only [Seen.fresh, before, decide_eq_true_eq] at fresh ⊢
      linarith

/-- The addresses that have not expired, however many they are. -/
def freshEntries (ttl : ℚ) (calls : List (UdpCall ι)) : List (ι × ℚ) :=
  ((lastSeen calls).filter (·.fresh ttl)).map Seen.entry

theorem freshEntries_nodup (ttl : ℚ) (calls : List (UdpCall ι)) :
    ((freshEntries ttl calls).map Prod.fst).Nodup := by
  have same : (freshEntries ttl calls).map Prod.fst =
      ((lastSeen calls).filter (·.fresh ttl)).map Seen.addr := by
    simp [freshEntries, Seen.entry]
  rw [same]
  exact (lastSeen_nodup calls).sublist (List.filter_sublist.map _)

/-- Under the clock it does not matter whether the window is cut before or after expiry. -/
theorem recipientWindow_eq_rtake (config : UdpServerConfig ι) {calls : List (UdpCall ι)}
    (clock : (calls.map UdpCall.now).Pairwise (· ≤ ·)) :
    recipientWindow config calls =
      (freshEntries config.recipientCacheTtlSeconds calls).rtake
        config.recipientCacheMaxEntries := by
  rw [recipientWindow, lastAddresses,
    ← OrderedDict.rtake_filter_of_pairwise (lastSeen_fresh_ordered clock _)]
  simp [freshEntries, List.rtake]

theorem recipientWindow_register (config : UdpServerConfig ι) {calls : List (UdpCall ι)}
    {addr : ι} {now : ℚ}
    (clock : ((calls ++ [UdpCall.registerSender addr now]).map UdpCall.now).Pairwise (· ≤ ·)) :
    recipientWindow config (calls ++ [.registerSender addr now]) =
      (OrderedDict.without addr (recipientWindow config calls) ++ [(addr, now)]).rtake
        config.recipientCacheMaxEntries := by
  have before := clock_of_snoc clock
  have appended : freshEntries config.recipientCacheTtlSeconds
      (calls ++ [.registerSender addr now]) =
      OrderedDict.without addr (freshEntries config.recipientCacheTtlSeconds calls) ++
        [(addr, now)] := by
    rw [freshEntries, lastSeen_snoc_register, List.filter_append, List.map_append]
    congr 1
    rw [freshEntries, OrderedDict.without, List.filter_map, List.filter_filter, List.filter_filter]
    congr 2
    funext seen
    exact Bool.and_comm _ _
  rw [recipientWindow_eq_rtake config clock, recipientWindow_eq_rtake config before, appended]
  exact (OrderedDict.rtake_without_snoc (freshEntries_nodup _ calls) _ addr now).symm

/-- Right after a cleanup only its reading of the clock counts. -/
theorem recipientWindow_after_cleanup (config : UdpServerConfig ι) {calls : List (UdpCall ι)}
    {call : UdpCall ι} (cleans : call.cleansUp = true) :
    recipientWindow config (calls ++ [call]) = ((lastAddresses config calls).filter fun seen =>
      call.now - seen.time ≤ config.recipientCacheTtlSeconds).map Seen.entry := by
  rw [recipientWindow, lastAddresses, lastSeen_snoc_cleanup calls cleans, List.rtake,
    List.length_map, ← List.map_drop, ← List.rtake, List.filter_map, List.map_map]
  rfl

theorem recipientWindow_cleanup (config : UdpServerConfig ι) {calls : List (UdpCall ι)}
    {call : UdpCall ι} (cleans : call.cleansUp = true)
    (clock : ((calls ++ [call]).map UdpCall.now).Pairwise (· ≤ ·)) :
    recipientWindow config (calls ++ [call]) = (recipientWindow config calls).filter
      fun entry => call.now - entry.2 ≤ config.recipientCacheTtlSeconds := by
  rw [List.map_append] at clock
  have latest := (List.pairwise_append.mp clock).2.2
  rw [recipientWindow_after_cleanup config cleans, recipientWindow, List.filter_map,
    List.filter_filter]
  congr 1
  apply List.filter_congr
  intro seen member
  have listed : seen ∈ lastSeen calls := List.mem_of_mem_drop member
  simp only [Function.comp_apply, Seen.entry, Seen.fresh]
  split
  next => simp
  next earlier cleaned =>
      obtain ⟨other, there, same⟩ := lastCleanup_mem (lastSeen_cleaned listed cleaned)
      have order : other.now ≤ call.now :=
        latest other.now (List.mem_map_of_mem there) call.now (by simp)
      by_cases young : call.now - seen.time ≤ config.recipientCacheTtlSeconds
      · have earlierToo : earlier - seen.time ≤ config.recipientCacheTtlSeconds := by linarith
        simp [young, earlierToo]
      · simp [young]

end Registrations

/-! ## The server -/

namespace UdpServerSender

theorem foldl_sendto (self : UdpServerSender ι) (payload : Bytes) (recipients : List ι) :
    recipients.foldl (·.sendto payload) self =
      { self with datagrams := self.datagrams ++ recipients.map (payload, ·) } := by
  induction recipients generalizing self with
  | nil => simp
  | cons addr rest ih =>
      rw [List.foldl_cons, ih]
      simp [sendto]

variable [DecidableEq ι]

theorem registerSender_entries (self : UdpServerSender ι) (addr : ι) (now : ℚ) :
    (self.registerSender addr now).recipientCache.entries =
      (OrderedDict.without addr self.recipientCache.entries ++ [(addr, now)]).rtake
        self.config.recipientCacheMaxEntries := by
  simp [registerSender]

theorem cleanupExpired_cache (self : UdpServerSender ι) (now : ℚ) :
    ∃ recipientCache events,
      self.cleanupExpired now = { self with recipientCache, events } ∧
      recipientCache.entries = self.recipientCache.entries.filter fun entry =>
        now - entry.2 ≤ self.config.recipientCacheTtlSeconds := by
  have kept := self.recipientCache.popAll_filter_entries fun entry =>
    decide (now - entry.2 > self.config.recipientCacheTtlSeconds)
  simp only [gt_iff_lt, ← decide_not, not_lt] at kept
  unfold cleanupExpired
  dsimp only
  split
  · exact ⟨_, _, rfl, kept⟩
  · exact ⟨_, _, rfl, kept⟩

/-- An open server sends after a cleanup; in reply mode once to every entry that is left. -/
theorem send_open {self : UdpServerSender ι} (opened : self.transportOpen = true)
    (payload : Bytes) (now : ℚ) :
    ∃ sent, self.send payload now = .ok sent ∧ sent.config = self.config ∧
      sent.transportOpen = true ∧
      sent.recipientCache.entries = (self.recipientCache.entries.filter fun entry =>
        now - entry.2 ≤ self.config.recipientCacheTtlSeconds) ∧
      (self.config.recipientMode = .replyToSenders → sent.datagrams =
        self.datagrams ++ (sent.recipientCache.entries.map Prod.fst).map (payload, ·)) := by
  obtain ⟨recipientCache, events, cleaned, entries⟩ := self.cleanupExpired_cache now
  simp only [send, opened, Bool.not_true, Bool.false_eq_true, if_false, cleaned, foldl_sendto]
  cases mode : self.config.recipientMode with
  | multicast => exact ⟨_, rfl, rfl, rfl, entries, fun reply => by cases reply⟩
  | replyToSenders => exact ⟨_, rfl, rfl, rfl, entries, fun _ => rfl⟩

theorem afterCalls_snoc (config : UdpServerConfig ι) (sockname : Option Nat)
    (calls : List (UdpCall ι)) (call : UdpCall ι) :
    afterCalls config sockname (calls ++ [call]) =
      (afterCalls config sockname calls).call call := by
  simp [afterCalls]

theorem call_frame {self : UdpServerSender ι} (opened : self.transportOpen = true)
    (call : UdpCall ι) :
    (self.call call).config = self.config ∧ (self.call call).transportOpen = true := by
  cases call with
  | registerSender addr now => exact ⟨rfl, opened⟩
  | cleanupExpired now =>
      obtain ⟨recipientCache, events, cleaned, _⟩ := self.cleanupExpired_cache now
      rw [UdpServerSender.call, cleaned]
      exact ⟨rfl, opened⟩
  | send payload now =>
      obtain ⟨sent, ran, config, opened, _⟩ := send_open opened payload now
      rw [UdpServerSender.call, ran]
      exact ⟨config, opened⟩

theorem afterCalls_frame (config : UdpServerConfig ι) (sockname : Option Nat)
    (calls : List (UdpCall ι)) :
    (afterCalls config sockname calls).config = config ∧
      (afterCalls config sockname calls).transportOpen = true := by
  induction calls using List.reverseRecOn with
  | nil => exact ⟨rfl, rfl⟩
  | append_singleton calls call ih =>
      obtain ⟨same, opened⟩ := ih
      rw [afterCalls_snoc]
      obtain ⟨kept, still⟩ := call_frame opened call
      exact ⟨kept.trans same, still⟩

/-- A call that cleans up leaves the entries that are not too old. -/
theorem call_cleanup_entries {self : UdpServerSender ι} (opened : self.transportOpen = true)
    {call : UdpCall ι} (cleans : call.cleansUp = true) :
    (self.call call).recipientCache.entries = self.recipientCache.entries.filter fun entry =>
      call.now - entry.2 ≤ self.config.recipientCacheTtlSeconds := by
  cases call with
  | registerSender addr now => cases cleans
  | cleanupExpired now =>
      obtain ⟨recipientCache, events, cleaned, entries⟩ := self.cleanupExpired_cache now
      rw [UdpServerSender.call, cleaned]
      exact entries
  | send payload now =>
      obtain ⟨sent, ran, _, _, entries, _⟩ := send_open opened payload now
      rw [UdpServerSender.call, ran]
      exact entries

theorem recipientCache_eq_window (config : UdpServerConfig ι) (sockname : Option Nat)
    {calls : List (UdpCall ι)} (clock : (calls.map UdpCall.now).Pairwise (· ≤ ·)) :
    (afterCalls config sockname calls).recipientCache.entries = recipientWindow config calls := by
  induction calls using List.reverseRecOn with
  | nil => simp [afterCalls, init, start, emit, recipientWindow, lastAddresses, lastSeen]
  | append_singleton calls call ih =>
      have before := clock_of_snoc clock
      obtain ⟨same, opened⟩ := afterCalls_frame config sockname calls
      rw [afterCalls_snoc]
      cases cleans : call.cleansUp with
      | true =>
          rw [call_cleanup_entries opened cleans, same, ih before,
            recipientWindow_cleanup config cleans clock]
      | false =>
          cases call with
          | registerSender addr now =>
              rw [UdpServerSender.call, registerSender_entries, same, ih before,
                recipientWindow_register config clock]
          | cleanupExpired now => cases cleans
          | send payload now => cases cleans

/-- Under a clock that does not go back the cache is the window of the history, so it is no
larger than its capacity, and a reply goes once to each address of the window that was last
seen within the TTL, and to no other. -/
theorem recipient_cache_is_window (config : UdpServerConfig ι) (sockname : Option Nat)
    {calls : List (UdpCall ι)} (clock : (calls.map UdpCall.now).Pairwise (· ≤ ·)) :
    let server := afterCalls config sockname calls
    server.recipientCache.entries = recipientWindow config calls ∧
      server.recipientCache.entries.length ≤ config.recipientCacheMaxEntries ∧
      ∀ payload now, (∀ call ∈ calls, call.now ≤ now) → config.recipientMode = .replyToSenders →
        ∃ sent recipients, server.send payload now = .ok sent ∧
          sent.datagrams = server.datagrams ++ recipients.map (payload, ·) ∧
          recipients = ((lastAddresses config calls).filter fun seen =>
            now - seen.time ≤ config.recipientCacheTtlSeconds).map Seen.addr ∧
          recipients.Nodup := by
  intro server
  obtain ⟨same, opened⟩ := afterCalls_frame config sockname calls
  refine ⟨recipientCache_eq_window config sockname clock, ?_, ?_⟩
  · rw [recipientCache_eq_window config sockname clock, recipientWindow_eq_rtake config clock]
    exact OrderedDict.length_rtake_le _ _
  · intro payload now later reply
    have clockNow : ((calls ++ [UdpCall.send payload now]).map UdpCall.now).Pairwise (· ≤ ·) := by
      rw [List.map_append]
      refine List.pairwise_append.mpr ⟨clock, List.pairwise_singleton _ _, ?_⟩
      intro time member last isNow
      obtain ⟨call, there, rfl⟩ := List.mem_map.mp member
      rw [List.mem_singleton.mp isNow]
      exact later call there
    obtain ⟨sent, ran, _, _, entries, replies⟩ := send_open opened payload now
    have window : sent.recipientCache.entries =
        ((lastAddresses config calls).filter fun seen =>
          now - seen.time ≤ config.recipientCacheTtlSeconds).map Seen.entry := by
      rw [entries, recipientCache_eq_window config sockname clock, same]
      have cut := @recipientWindow_cleanup ι _ config calls (.send payload now) rfl clockNow
      exact cut.symm.trans (recipientWindow_after_cleanup config rfl)
    refine ⟨sent, sent.recipientCache.entries.map Prod.fst, ran, replies (by rw [same, reply]),
      ?_, sent.recipientCache.nodup⟩
    rw [window, List.map_map]
    rfl

/-- Three senders share two places; one refreshes its entry and one expires. -/
def threeSenders : List (UdpCall String) :=
  [.registerSender "a" 0, .registerSender "b" 1, .registerSender "a" 2, .registerSender "c" 3,
    .cleanupExpired 9, .registerSender "b" 10]

theorem recipient_cache_is_window_three_senders :
    let config : UdpServerConfig String :=
      { multicastAddress := "m", recipientCacheTtlSeconds := 6, recipientCacheMaxEntries := 2 }
    let server := afterCalls config none threeSenders
    server.recipientCache.entries = recipientWindow config threeSenders ∧
      server.recipientCache.entries.length ≤ config.recipientCacheMaxEntries ∧
      ∀ payload now, (∀ call ∈ threeSenders, call.now ≤ now) →
        config.recipientMode = .replyToSenders →
        ∃ sent recipients, server.send payload now = .ok sent ∧
          sent.datagrams = server.datagrams ++ recipients.map (payload, ·) ∧
          recipients = ((lastAddresses config threeSenders).filter fun seen =>
            now - seen.time ≤ config.recipientCacheTtlSeconds).map Seen.addr ∧
          recipients.Nodup :=
  recipient_cache_is_window _ none (by decide +kernel)

end UdpServerSender

end TcpSim.Transport
