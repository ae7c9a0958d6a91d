import TcpSim.Transport.RecipientWindow
import TcpSim.Lib.Runs

/-! The cleanup loop of the UDP server sender, with its wake-ups. Between them nobody looks at the
age of an entry unless something is sent. -/

set_option autoImplicit false

namespace TcpSim.Transport

open Engine

theorem UdpServerSender.send_running {ι : Type} [DecidableEq ι] {server sent : UdpServerSender ι} {payload : Bytes} {now : ℚ}
    (ran : server.send payload now = .ok sent) : sent.running = server.running := by
  obtain ⟨recipientCache, events, cleaned, _⟩ := server.cleanupExpired_cache now
  unfold UdpServerSender.send at ran
  split at ran
  · cases ran
  · simp only [cleaned, UdpServerSender.foldl_sendto] at ran
    split at ran
    · cases ran
      rfl
    · cases ran
      rfl

structure SweptServer (ι : Type) where
  now : ℚ
  server : UdpServerSender ι
  /-- `recipient_cache_cleanup_interval_seconds` -/
  cleanupInterval : ℚ := 30
  /-- When `_cleanup_loop` goes on: at once after `start`, and then after each of its sleeps. -/
  nextSweep : Option ℚ := none

inductive SweptAction (ι : Type) where
  | wait (duration : ℚ)
  | start (sockname : Option Nat)
  | stop
  | registerSender (addr : ι)
  | send (payload : Bytes)
  /-- `_cleanup_loop` goes on. -/
  | sweep

namespace SweptServer

variable {ι : Type}

section Steps

variable [DecidableEq ι] (slack : ℚ) (self : SweptServer ι)

/-- One step; `none` when the action is not possible. A wake-up is at most `slack` late, and a
datagram reaches only a server that is open. -/
def step : SweptAction ι → Option (SweptServer ι)
  | .wait duration =>
      if 0 ≤ duration ∧ ∀ due ∈ self.nextSweep, self.now + duration ≤ due + slack then
        some { self with now := self.now + duration }
      else none
  | .start sockname =>
      if self.server.running then some self
      else some { self with server := self.server.start sockname, nextSweep := some self.now }
  | .stop =>
      if self.server.running then some { self with server := self.server.stop, nextSweep := none }
      else some self
  | .registerSender addr =>
      if self.server.transportOpen then
        some { self with server := self.server.registerSender addr self.now }
      else none
  | .send payload =>
      some { self with server := ((self.server.send payload self.now).toOption).getD self.server }
  | .sweep => self.nextSweep.bind fun due =>
      if due ≤ self.now then
        some { self with
          server := self.server.cleanupExpired self.now
          nextSweep := some (self.now + self.cleanupInterval) }
      else none

/-- Not started yet. -/
def fresh (config : UdpServerConfig ι) (cleanupInterval now : ℚ) : SweptServer ι where
  now
  server := UdpServerSender.init config
  cleanupInterval

end Steps

variable {slack : ℚ}

/-- A running server is swept in time, and was when its entries were not too old; a stopped one
has no entries. -/
structure Swept (slack interval : ℚ) (serverConfig : UdpServerConfig ι) (state : SweptServer ι) :
    Prop where
  config : state.server.config = serverConfig
  every : state.cleanupInterval = interval
  bounded : state.server.recipientCache.entries.length ≤ serverConfig.recipientCacheMaxEntries
  opened : state.server.transportOpen = state.server.running
  stopped : state.server.running = false → state.server.recipientCache.entries = []
  swept : state.server.running = true → ∃ due, state.nextSweep = some due ∧
    state.now ≤ due + slack ∧ due ≤ state.now + interval ∧
    ∀ entry ∈ state.server.recipientCache.entries,
      due ≤ entry.2 + serverConfig.recipientCacheTtlSeconds + interval

namespace Swept

variable {interval : ℚ} {config : UdpServerConfig ι} {state next : SweptServer ι}
  (valid : Swept slack interval config state)

include valid

/-- No entry is older than the TTL, one interval and the lateness of one wake-up. -/
theorem age {entry : ι × ℚ} (member : entry ∈ state.server.recipientCache.entries) :
    state.now - entry.2 ≤ config.recipientCacheTtlSeconds + interval + slack := by
  cases running : state.server.running with
  | false =>
      rw [valid.stopped running] at member
      cases member
  | true =>
      obtain ⟨due, _, inTime, _, entries⟩ := valid.swept running
      have young := entries entry member
      linarith

/-- The server after a cleanup, whatever else it did. -/
theorem cleaned {after : UdpServerSender ι} (sameConfig : after.config = state.server.config)
    (opened : after.transportOpen = state.server.transportOpen)
    (running : after.running = state.server.running)
    (entries : after.recipientCache.entries = state.server.recipientCache.entries.filter
      fun entry => state.now - entry.2 ≤ state.server.config.recipientCacheTtlSeconds) :
    Swept slack interval config { state with server := after } where
  config := sameConfig.trans valid.config
  every := valid.every
  bounded := by
    rw [entries]
    exact (List.length_filter_le _ _).trans valid.bounded
  opened := by
    rw [opened, running, valid.opened]
  stopped := by
    intro stopped
    rw [entries, valid.stopped (running.symm.trans stopped), List.filter_nil]
  swept := by
    intro isRunning
    obtain ⟨due, next, inTime, asleep, before⟩ := valid.swept (running.symm.trans isRunning)
    refine ⟨due, next, inTime, asleep, ?_⟩
    intro entry member
    rw [entries] at member
    exact before entry (List.mem_of_mem_filter member)

theorem wait {duration : ℚ} (forward : 0 ≤ duration)
    (inTime : ∀ due ∈ state.nextSweep, state.now + duration ≤ due + slack) :
    Swept slack interval config { state with now := state.now + duration } where
  config := valid.config
  every := valid.every
  bounded := valid.bounded
  opened := valid.opened
  stopped := valid.stopped
  swept := by
    intro running
    obtain ⟨due, next, _, asleep, entries⟩ := valid.swept running
    refine ⟨due, next, inTime due next, ?_, entries⟩
    change due ≤ state.now + duration + interval
    linarith

theorem stop (running : state.server.running = true) :
    Swept slack interval config { state with server := state.server.stop, nextSweep := none } := by
  have stopped : (state.server.stop).recipientCache = .empty ∧
      (state.server.stop).config = state.server.config ∧
      (state.server.stop).transportOpen = false ∧ (state.server.stop).running = false := by
    simp [UdpServerSender.stop, running, UdpServerSender.emit]
  obtain ⟨cache, sameConfig, closed, notRunning⟩ := stopped
  refine ⟨sameConfig.trans valid.config, valid.every, ?_, closed.trans notRunning.symm, ?_, ?_⟩
  · rw [cache]
    exact Nat.zero_le _
  · intro _
    rw [cache]
    rfl
  · intro impossible
    exact absurd (notRunning.symm.trans impossible) (by simp)

theorem start (patient : 0 ≤ interval) (late : 0 ≤ slack)
    (stopped : state.server.running = false) (sockname : Option Nat) :
    Swept slack interval config
      { state with server := state.server.start sockname, nextSweep := some state.now } := by
  have started : (state.server.start sockname).recipientCache = state.server.recipientCache ∧
      (state.server.start sockname).config = state.server.config ∧
      (state.server.start sockname).transportOpen = true ∧
      (state.server.start sockname).running = true := by
    simp [UdpServerSender.start, stopped, UdpServerSender.emit]
  obtain ⟨cache, sameConfig, opened, running⟩ := started
  have empty : (state.server.start sockname).recipientCache.entries = [] := by
    rw [cache, valid.stopped stopped]
  refine ⟨sameConfig.trans valid.config, valid.every, ?_, opened.trans running.symm, ?_, ?_⟩
  · rw [empty]
    exact Nat.zero_le _
  · exact fun _ => empty
  · intro _
    refine ⟨state.now, rfl, ?_, ?_, ?_⟩
    · change state.now ≤ state.now + slack
      linarith
    · change state.now ≤ state.now + interval
      linarith
    · rw [empty]
      exact fun entry none => absurd none List.not_mem_nil

variable [DecidableEq ι]

theorem sweep (patient : 0 ≤ interval) (late : 0 ≤ slack) :
    Swept slack interval config { state with
      server := state.server.cleanupExpired state.now
      nextSweep := some (state.now + state.cleanupInterval) } := by
  obtain ⟨recipientCache, events, same, entries⟩ := state.server.cleanupExpired_cache state.now
  have cleaned : Swept slack interval config
      { state with server := state.server.cleanupExpired state.now } := by
    rw [same]
    exact valid.cleaned rfl rfl rfl entries
  refine ⟨cleaned.config, valid.every, cleaned.bounded, cleaned.opened, cleaned.stopped, ?_⟩
  intro _
  rw [valid.every]
  refine ⟨_, rfl, ?_, le_rfl, ?_⟩
  · change state.now ≤ _
    linarith
  · intro entry member
    have left : entry ∈ recipientCache.entries := by
      rw [same] at member
      exact member
    rw [entries, valid.config] at left
    have young := of_decide_eq_true (List.mem_filter.mp left).2
    linarith

theorem registerSender (lasting : 0 ≤ config.recipientCacheTtlSeconds)
    (opened : state.server.transportOpen = true) (addr : ι) :
    Swept slack interval config
      { state with server := state.server.registerSender addr state.now } := by
  have entries := state.server.registerSender_entries addr state.now
  rw [valid.config] at entries
  refine ⟨valid.config, valid.every, ?_, valid.opened, ?_, ?_⟩
  · rw [entries]
    exact OrderedDict.length_rtake_le _ _
  · intro stopped
    exact absurd (stopped.symm.trans (valid.opened.symm.trans opened)) (by simp)
  · intro running
    obtain ⟨due, next, inTime, asleep, before⟩ := valid.swept running
    refine ⟨due, next, inTime, asleep, ?_⟩
    intro entry member
    rw [entries] at member
    rcases List.mem_append.mp (List.mem_of_mem_drop member) with older | newest
    · exact before entry (List.mem_of_mem_filter older)
    · obtain rfl := List.mem_singleton.mp newest
      change due ≤ state.now + _ + _
      linarith

theorem send (payload : Bytes) : Swept slack interval config
    { state with server := ((state.server.send payload state.now).toOption).getD state.server } := by
  cases opened : state.server.transportOpen with
  | false =>
      have refused : state.server.send payload state.now = .error "UDP server is not started" := by
        simp [UdpServerSender.send, opened]
      rw [refused]
      exact valid
  | true =>
      obtain ⟨sent, ran, sameConfig, stillOpen, entries, _⟩ :=
        UdpServerSender.send_open opened payload state.now
      rw [ran]
      exact valid.cleaned sameConfig (stillOpen.trans opened.symm) (UdpServerSender.send_running ran) entries

theorem step (patient : 0 ≤ interval) (late : 0 ≤ slack)
    (lasting : 0 ≤ config.recipientCacheTtlSeconds) (action : SweptAction ι)
    (taken : state.step slack action = some next) : Swept slack interval config next := by
  cases action with
  | wait duration =>
      simp only [SweptServer.step] at taken
      split at taken
      · rename_i possible
        cases taken
        exact valid.wait possible.1 possible.2
      · cases taken
  | start sockname =>
      simp only [SweptServer.step] at taken
      split at taken
      · cases taken
        exact valid
      · rename_i stopped
        cases taken
        exact valid.start patient late (Bool.eq_false_of_not_eq_true stopped) sockname
  | stop =>
      simp only [SweptServer.step] at taken
      split at taken
      · rename_i running
        cases taken
        exact valid.stop running
      · cases taken
        exact valid
  | registerSender addr =>
      simp only [SweptServer.step] at taken
      split at taken
      · rename_i opened
        cases taken
        exact valid.registerSender lasting opened addr
      · cases taken
  | send payload =>
      cases taken
      exact valid.send payload
  | sweep =>
      obtain ⟨due, _, taken⟩ := Option.bind_eq_some_iff.mp taken
      split at taken
      · cases taken
        exact valid.sweep patient late
      · cases taken

end Swept

variable [DecidableEq ι]

/-- At any moment of any run, with restarts: an entry of the cache is not older than the TTL, one
cleanup interval and the lateness of one wake-up, however long nothing is sent, and there are no
more of them than the cache holds. -/
theorem stale_entries_swept {slack interval : ℚ} {config : UdpServerConfig ι} (late : 0 ≤ slack)
    (patient : 0 ≤ interval) (lasting : 0 ≤ config.recipientCacheTtlSeconds) (now : ℚ)
    {actions : List (SweptAction ι)} {final : SweptServer ι}
    (ran : Runs.run (step slack) (fresh config interval now) actions = some final) :
    (∀ entry ∈ final.server.recipientCache.entries,
      final.now - entry.2 ≤ config.recipientCacheTtlSeconds + interval + slack) ∧
    final.server.recipientCache.entries.length ≤ config.recipientCacheMaxEntries := by
  have initial : Swept slack interval config (fresh config interval now) :=
    ⟨rfl, rfl, Nat.zero_le _, rfl, fun _ => rfl, fun impossible => by cases impossible⟩
  have valid := Runs.run_invariant (Swept slack interval config)
    (fun _ action _ valid taken => valid.step patient late lasting action taken) initial ran
  exact ⟨fun _ member => valid.age member, valid.bounded⟩

/-! The bound is reached: an entry that has just not expired at one cleanup, and a late wake-up. -/

def tenSecondCache : UdpServerConfig Nat where
  multicastAddress := 0
  recipientCacheTtlSeconds := 10

def quietMinute : List (SweptAction Nat) :=
  [.start none, .sweep, .wait 20, .registerSender 7, .wait 10, .sweep, .wait 31]

theorem stale_entries_swept_quiet_minute :
    ∃ final, Runs.run (step 1) (fresh tenSecondCache 30 0) quietMinute = some final ∧
      final.now = 61 ∧ final.server.recipientCache.entries = [(7, 20)] ∧
      ∀ entry ∈ final.server.recipientCache.entries, final.now - entry.2 ≤ 10 + 30 + 1 := by
  have ran : ((Runs.run (step 1) (fresh tenSecondCache 30 0) quietMinute).map fun final =>
      (final.now, final.server.recipientCache.entries)) = some (61, [(7, 20)]) := by
    decide +kernel
  obtain ⟨final, reached, same⟩ := Option.map_eq_some_iff.mp ran
  obtain ⟨now, entries⟩ := Prod.mk.inj same
  exact ⟨final, reached, now, entries, (stale_entries_swept (by decide) (by decide) (by decide) 0
    reached).1⟩

end SweptServer

end TcpSim.Transport
