import TcpSim.Transport.TcpClientSender

/-! What becomes of the payloads given to the sending client: each is written and drained, in
hand or queued, unless a write or a drain failed while it was in hand. -/

set_option autoImplicit false

namespace TcpSim.Transport

open Engine

namespace TcpClientSender

/-! ## Ledger -/

/-- The payload that was taken from the queue and is being written. -/
def inHand (self : TcpClientSender) : List Bytes :=
  match self.point with
  | .draining payload => [payload]
  | _ => []

structure Ledger where
  sent : List Bytes
  completed : List Bytes
  outbound : List Bytes

def ledger (self : TcpClientSender) : Ledger where
  sent := self.sent
  completed := self.completed
  outbound := self.outbound

/-- The payloads given to `send` are, in order, those written and drained on some connection,
the one in hand and those still queued. -/
def Accounted (self : TcpClientSender) : Prop :=
  self.sent = self.completed ++ self.inHand ++ self.outbound

/-- The step moves no payload and leaves none in hand. -/
structure Idles (before after : TcpClientSender) : Prop where
  ledger : after.ledger = before.ledger
  inHand : after.inHand = []

theorem attempt_idles (self : TcpClientSender) : self.Idles self.attempt := ⟨rfl, rfl⟩

theorem enterRun_idles (self : TcpClientSender) (loads : Option String) :
    self.Idles (self.enterRun loads) := by
  unfold enterRun
  split
  · exact ⟨rfl, rfl⟩
  · split
    · exact ⟨rfl, rfl⟩
    · exact ⟨rfl, rfl⟩

theorem closed_idles (self : TcpClientSender) (raised : Option NetworkError) :
    self.Idles (self.closed raised) := by
  cases raised with
  | none => exact ⟨rfl, rfl⟩
  | some error => exact ⟨rfl, rfl⟩

theorem close_idles (self : TcpClientSender) (raised : Option NetworkError) :
    self.Idles (self.close raised) := by
  unfold close
  split
  · exact ⟨rfl, rfl⟩
  · exact self.closed_idles raised

theorem leaveTry_idles (python : Interpreter) (self : TcpClientSender) (error : NetworkError) :
    self.Idles (self.leaveTry python error) := by
  unfold leaveTry
  split
  · obtain ⟨ledger, inHand⟩ := close_idles ({ self with lastDisconnectReason := error.text }.emit
      (.reconnectPending error.text self.backoff.current)) none
    exact ⟨ledger, inHand⟩
  · exact self.close_idles _

theorem loopTop_idles (self : TcpClientSender) : self.Idles self.loopTop := by
  unfold loopTop
  split <;> exact ⟨rfl, rfl⟩

theorem connected_idles (self : TcpClientSender) : self.Idles self.connected := by
  obtain ⟨ledger, inHand⟩ := loopTop_idles { ({ self with
    writerOpen := true
    connectedEvent := true } : TcpClientSender).emit
      (.connect self.config.host self.config.port) with
    backoff := self.backoff.reset
    watch := .pending }
  exact ⟨ledger, inHand⟩

theorem Accounted.of_idles {before after : TcpClientSender} (accounted : before.Accounted)
    (empty : before.inHand = []) (idles : before.Idles after) : after.Accounted := by
  have sent := congrArg Ledger.sent idles.ledger
  have completed := congrArg Ledger.completed idles.ledger
  have outbound := congrArg Ledger.outbound idles.ledger
  simp only [ledger] at sent completed outbound
  unfold Accounted at accounted ⊢
  rw [sent, completed, outbound, idles.inHand, accounted, empty]

/-- A payload that is dropped is missing from the ledger for good. -/
theorem not_accounted_of_dropped {completed outbound sent : List Bytes} {payload : Bytes}
    (before : sent = completed ++ payload :: outbound) : sent ≠ completed ++ outbound := by
  intro same
  have lengths := congrArg List.length (before.symm.trans same)
  simp at lengths

end TcpClientSender

/-- No write and no drain fails in the step. -/
def ClientAction.WritesThrough : ClientAction → Prop
  | .get raises => raises = none
  | .drain raises => raises = none
  | _ => True

namespace TcpClientSender

theorem write_accounted_iff {self : TcpClientSender} {payload : Bytes} {outbound : List Bytes}
    (accounted : self.sent = self.completed ++ payload :: outbound) (raises : Option OSError) :
    ({ self with outbound }.write payload raises).Accounted ↔ raises = none := by
  cases raises with
  | none => simp [write, Accounted, inHand, accounted]
  | some error =>
      apply iff_of_false
      · intro after
        have dropped : self.sent = self.completed ++ [] ++ outbound := after
        rw [List.append_nil] at dropped
        exact not_accounted_of_dropped accounted dropped
      · exact Option.some_ne_none error

/-- From an accounted state a step keeps the account exactly when it writes through. -/
theorem accounted_step_iff {python : Interpreter} {self next : TcpClientSender}
    {action : ClientAction} (accounted : self.Accounted)
    (taken : self.step python action = some next) : next.Accounted ↔ action.WritesThrough := by
  cases steps_of_step taken with
  | starts loads idle =>
      refine iff_of_true (accounted.of_idles ?_ (self.enterRun_idles loads)) trivial
      simp [inHand, idle]
  | startsNothing => exact iff_of_true accounted trivial
  | sends payload =>
      refine iff_of_true ?_ trivial
      have before : self.sent = self.completed ++ self.inHand ++ self.outbound := accounted
      change self.sent ++ [payload] = self.completed ++ self.inHand ++ (self.outbound ++ [payload])
      rw [before, List.append_assoc _ self.outbound]
  | connects at_ =>
      refine iff_of_true (accounted.of_idles ?_ self.connected_idles) trivial
      simp [inHand, at_]
  | connectFails error at_ =>
      refine iff_of_true (accounted.of_idles ?_ (self.leaveTry_idles python error)) trivial
      simp [inHand, at_]
  | watches outcome => exact iff_of_true accounted trivial
  | timesOut at_ =>
      refine iff_of_true (accounted.of_idles ?_ self.loopTop_idles) trivial
      simp [inHand, at_]
  | @gets raises payload outbound at_ head =>
      apply write_accounted_iff
      simpa [Accounted, inHand, at_, head] using accounted
  | @drains payload at_ =>
      refine iff_of_true ?_ rfl
      have before : self.sent = self.completed ++ [payload] ++ self.outbound := by
        simpa [Accounted, inHand, at_] using accounted
      have moved : ({ self with
          completed := self.completed ++ [payload]
          point := .getting } : TcpClientSender).Accounted := by
        simpa [Accounted, inHand] using before
      obtain ⟨ledger, inHand⟩ := loopTop_idles ({ self with
        completed := self.completed ++ [payload] }.emit (.send payload.length))
      exact moved.of_idles rfl ⟨ledger, inHand⟩
  | @drainFails error payload at_ =>
      apply iff_of_false
      · intro after
        have before : self.sent = self.completed ++ payload :: self.outbound := by
          simpa [Accounted, inHand, at_] using accounted
        have dropped : self.sent = self.completed ++ [] ++ self.outbound := after
        rw [List.append_nil] at dropped
        exact not_accounted_of_dropped before dropped
      · exact Option.some_ne_none error
  | unwatches at_ =>
      refine iff_of_true (accounted.of_idles ?_ (self.leaveTry_idles python _)) trivial
      simp [inHand, at_]
  | closes at_ =>
      refine iff_of_true (accounted.of_idles ?_ (self.closed_idles _)) trivial
      simp [inHand, at_]
  | wakes at_ =>
      refine iff_of_true (accounted.of_idles ?_ self.attempt_idles) trivial
      simp [inHand, at_]

/-! ## Runs -/

/-- Over every sequence of connections the payloads stay accounted for, in order, exactly when
no write and no drain fails with a payload in hand. -/
theorem payloads_kept_iff (python : Interpreter) (config : TcpClientConfig)
    {actions : List ClientAction} {final : TcpClientSender}
    (ran : Runs.run (step python) (init config) actions = some final) :
    (∀ visited, Runs.Visits (step python) (init config) actions visited → visited.Accounted) ↔
      ∀ action ∈ actions, action.WritesThrough := by
  have stays := Runs.stays_iff_each (fun _ => True) (fun _ => True) Accounted
    (fun _ action => action.WritesThrough) (fun _ _ _ _ _ _ => trivial)
    (fun _ _ _ _ _ accounted taken => accounted_step_iff accounted taken)
    trivial (show (init config).Accounted from rfl) (fun _ _ => trivial) ran
  rw [stays, Runs.each_iff_of_run ran]

/-- A payload goes through on the second connection, after the server closed the first. -/
def goesThrough : List ClientAction :=
  [.start none, .send [0x61], .connect none, .watch .eof, .idleTimeout, .unwatched, .closed,
    .slept, .connect none, .get none, .drain none]

theorem payloads_kept_goes_through :
    (∀ visited, Runs.Visits (step { minor := 10 }) (init { host := "127.0.0.1", port := 9000 })
        goesThrough visited → visited.Accounted) ↔
      ∀ action ∈ goesThrough, action.WritesThrough :=
  payloads_kept_iff { minor := 10 } { host := "127.0.0.1", port := 9000 }
    (Option.some_get (by decide +kernel)).symm

/-- The connection is reset during the drain, and the client connects again. -/
def resetInDrain : List ClientAction :=
  [.start none, .send [0x61], .connect none, .get none,
    .drain (some (.osError ⟨"ConnectionResetError", "Connection lost"⟩)), .unwatched, .closed,
    .slept, .connect none]

/-- The payload was neither drained nor put back. -/
theorem resetInDrain_payload_lost : ∃ final,
    Runs.run (step { minor := 10 }) (init { host := "127.0.0.1", port := 9000 }) resetInDrain =
      some final ∧
      final.point = .getting ∧ final.sent = [[0x61]] ∧ final.completed = [] ∧
      final.outbound = [] ∧ ¬final.Accounted := by
  have outcome : (Runs.run (step { minor := 10 }) (init { host := "127.0.0.1", port := 9000 })
      resetInDrain).map (fun final =>
        (final.point, final.sent, final.completed, final.outbound)) =
      some (.getting, [[0x61]], [], []) := by decide +kernel
  obtain ⟨final, ran, seen⟩ := Option.map_eq_some_iff.mp outcome
  simp only [Prod.mk.injEq] at seen
  obtain ⟨point, sent, completed, outbound⟩ := seen
  refine ⟨final, ran, point, sent, completed, outbound, ?_⟩
  intro accounted
  simp [Accounted, inHand, point, sent, completed, outbound] at accounted

end TcpClientSender

end TcpSim.Transport
