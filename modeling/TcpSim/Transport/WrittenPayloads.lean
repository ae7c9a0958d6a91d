import TcpSim.Transport.TcpClientPayloads
import Mathlib.Data.List.ModifyLast

/-! On which connection the sending client writes which payload: each one is written once, on the
connection there is when its turn comes, and none is written again on a later one. -/

set_option autoImplicit false

namespace TcpSim.Transport

open Engine

/-- What was taken from the queue during one connection: what was written, and at the end perhaps a
payload whose `write` raised. -/
structure Outgoing where
  written : List Bytes := []
  failed : Option Bytes := none
  deriving DecidableEq, Repr

namespace Outgoing

def taken (self : Outgoing) : List Bytes := self.written ++ self.failed.toList

def write (payload : Bytes) (raises : Option OSError) (self : Outgoing) : Outgoing :=
  match raises with
  | none => { self with written := self.written ++ [payload] }
  | some _ => { self with failed := some payload }

theorem taken_write {self : Outgoing} (going : self.failed = none) (payload : Bytes)
    (raises : Option OSError) : (self.write payload raises).taken = self.taken ++ [payload] := by
  cases raises with
  | none => simp [write, taken, going]
  | some error => simp [write, taken, going]

end Outgoing

/-- The client, and the history of its connections. -/
structure PushingClient where
  client : TcpClientSender
  connections : List Outgoing := []

namespace PushingClient

def init (config : TcpClientConfig) : PushingClient where
  client := .init config

/-- The connections after an action. -/
def after (self : PushingClient) : ClientAction → List Outgoing
  | .connect none => self.connections ++ [{}]
  | .get raises =>
      match self.client.outbound with
      | [] => self.connections
      | payload :: _ => self.connections.modifyLast (Outgoing.write payload raises)
  | _ => self.connections

def step (python : Interpreter) (self : PushingClient) (action : ClientAction) :
    Option PushingClient :=
  (self.client.step python action).map fun client => { client, connections := self.after action }

end PushingClient

/-! ## Where the loop is -/

namespace TcpClientSender

/-- The task is in the loop of `_connected_loop`. -/
def inLoop (self : TcpClientSender) : Prop :=
  match self.point with
  | .getting => True
  | .draining _ => True
  | _ => False

theorem not_inLoop_enterRun (self : TcpClientSender) (loads : Option String) :
    ¬(self.enterRun loads).inLoop := by
  unfold enterRun
  split
  · exact id
  · split <;> exact id

theorem not_inLoop_closed (self : TcpClientSender) (raised : Option NetworkError) :
    ¬(self.closed raised).inLoop := by
  cases raised <;> exact id

theorem not_inLoop_close (self : TcpClientSender) (raised : Option NetworkError) :
    ¬(self.close raised).inLoop := by
  unfold close
  split
  · exact id
  · exact self.not_inLoop_closed raised

theorem not_inLoop_leaveTry (python : Interpreter) (self : TcpClientSender) (error : NetworkError) :
    ¬(self.leaveTry python error).inLoop := by
  unfold leaveTry
  split <;> exact not_inLoop_close _ _

end TcpClientSender

/-! ## The invariant -/

namespace PushingClient

/-- The queue hands its payloads to the connections one after the other; what has been drained has
been written; and while the task is in its loop, its connection is the latest. -/
structure Pushed (pushing : PushingClient) : Prop where
  queue : pushing.client.sent =
    pushing.connections.flatMap Outgoing.taken ++ pushing.client.outbound
  drained : (pushing.client.completed ++ pushing.client.inHand).Sublist
    (pushing.connections.flatMap Outgoing.written)
  latest : pushing.client.inLoop → ∃ past current, pushing.connections = past ++ [current] ∧
    current.failed = none

theorem init_pushed (config : TcpClientConfig) : (init config).Pushed :=
  ⟨rfl, List.Sublist.refl _, fun impossible => impossible.elim⟩

namespace Pushed

variable {python : Interpreter} {pushing next : PushingClient} (pushed : pushing.Pushed)

include pushed

/-- No payload moves, and the task does not get into its loop. -/
theorem of_idles {client : TcpClientSender} (idles : pushing.client.Idles client)
    (stays : client.inLoop → pushing.client.inLoop) : Pushed { pushing with client } := by
  obtain ⟨ledger, empty⟩ := idles
  simp only [TcpClientSender.ledger, TcpClientSender.Ledger.mk.injEq] at ledger
  obtain ⟨sent, completed, outbound⟩ := ledger
  refine ⟨?_, ?_, fun looping => pushed.latest (stays looping)⟩
  · rw [sent, outbound]
    exact pushed.queue
  · rw [completed, empty, List.append_nil]
    exact (List.sublist_append_left _ _).trans pushed.drained

theorem connects : Pushed
    { client := pushing.client.connected, connections := pushing.connections ++ [{}] } := by
  obtain ⟨ledger, empty⟩ := pushing.client.connected_idles
  simp only [TcpClientSender.ledger, TcpClientSender.Ledger.mk.injEq] at ledger
  obtain ⟨sent, completed, outbound⟩ := ledger
  refine ⟨?_, ?_, fun _ => ⟨pushing.connections, {}, rfl, rfl⟩⟩
  · rw [sent, outbound, pushed.queue, List.flatMap_append, List.flatMap_singleton,
      show Outgoing.taken {} = [] from rfl, List.append_nil]
  · rw [completed, empty, List.append_nil, List.flatMap_append, List.flatMap_singleton,
      List.append_nil]
    exact (List.sublist_append_left _ _).trans pushed.drained

/-- The next payload is written on the latest connection, or its `write` raises. -/
theorem gets (raises : Option OSError) {payload : Bytes} {outbound : List Bytes}
    (at_ : pushing.client.point = .getting) (head : pushing.client.outbound = payload :: outbound) :
    Pushed {
      client := { pushing.client with outbound }.write payload raises
      connections := pushing.connections.modifyLast (Outgoing.write payload raises) } := by
  have looping : pushing.client.inLoop := by
    unfold TcpClientSender.inLoop
    rw [at_]
    trivial
  have queue := pushed.queue
  have drained := pushed.drained
  have empty : pushing.client.inHand = [] := by
    unfold TcpClientSender.inHand
    rw [at_]
  rw [empty, List.append_nil] at drained
  obtain ⟨past, current, latest, going⟩ := pushed.latest looping
  rw [latest] at queue drained ⊢
  rw [List.modifyLast_concat]
  rw [List.flatMap_append, List.flatMap_singleton] at queue drained
  refine ⟨?_, ?_, ?_⟩
  · rw [List.flatMap_append, List.flatMap_singleton, Outgoing.taken_write going]
    cases raises with
    | none => simpa [TcpClientSender.write, head] using queue
    | some error => simpa [TcpClientSender.write, head] using queue
  · rw [List.flatMap_append, List.flatMap_singleton]
    cases raises with
    | none =>
        have more := drained.append_right [payload]
        simpa [TcpClientSender.write, TcpClientSender.inHand, Outgoing.write] using more
    | some error =>
        simpa [TcpClientSender.write, TcpClientSender.inHand, Outgoing.write] using drained
  · cases raises with
    | none => exact fun _ => ⟨past, _, rfl, going⟩
    | some error => exact fun impossible => impossible.elim

theorem drains {payload : Bytes} (at_ : pushing.client.point = .draining payload) :
    Pushed { pushing with client := pushing.client.drained payload } := by
  have inHand : pushing.client.inHand = [payload] := by
    unfold TcpClientSender.inHand
    rw [at_]
  have looping : pushing.client.inLoop := by
    unfold TcpClientSender.inLoop
    rw [at_]
    trivial
  have drained := pushed.drained
  rw [inHand] at drained
  let counted := ({ pushing.client with
    completed := pushing.client.completed ++ [payload] } : TcpClientSender).emit
      (.send payload.length)
  have moved : Pushed { pushing with client := { counted with point := .getting } } := by
    refine ⟨pushed.queue, ?_, fun _ => pushed.latest looping⟩
    simpa [counted, TcpClientSender.inHand, TcpClientSender.emit] using drained
  obtain ⟨ledger, empty⟩ := counted.loopTop_idles
  exact moved.of_idles ⟨ledger, empty⟩ fun _ => trivial

theorem step {action : ClientAction} (taken : pushing.step python action = some next) :
    next.Pushed := by
  obtain ⟨client, moved, rfl⟩ := Option.map_eq_some_iff.mp taken
  have quiet {after : TcpClientSender} (idles : pushing.client.Idles after)
      (leaves : ¬after.inLoop) : Pushed { pushing with client := after } :=
    pushed.of_idles idles fun looping => absurd looping leaves
  cases TcpClientSender.steps_of_step moved with
  | starts loads =>
      exact quiet (pushing.client.enterRun_idles loads) (pushing.client.not_inLoop_enterRun loads)
  | startsNothing => exact pushed
  | sends payload =>
      refine ⟨?_, pushed.drained, pushed.latest⟩
      change pushing.client.sent ++ [payload] = _ ++ (pushing.client.outbound ++ [payload])
      rw [pushed.queue, List.append_assoc]
      rfl
  | connects => exact pushed.connects
  | connectFails error =>
      exact quiet (pushing.client.leaveTry_idles python error)
        (TcpClientSender.not_inLoop_leaveTry python _ error)
  | watches outcome => exact ⟨pushed.queue, pushed.drained, pushed.latest⟩
  | timesOut at_ =>
      refine pushed.of_idles pushing.client.loopTop_idles fun _ => ?_
      unfold TcpClientSender.inLoop
      rw [at_]
      trivial
  | @gets raises payload outbound at_ head =>
      have after : pushing.after (.get raises) =
          pushing.connections.modifyLast (Outgoing.write payload raises) := by
        unfold PushingClient.after
        rw [head]
      rw [after]
      exact pushed.gets raises at_ head
  | drains at_ => exact pushed.drains at_
  | drainFails error at_ => exact quiet ⟨rfl, rfl⟩ id
  | unwatches at_ =>
      exact quiet (pushing.client.leaveTry_idles python _)
        (TcpClientSender.not_inLoop_leaveTry python _ _)
  | closes at_ =>
      exact quiet (pushing.client.closed_idles _) (pushing.client.not_inLoop_closed _)
  | wakes at_ => exact quiet pushing.client.attempt_idles id

/-- What is written on one connection was sent without a gap. -/
theorem written_infix {connection : Outgoing} (member : connection ∈ pushing.connections) :
    connection.written <:+: pushing.client.sent := by
  obtain ⟨past, later, split⟩ := List.append_of_mem member
  rw [pushed.queue, split]
  refine ⟨past.flatMap Outgoing.taken, connection.failed.toList ++ later.flatMap Outgoing.taken ++
    pushing.client.outbound, ?_⟩
  simp [Outgoing.taken]

end Pushed

theorem pushed_run {python : Interpreter} {config : TcpClientConfig} {actions : List ClientAction}
    {final : PushingClient} (ran : Runs.run (step python) (init config) actions = some final) :
    final.Pushed :=
  Runs.run_invariant Pushed (fun _ _ _ pushed taken => pushed.step taken) (init_pushed config) ran

end PushingClient

end TcpSim.Transport
