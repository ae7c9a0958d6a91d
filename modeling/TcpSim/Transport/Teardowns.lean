import TcpSim.Transport.Disconnects

/-! Who tears a client down. As long as no task is cancelled in the middle of a teardown, a
registered client that `_disconnect_client` was called for is in the hands of some task, and a call
is the first exactly when no task is tearing the client down. -/

set_option autoImplicit false

namespace TcpSim.Transport

variable {ι τ : Type}

namespace System

/-- Whom a call was for, and who is still registered, some task is tearing down. -/
def Attended (self : System ι τ) : Prop :=
  ∀ id connection, self.shared.connectionManager.clients.get? id = some connection →
    connection ∈ self.shared.calls.map (·.connection) →
    ∃ task teardown, self.teardownAt task = some teardown ∧ teardown.connection = connection

theorem Attended.of_same {self next : System ι τ} (attended : self.Attended)
    (clients : next.shared.connectionManager.clients = self.shared.connectionManager.clients)
    (calls : next.shared.calls = self.shared.calls)
    (points : ∀ task, next.teardownAt task = self.teardownAt task) : next.Attended := by
  intro id connection present called
  rw [clients] at present
  rw [calls] at called
  simp only [points]
  exact attended id connection present called

/-- A task outside teardowns has run a block, the others are where they were. -/
theorem Attended.block {self next : System ι τ} (attended : self.Attended) {task : Nat}
    (free : self.teardownAt task = none) {client : Option ι}
    {result : TcpServerSender ι τ × Point ι τ}
    (clients : result.1.connectionManager.clients = self.shared.connectionManager.clients)
    (begins : TcpServerSender.Begins self.shared client result) (shared : next.shared = result.1)
    (own : next.teardownAt task = result.2.teardown)
    (others : ∀ other, other ≠ task → next.teardownAt other = self.teardownAt other) :
    next.Attended := by
  have still {other : Nat} {teardown : Teardown ι} (here : self.teardownAt other = some teardown) :
      next.teardownAt other = some teardown := by
    rw [others other (by rintro rfl; rw [free] at here; cases here), here]
  intro id connection present called
  rw [shared, clients] at present
  rw [shared] at called
  rcases begins with ⟨calls, _⟩ | ⟨begun, _, _, calls, left⟩
  · rw [calls] at called
    obtain ⟨other, teardown, here, same⟩ := attended id connection present called
    exact ⟨other, teardown, still here, same⟩
  · rw [calls, List.map_append] at called
    rcases List.mem_append.mp called with before | now
    · obtain ⟨other, teardown, here, same⟩ := attended id connection present before
      exact ⟨other, teardown, still here, same⟩
    · exact ⟨task, begun, own.trans left, (List.mem_singleton.mp now).symm⟩

theorem Attended.set {self : System ι τ} (attended : self.Attended) {task : Nat} {old : Point ι τ}
    (found : self.points[task]? = some old) (free : old.teardown = none) {client : Option ι}
    {result : TcpServerSender ι τ × Point ι τ}
    (clients : result.1.connectionManager.clients = self.shared.connectionManager.clients)
    (begins : TcpServerSender.Begins self.shared client result) :
    Attended ({ shared := result.1, points := self.points.set task result.2 } : System ι τ) := by
  have idle : self.teardownAt task = none := by
    simp only [teardownAt, found, Option.bind_some, free]
  exact attended.block idle clients begins rfl (teardownAt_set_self found _)
    fun other distinct => teardownAt_set_of_ne distinct _ _

theorem teardownAt_launch_of_ne {self : System ι τ} (block : Block ι τ) {other : Nat}
    (distinct : other ≠ self.points.length) :
    teardownAt (self.launch block) other = self.teardownAt other := by
  simp only [teardownAt, Interleaving.Pool.launch]
  rcases Nat.lt_or_ge other self.points.length with inside | outside
  · rw [List.getElem?_append_left inside]
  · rw [List.getElem?_eq_none (by simp; omega), List.getElem?_eq_none outside]

theorem teardownAt_launch_self {self : System ι τ} (block : Block ι τ) :
    teardownAt (self.launch block) self.points.length = (block self.shared).2.teardown := by
  simp [teardownAt, Interleaving.Pool.launch]

theorem Attended.launch {self : System ι τ} (attended : self.Attended) (block : Block ι τ)
    {client : Option ι}
    (clients : (block self.shared).1.connectionManager.clients =
      self.shared.connectionManager.clients)
    (begins : TcpServerSender.Begins self.shared client (block self.shared)) :
    System.Attended (self.launch block) := by
  have idle : self.teardownAt self.points.length = none := by simp [teardownAt]
  exact attended.block idle clients begins rfl (teardownAt_launch_self block)
    fun other distinct => teardownAt_launch_of_ne block distinct

/-- A teardown goes on to its next await. -/
theorem Attended.goesOn {self : System ι τ} (attended : self.Attended) {task : Nat}
    {old point : Point ι τ} {teardown : Teardown ι} {await : TeardownAwait}
    (found : self.points[task]? = some old) (under : old.teardown = some teardown)
    (next : point.teardown = some { teardown with await }) {server : TcpServerSender ι τ}
    (keeps : TcpServerSender.Housekeeping self.shared server) :
    Attended ({ shared := server, points := self.points.set task point } : System ι τ) := by
  intro id connection present called
  rw [keeps.clients] at present
  rw [keeps.calls] at called
  obtain ⟨other, begun, here, same⟩ := attended id connection present called
  by_cases equal : other = task
  · subst equal
    simp only [teardownAt, found, Option.bind_some, under] at here
    cases here
    exact ⟨other, _, (teardownAt_set_self found _).trans next, same⟩
  · exact ⟨other, begun, (teardownAt_set_of_ne equal _ _).trans here, same⟩

/-! ## Steps -/

/-- No CancelledError ends a teardown. -/
def LetsFinish (self : System ι τ) : ServerAction ι τ → Prop
  | .resume task _ => self.shared.cancellations.tasks task = true → self.teardownAt task = none
  | .closeCancelled _ => False
  | _ => True

variable [DecidableEq ι]

/-- A teardown ends, and its client is not registered any more. -/
theorem Attended.unregister {self : System ι τ} (attended : self.Attended) (tidy : self.Tidy)
    {task : Nat} {old : Point ι τ} {teardown : Teardown ι} (found : self.points[task]? = some old)
    (under : old.teardown = some teardown) :
    Attended ({ shared := self.shared.unregister teardown.clientId teardown.reason
                points := self.points.set task .done } : System ι τ) := by
  have here : self.teardownAt task = some teardown := by
    simp only [teardownAt, found, Option.bind_some, under]
  intro id connection present called
  have distinct : id ≠ teardown.clientId := by
    rintro rfl
    cases (Dict.pop_get?_self _ teardown.clientId).symm.trans present
  have before := (Dict.pop_get?_of_ne _ distinct).symm.trans present
  obtain ⟨other, begun, there, same⟩ := attended id connection before called
  refine ⟨other, begun, (teardownAt_set_of_ne ?_ _ _).trans there, same⟩
  rintro rfl
  -- a connection has one name
  obtain rfl := Option.some.inj (there.symm.trans here)
  have mine := TcpServerSender.names_of_found (tidy.registered other begun here).1
  have its := TcpServerSender.names_of_found before
  rw [same, its] at mine
  exact distinct (Option.some.inj mine)

theorem resume_attended {self next : System ι τ} {task : Nat} {ok : Bool} (tidy : self.Tidy)
    (attended : self.Attended) (finishes : self.LetsFinish (.resume task ok))
    (taken : self.step (.resume task ok) = some next) : next.Attended := by
  obtain ⟨point, found, _, ended⟩ := step_resume_eq_some taken
  rcases ended with ⟨cancelled, rfl⟩ | ⟨_, rfl⟩
  · have free : point.teardown = none := by
      simpa [teardownAt, found] using finishes cancelled
    exact attended.set found free (TcpServerSender.resumeCancelled_quiet self.shared self.points task
      point).keepsRegistry.clients (TcpServerSender.resumeCancelled_begins self.shared self.points
        task point)
  · cases under : point.teardown with
    | none =>
        have begins := TcpServerSender.resume_begins self.shared self.points task ok under
        refine attended.set found under ?_ begins
        by_cases closes : point = .serverClosing
        · subst closes
          rfl
        · refine (TcpServerSender.resume_quiet self.shared self.points task ok closes
            ?_).keepsRegistry.clients
          intro teardown caller shape
          subst shape
          cases under
    | some teardown =>
        cases point with
        | disconnecting other caller =>
            obtain rfl := Option.some.inj under
            cases await : other.await with
            | writer writer =>
                simp only [TcpServerSender.resume, TcpServerSender.continueTeardown, await]
                exact attended.goesOn found under rfl
                  (TcpServerSender.endReader_housekeeping self.shared self.points task _ _)
            | reader reader =>
                simp only [TcpServerSender.resume, TcpServerSender.continueTeardown, await]
                exact attended.goesOn found under rfl
                  ⟨Or.inr ⟨other.connection, rfl⟩, rfl, rfl, rfl, rfl, rfl, rfl, rfl, rfl⟩
            | closing =>
                simp only [TcpServerSender.resume, TcpServerSender.continueTeardown, await]
                obtain ⟨begins, keeps⟩ := TcpServerSender.continueCaller_begins
                  (self.shared.unregister other.clientId other.reason) self.points task caller
                have again : (self.points.set task .done)[task]? = some Point.done :=
                  List.getElem?_set_self (List.getElem?_eq_some_iff.mp found).1
                have later := (attended.unregister tidy found rfl).set again rfl keeps.clients begins
                rw [List.set_set] at later
                exact later
        | _ => cases under

theorem accept_attended {self : System ι τ} {id : ι} (tidy : self.Tidy) (attended : self.Attended) :
    System.Attended (self.launch (·.accept id self.points.length)) := by
  intro other connection present called
  by_cases same : other = id
  · -- the new connection has the next number
    subst same
    have last : self.shared.connectionManager.states.length = connection :=
      Option.some.inj ((Dict.set_get?_self _ other _).symm.trans present)
    obtain ⟨call, noted, rfl⟩ := List.mem_map.mp called
    have inside := tidy.accounts.known call noted
    rw [TcpServerSender.names, List.length_map, last] at inside
    exact absurd inside (Nat.lt_irrefl _)
  · have before := (Dict.set_get?_of_ne _ same _).symm.trans present
    obtain ⟨task, teardown, here, equal⟩ := attended other connection before called
    have inside : task ≠ self.points.length := by
      rintro rfl
      simp [teardownAt] at here
    exact ⟨task, teardown, (teardownAt_launch_of_ne _ inside).trans here, equal⟩

theorem step_attended {self next : System ι τ} {action : ServerAction ι τ} (tidy : self.Tidy)
    (attended : self.Attended) (finishes : self.LetsFinish action)
    (taken : self.step action = some next) : next.Attended := by
  cases action with
  | connect id =>
      obtain rfl := step_connect_eq_some taken
      obtain ⟨begins, keeps⟩ := TcpServerSender.greet_begins
        (self.launch (·.accept id self.points.length)).shared
        (self.launch (·.accept id self.points.length)).points
        (self.launch (·.accept id self.points.length)).points.length id
      exact (accept_attended tidy attended).launch _ keeps.clients begins
  | resume task ok => exact resume_attended tidy attended finishes taken
  | closeCancelled task => exact finishes.elim
  | broadcast payload order =>
      obtain ⟨_, _, rfl⟩ := step_broadcast_eq_some taken
      have block := TcpServerSender.broadcast_begins self.shared self.points self.points.length
        payload order
      exact attended.launch _ block.2.clients block.1
  | cancelBroadcast task =>
      obtain rfl := step_cancelBroadcast_eq_some taken
      exact attended.of_same rfl rfl fun _ => rfl
  | updateHeader sendHeaderOnConnect headerPayload =>
      cases taken
      exact attended.of_same rfl rfl fun _ => rfl
  | stop =>
      cases taken
      exact attended.launch _ (TcpServerSender.stop_quiet self.shared self.points
        self.points.length).keepsRegistry.clients (TcpServerSender.stop_begins self.shared
          self.points self.points.length)
  | tick now =>
      obtain ⟨_, rfl⟩ := step_tick_eq_some taken
      exact attended.of_same rfl rfl fun _ => rfl

/-! ## Runs -/

/-- The step calls `_disconnect_client` for no client that a task is tearing down. The reader loop
that a teardown by another task has cancelled calls it for such a client. -/
def Uncontested (self : System ι τ) (action : ServerAction ι τ) : Prop :=
  ∀ id ∈ self.calledFor action, ∀ connection ∈ self.shared.connectionManager.clients.get? id,
    ∀ point ∈ self.points, ∀ teardown ∈ point.teardown, teardown.connection ≠ connection

theorem firstCall_iff_uncontested {self : System ι τ} (tidy : self.Tidy)
    (attended : self.Attended) (action : ServerAction ι τ) :
    self.FirstCall action ↔ self.Uncontested action := by
  constructor
  · intro first id chosen connection present point member teardown under same
    obtain ⟨task, found⟩ := List.mem_iff_getElem?.mp member
    have here : self.teardownAt task = some teardown :=
      Option.bind_eq_some_iff.mpr ⟨point, found, under⟩
    have called := List.mem_map_of_mem (f := (·.connection)) (tidy.registered task teardown here).2
    exact first id chosen connection present (same ▸ called)
  · intro uncontested id chosen connection present called
    obtain ⟨task, teardown, here, same⟩ := attended id connection present called
    obtain ⟨point, found, under⟩ := Option.bind_eq_some_iff.mp here
    exact uncontested id chosen connection present point (List.mem_of_getElem? found) teardown under
      same

/-- In runs in which teardowns are not cancelled, `FirstCall` is about where the tasks are. -/
theorem each_firstCall_iff (config : TcpServerConfig τ) (actions : List (ServerAction ι τ)) :
    Runs.Each step (fun self action => (self.DistinctNames action ∧ self.LetsFinish action) ∧
        self.FirstCall action) (started config) actions ↔
      Runs.Each step (fun self action => (self.DistinctNames action ∧ self.LetsFinish action) ∧
        self.Uncontested action) (started config) actions := by
  refine Runs.each_iff_each (fun _ => True) (fun self => self.Tidy ∧ self.Attended)
    (fun self action next _ held met taken => ?_)
    (fun self action _ held => and_congr_right' (firstCall_iff_uncontested held.1 held.2 action))
    ⟨started_tidy config, ?_⟩ fun _ _ => trivial
  · obtain ⟨tidy, attended⟩ := held
    have first := (firstCall_iff_uncontested tidy attended action).mpr met.2
    exact ⟨step_tidy tidy met.1.1 first taken, step_attended tidy attended met.1.2 taken⟩
  · intro id connection _ called
    cases called

end System

end TcpSim.Transport
