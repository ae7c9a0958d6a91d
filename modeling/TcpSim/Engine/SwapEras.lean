import TcpSim.Engine.SchedulerRuns
import Mathlib.Data.List.Flatten

/-! File swaps of the scheduler: what was sent falls into eras, one for each swap that was
applied, each with the records and the header of the latest request. -/

set_option autoImplicit false

namespace TcpSim.Engine

variable {ρ : Type}

theorem SendScheduler.Served.kept {scheduler after : SendScheduler ρ}
    {message : Option (ScheduledMessage ρ)} (served : scheduler.Served message after) :
    after.generation = scheduler.generation ∧ after.sourceRecords = scheduler.sourceRecords := by
  cases served <;> exact ⟨rfl, rfl⟩

/-- What is sent between two applied swaps. -/
structure Era (ρ : Type) where
  records : List ρ
  header : Option ρ
  sent : List (ScheduledMessage ρ)
  /-- A jump was made before the first record was sent. -/
  jumped : Bool

namespace Era

def opened (records : List ρ) (header : Option ρ) : Era ρ where
  records := records
  header := header
  sent := []
  jumped := false

variable (era : Era ρ)

def data : List (ScheduledMessage ρ) := era.sent.filter (!·.isHeader)

def headerMessage (generation : Nat) : List (ScheduledMessage ρ) :=
  (era.header.map fun payload =>
    { payload, generation, isHeader := true, lineNumber := 0 }).toList

/-- The era of the generation is as it should be: the header once and first where one was
given, then records of its own list from the first line on. -/
structure Lawful (generation : Nat) : Prop where
  own : ∀ message ∈ era.sent, message.generation = generation
  headerFirst : era.sent = era.headerMessage generation ++ era.data
  ofRecords : ∀ message ∈ era.data, message.payload ∈ era.records
  fromFirst : era.jumped = false → ∀ first ∈ era.data.head?, first.lineNumber = 1

def send (message : Option (ScheduledMessage ρ)) : Era ρ :=
  { era with sent := era.sent ++ message.toList }

def jump : Era ρ := { era with jumped := era.jumped || era.data.isEmpty }

end Era

/-- A scheduler and what was asked of it and sent by it. The requests and the eras' records
and headers are noted from the calls alone. -/
structure SwapRun (ρ : Type) where
  scheduler : SendScheduler ρ
  past : List (Era ρ)
  current : Era ρ
  /-- The latest request since the last step. -/
  requested : Option (List ρ × Option ρ)
  messages : List (ScheduledMessage ρ)

namespace SwapRun

def create (records : List ρ) (rate : ℚ) (loop : Bool) : SwapRun ρ where
  scheduler := .create records rate loop
  past := []
  current := .opened records none
  requested := none
  messages := []

variable (self : SwapRun ρ)

def eras : List (Era ρ) := self.past ++ [self.current]

/-- The first half of a step: the latest request opens an era. -/
def applySwap : SwapRun ρ :=
  match self.requested with
  | none => { self with scheduler := self.scheduler.applyPendingSwap }
  | some (records, header) => {
      scheduler := self.scheduler.applyPendingSwap
      past := self.past ++ [self.current]
      current := .opened records header
      requested := none
      messages := self.messages }

/-- The second half. -/
def serve : SwapRun ρ := {
  self with
  scheduler := self.scheduler.stepApplied.2
  current := self.current.send self.scheduler.stepApplied.1
  messages := self.messages ++ self.scheduler.stepApplied.1.toList }

def call : SchedulerCall ρ → SwapRun ρ
  | .step => self.applySwap.serve
  | .requestFileSwap records header => {
      self with
      scheduler := self.scheduler.requestFileSwap records header
      requested := some (records, header) }
  | .jumpTo lineNumber =>
      match self.scheduler.jumpTo lineNumber with
      | .error _ => self
      | .ok scheduler => { self with scheduler, current := self.current.jump }
  | other => { self with scheduler := self.scheduler.call other }

def afterCalls (calls : List (SchedulerCall ρ)) : SwapRun ρ := calls.foldl call self

variable {self}

theorem scheduler_call (call : SchedulerCall ρ) :
    (self.call call).scheduler = self.scheduler.call call := by
  cases call with
  | step =>
      rw [call, applySwap]
      split <;> rfl
  | jumpTo lineNumber =>
      rw [call, SendScheduler.call]
      cases self.scheduler.jumpTo lineNumber <;> rfl
  | _ => rfl

theorem scheduler_afterCalls (calls : List (SchedulerCall ρ)) :
    (self.afterCalls calls).scheduler = self.scheduler.afterCalls calls := by
  induction calls generalizing self with
  | nil => rfl
  | cons call rest ih =>
      change ((self.call call).afterCalls rest).scheduler = (self.scheduler.call call).afterCalls rest
      rw [ih, scheduler_call]

end SwapRun

/-! ## Eras -/

namespace Era

variable {era : Era ρ} {generation : Nat}

theorem opened_lawful (records : List ρ) : (opened records none).Lawful generation where
  own := by simp [opened]
  headerFirst := rfl
  ofRecords := by simp [opened, data]
  fromFirst := by simp [opened, data]

theorem opened_send_header (records : List ρ) (payload : ρ) :
    ((opened records (some payload)).send
      (some { payload, generation, isHeader := true, lineNumber := 0 })).Lawful generation where
  own := by simp [opened, send]
  headerFirst := rfl
  ofRecords := by simp [opened, send, data]
  fromFirst := by simp [opened, send, data]

theorem data_send {message : ScheduledMessage ρ} (isData : message.isHeader = false) :
    (era.send (some message)).data = era.data ++ [message] := by
  simp [send, data, isData]

theorem Lawful.send_record (lawful : era.Lawful generation) {message : ScheduledMessage ρ}
    (isData : message.isHeader = false) (own : message.generation = generation)
    (ofRecords : message.payload ∈ era.records)
    (fromFirst : era.jumped = false → era.data = [] → message.lineNumber = 1) :
    (era.send (some message)).Lawful generation where
  own := by
    intro sent member
    rcases List.mem_append.mp member with earlier | last
    · exact lawful.own sent earlier
    · cases List.mem_singleton.mp last
      exact own
  headerFirst := by
    rw [data_send isData, ← List.append_assoc]
    exact congrArg (· ++ [message]) lawful.headerFirst
  ofRecords := by
    intro sent member
    rw [data_send isData] at member
    rcases List.mem_append.mp member with earlier | last
    · exact lawful.ofRecords sent earlier
    · cases List.mem_singleton.mp last
      exact ofRecords
  fromFirst := by
    intro notJumped first isFirst
    rw [data_send isData] at isFirst
    cases noData : era.data with
    | nil =>
        rw [noData] at isFirst
        cases isFirst
        exact fromFirst notJumped noData
    | cons head rest =>
        apply lawful.fromFirst notJumped first
        rw [noData] at isFirst ⊢
        exact isFirst

theorem Lawful.jump (lawful : era.Lawful generation) : era.jump.Lawful generation where
  own := lawful.own
  headerFirst := lawful.headerFirst
  ofRecords := lawful.ofRecords
  fromFirst := fun notJumped => lawful.fromFirst (Bool.or_eq_false_iff.mp notJumped).1

end Era

/-! ## The invariant -/

namespace SwapRun

/-- The scheduler serves the current era. -/
structure Follows (run : SwapRun ρ) : Prop where
  source : run.scheduler.sourceRecords = run.current.records
  selected : ∀ payload ∈ run.scheduler.records, payload ∈ run.current.records
  generation : run.scheduler.generation = run.past.length
  requested : run.scheduler.pendingSwap = run.requested
  fresh : run.current.jumped = false → run.current.data = [] → run.scheduler.cursor = 0
  lawfulPast : ∀ (generation : Nat) (era : Era ρ), run.past[generation]? = some era → era.Lawful generation
  log : run.messages = run.eras.flatMap Era.sent

/-- Between two calls no header waits. -/
structure Settled (run : SwapRun ρ) : Prop extends Follows run where
  handedOut : run.scheduler.pendingHeader = none
  lawful : run.current.Lawful run.past.length

/-- The current era has just been opened with a header. -/
def AwaitsHeader (self : SwapRun ρ) : Prop :=
  ∃ records payload, self.current = .opened records (some payload) ∧
    self.scheduler.pendingHeader = some payload

variable {self : SwapRun ρ}

theorem lawful_concat {past : List (Era ρ)} {last : Era ρ}
    (lawfulPast : ∀ (generation : Nat) (era : Era ρ), past[generation]? = some era → era.Lawful generation)
    (lawful : last.Lawful past.length) (generation : Nat) (era : Era ρ)
    (found : (past ++ [last])[generation]? = some era) : era.Lawful generation := by
  rcases Nat.lt_or_ge generation past.length with inside | behind
  · rw [List.getElem?_append_left inside] at found
    exact lawfulPast generation era found
  · rw [List.getElem?_append_right behind] at found
    obtain ⟨isLast, rfl⟩ := List.getElem?_eq_some_iff.mp found
    rw [List.length_singleton] at isLast
    obtain rfl : generation = past.length := by omega
    simpa using lawful

theorem Settled.applySwap (settled : self.Settled) :
    self.applySwap.Follows ∧ (self.applySwap.AwaitsHeader ∨ self.applySwap.Settled) := by
  have pending := settled.requested
  unfold SwapRun.applySwap SendScheduler.applyPendingSwap
  cases asked : self.requested with
  | none =>
      rw [asked] at pending
      simp only [pending]
      rw [← asked]
      exact ⟨settled.toFollows, .inr settled⟩
  | some request =>
      obtain ⟨records, header⟩ := request
      rw [asked] at pending
      simp only [pending]
      have follows : SwapRun.Follows {
          scheduler := { { self.scheduler with pendingSwap := none, sourceRecords := records }.rebuildActiveRecords with
            generation := self.scheduler.generation + 1, pendingHeader := header }
          past := self.past ++ [self.current]
          current := .opened records header
          requested := none
          messages := self.messages } := {
        source := rfl
        selected := fun payload member => LineSelection.mem_of_select _ member
        generation := by simp [settled.generation]
        requested := rfl
        fresh := fun _ _ => rfl
        lawfulPast := lawful_concat settled.lawfulPast settled.lawful
        log := by simp [eras, Era.opened, settled.log] }
      refine ⟨follows, ?_⟩
      cases header with
      | none => exact .inr ⟨follows, rfl, Era.opened_lawful records⟩
      | some payload => exact .inl ⟨records, payload, rfl, rfl⟩

theorem log_send (log : self.messages = self.eras.flatMap Era.sent)
    (message : Option (ScheduledMessage ρ)) :
    self.messages ++ message.toList =
      (self.past ++ [self.current.send message]).flatMap Era.sent := by
  simp [log, eras, Era.send]

theorem Follows.serve_header (follows : self.Follows) (awaits : self.AwaitsHeader) :
    self.serve.Settled := by
  obtain ⟨records, payload, opened, waits⟩ := awaits
  have served : self.scheduler.stepApplied =
      (some { payload, generation := self.scheduler.generation, isHeader := true, lineNumber := 0 },
        { self.scheduler with pendingHeader := none }) := by
    simp only [SendScheduler.stepApplied, waits]
  have log := log_send follows.log self.scheduler.stepApplied.1
  have lawful := @Era.opened_send_header ρ self.scheduler.generation records payload
  unfold serve
  rw [served] at log ⊢
  refine ⟨⟨follows.source, follows.selected, follows.generation, follows.requested, ?_,
    follows.lawfulPast, log⟩, rfl, ?_⟩
  · intro notJumped _
    apply follows.fresh notJumped
    rw [opened]
    rfl
  · rw [opened]
    rw [follows.generation] at lawful
    rw [follows.generation]
    exact lawful

theorem Settled.serve (settled : self.Settled) : self.serve.Settled := by
  have log := log_send settled.log self.scheduler.stepApplied.1
  have served := self.scheduler.stepApplied_served
  unfold SwapRun.serve
  generalize self.scheduler.stepApplied.1 = message at served log ⊢
  generalize self.scheduler.stepApplied.2 = after at served ⊢
  cases served with
  | header payload waits =>
      rw [settled.handedOut] at waits
      cases waits
  | nothing noHeader finished =>
      have unchanged : self.current.send none = self.current := by
        simp [Era.send]
      rw [unchanged] at log ⊢
      exact ⟨⟨settled.source, settled.selected, settled.generation, settled.requested, settled.fresh,
        settled.lawfulPast, log⟩, settled.handedOut, settled.lawful⟩
  | record payload noHeader found =>
      have fromFirst : self.current.jumped = false → self.current.data = [] →
          self.scheduler.position + 1 = 1 := by
        intro notJumped noData
        simp [SendScheduler.position, settled.fresh notJumped noData]
      refine ⟨⟨settled.source, settled.selected, settled.generation, settled.requested, ?_,
        settled.lawfulPast, log⟩, noHeader, ?_⟩
      · intro _ noData
        rw [Era.data_send rfl] at noData
        simp at noData
      · exact settled.lawful.send_record rfl settled.generation
          (settled.selected payload (List.mem_of_getElem? found)) fromFirst

theorem Settled.step (settled : self.Settled) : (self.call .step).Settled := by
  obtain ⟨follows, awaits | applied⟩ := settled.applySwap
  · exact follows.serve_header awaits
  · exact applied.serve

theorem Settled.setLineControls (settled : self.Settled) (startLine endLine firstN : Option Int) :
    (self.call (.setLineControls startLine endLine firstN)).Settled := by
  change SwapRun.Settled { self with
    scheduler := self.scheduler.call (.setLineControls startLine endLine firstN) }
  rw [SendScheduler.call]
  rcases self.scheduler.setLineControls_cases startLine endLine firstN with ⟨message, raised⟩ | ⟨lines, set_⟩
  · rw [raised]
    exact settled
  · rw [set_]
    refine ⟨⟨settled.source, ?_, settled.generation, settled.requested, fun _ _ => rfl,
      settled.lawfulPast, settled.log⟩, settled.handedOut, settled.lawful⟩
    intro payload member
    rw [← settled.source]
    exact lines.mem_of_select member

theorem Settled.jumpTo (settled : self.Settled) (lineNumber : Int) :
    (self.call (.jumpTo lineNumber)).Settled := by
  rw [call]
  rcases self.scheduler.jumpTo_cases lineNumber with ⟨message, raised⟩ | ⟨_, _, jumped⟩
  · rw [raised]
    exact settled
  · rw [jumped]
    refine ⟨⟨settled.source, settled.selected, settled.generation, settled.requested, ?_,
      settled.lawfulPast, ?_⟩, settled.handedOut, settled.lawful.jump⟩
    · intro notJumped noData
      have noData : self.current.data = [] := noData
      simp [Era.jump, noData] at notJumped
    · have log := settled.log
      simp only [eras, List.flatMap_append] at log ⊢
      exact log

theorem Settled.call (settled : self.Settled) {call : SchedulerCall ρ}
    (keeps : ∀ records, call ≠ .setRecords records) : (self.call call).Settled := by
  cases call with
  | setRecords records => cases keeps records rfl
  | requestFileSwap records header =>
      exact ⟨⟨settled.source, settled.selected, settled.generation, rfl, settled.fresh,
        settled.lawfulPast, settled.log⟩, settled.handedOut, settled.lawful⟩
  | setLineControls startLine endLine firstN => exact settled.setLineControls startLine endLine firstN
  | jumpTo lineNumber => exact settled.jumpTo lineNumber
  | step => exact settled.step
  | _ =>
      exact ⟨⟨settled.source, settled.selected, settled.generation, settled.requested, settled.fresh,
        settled.lawfulPast, settled.log⟩, settled.handedOut, settled.lawful⟩

theorem create_settled (records : List ρ) (rate : ℚ) (loop : Bool) :
    (create records rate loop).Settled where
  source := rfl
  selected := fun _ member => member
  generation := rfl
  requested := rfl
  fresh := fun _ _ => rfl
  lawfulPast := by simp [create]
  log := rfl
  handedOut := rfl
  lawful := Era.opened_lawful records

theorem settled_afterCalls (settled : self.Settled) {calls : List (SchedulerCall ρ)}
    (keeps : ∀ records, .setRecords records ∉ calls) : (self.afterCalls calls).Settled := by
  induction calls generalizing self with
  | nil => exact settled
  | cons call rest ih =>
      have first : ∀ records, call ≠ .setRecords records := by
        rintro records rfl
        exact keeps records List.mem_cons_self
      have others : ∀ records, .setRecords records ∉ rest := fun records member =>
        keeps records (List.mem_cons_of_mem call member)
      exact ih (settled.call first) others

/-! ## What was sent -/

theorem Settled.lawful_eras (settled : self.Settled) (generation : Nat) (era : Era ρ)
    (found : self.eras[generation]? = some era) : era.Lawful generation :=
  lawful_concat settled.lawfulPast settled.lawful generation era found

theorem Settled.generations_ordered (settled : self.Settled) :
    self.messages.Pairwise (·.generation ≤ ·.generation) := by
  rw [settled.log, List.pairwise_flatMap]
  constructor
  · intro era member
    obtain ⟨generation, found⟩ := List.mem_iff_getElem?.mp member
    have lawful := settled.lawful_eras generation era found
    apply List.pairwise_of_forall_mem_list
    intro first isFirst second isSecond
    rw [lawful.own first isFirst, lawful.own second isSecond]
  · rw [List.pairwise_iff_getElem]
    intro i j _ _ before earlier isEarlier later isLater
    rw [(settled.lawful_eras i _ (List.getElem?_eq_getElem _)).own earlier isEarlier]
    rw [(settled.lawful_eras j _ (List.getElem?_eq_getElem _)).own later isLater]
    exact before.le

theorem Settled.step_generation (settled : self.Settled) :
    self.scheduler.step.2.generation =
      self.scheduler.generation + if self.requested.isSome then 1 else 0 := by
  rw [self.scheduler.step_served.kept.1, SendScheduler.applyPendingSwap, ← settled.requested]
  cases self.scheduler.pendingSwap <;> rfl

theorem Settled.step_source (settled : self.Settled) {records : List ρ} {header : Option ρ}
    (requested : self.requested = some (records, header)) :
    self.scheduler.step.2.sourceRecords = records := by
  rw [self.scheduler.step_served.kept.2, SendScheduler.applyPendingSwap, settled.requested, requested]
  rfl

/-- Swaps are applied whole and one at a time: generations only grow, by one for a step that
finds a request, and what one generation sends is its own header and its own records. -/
theorem swaps_atomic (records : List ρ) (rate : ℚ) (loop : Bool) (calls : List (SchedulerCall ρ))
    (keeps : ∀ records, .setRecords records ∉ calls) :
    let run := (create records rate loop).afterCalls calls
    run.scheduler = (SendScheduler.create records rate loop).afterCalls calls ∧
      run.messages = run.eras.flatMap Era.sent ∧
      run.messages.Pairwise (·.generation ≤ ·.generation) ∧
      run.eras.length = run.scheduler.generation + 1 ∧
      (∀ (generation : Nat) (era : Era ρ), run.eras[generation]? = some era → era.Lawful generation) ∧
      run.scheduler.step.2.generation =
        run.scheduler.generation + (if run.requested.isSome then 1 else 0) ∧
      (∀ records header, run.requested = some (records, header) →
        run.scheduler.step.2.sourceRecords = records) := by
  intro run
  have settled := settled_afterCalls (create_settled records rate loop) keeps
  refine ⟨scheduler_afterCalls calls, settled.log, settled.generations_ordered, ?_,
    settled.lawful_eras, settled.step_generation, fun _ _ => settled.step_source⟩
  rw [settled.generation]
  exact List.length_append

theorem swaps_atomic_superseded :
    let calls : List (SchedulerCall Nat) := [.step, .requestFileSwap [7] none,
      .requestFileSwap [8, 9] (some 0), .step, .jumpTo 2, .setLineControls (some 1) none none, .step]
    let run := (create [1, 2] 10 true).afterCalls calls
    run.messages.map (fun message => (message.generation, message.payload)) = [(0, 1), (1, 0), (1, 8)] ∧
      run.messages.Pairwise (·.generation ≤ ·.generation) ∧
      run.eras.length = run.scheduler.generation + 1 := by
  intro calls run
  have atomic := swaps_atomic [1, 2] 10 true calls (by simp [calls])
  exact ⟨rfl, atomic.2.2.1, atomic.2.2.2.1⟩

end SwapRun

end TcpSim.Engine
