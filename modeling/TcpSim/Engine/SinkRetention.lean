import TcpSim.Engine.RotationOutcomes
import TcpSim.Engine.SinkFailures

/-! Which backups are on the disk: over a run that changes neither the path nor the enabled
flag, but may change the backup count between two records. -/

set_option autoImplicit false

namespace TcpSim.Engine

open Effects Rollover

/-- The backups `base.1`, `base.2`, … hold the segments, and there are no others. -/
def Shelves (base : String) (files : String → Option Bytes) (segments : List Bytes) : Prop :=
  ∀ i, files (backupPath base (i + 1)) = segments[i]?

/-- What opening and appending to the base path leave alone. -/
def SinkFile.shelf (base : String) (file : SinkFile) : (Nat → Option Bytes) × Nat :=
  (fun i => file.disk.files (backupPath base (i + 1)), file.rotations)

/-- The file that is open, if one is, is the one at `base`. -/
def SinkFile.OnlyAt (file : SinkFile) (base : String) : Prop :=
  file.fh.isSome = true → file.OpenAt base

theorem SinkFile.onlyAt_of_closed {file : SinkFile} (base : String) (closed : file.fh = none) :
    file.OnlyAt base := by
  intro opened
  rw [closed] at opened
  cases opened

theorem SinkFile.OnlyAt.congr {file after : SinkFile} {base : String} (only : file.OnlyAt base)
    (handle : after.fh = file.fh) (current : after.currentPath = file.currentPath)
    (files : after.disk.files = file.disk.files) : after.OnlyAt base :=
  fun opened => (only (handle ▸ opened)).congr handle current files

/-! ## Opening and appending -/

section Shelf

variable (base : String)

private theorem osCall_shelf : Unchanged (SinkFile.shelf base) osCall := by
  refine (Unchanged.get _).bind fun before => ?_
  refine Unchanged.bind (Unchanged.of_modify fun _ => rfl) fun _ => ?_
  exact Unchanged.ite (Unchanged.throw _ _) (Unchanged.pure _ _)

private theorem setFile_shelf (content : Option Bytes) :
    Unchanged (SinkFile.shelf base) (setFile base content) := by
  apply Unchanged.of_modify
  intro file
  simp only [SinkFile.shelf, Prod.mk.injEq, and_true]
  funext i
  exact Function.update_of_ne (backupPath_ne base (i + 1)) _ _

private theorem openAppend_shelf : Unchanged (SinkFile.shelf base) (openAppend base) := by
  refine (osCall_shelf base).bind fun _ => (Unchanged.get _).bind fun _ => ?_
  exact (setFile_shelf base _).bind fun _ => Unchanged.of_modify fun _ => rfl

private theorem sizeOnDisk_shelf : Unchanged (SinkFile.shelf base) (sizeOnDisk base) := by
  have exists_ : Unchanged (SinkFile.shelf base) (pathExists base) :=
    (osCall_shelf base).bind fun _ => (Unchanged.get _).bind fun _ => Unchanged.pure _ _
  refine exists_.bind fun _ => Unchanged.ite ?_ (Unchanged.pure _ _)
  refine (osCall_shelf base).bind fun _ => (Unchanged.get _).bind fun file => ?_
  cases file.disk.files base with
  | none => exact Unchanged.throw _ _
  | some content => exact Unchanged.pure _ _

private theorem openFileIfEnabled_shelf {cfg : SinkConfig} (target : cfg.truthyPath = some base) :
    Unchanged (SinkFile.shelf base) (openFileIfEnabled cfg) := by
  apply Unchanged.ite (Unchanged.pure _ _)
  rw [target]
  refine (osCall_shelf base).bind fun _ => (openAppend_shelf base).bind fun _ => ?_
  refine Unchanged.bind (Unchanged.of_modify fun _ => rfl) fun _ => ?_
  exact (sizeOnDisk_shelf base).bind fun _ => Unchanged.of_modify fun _ => rfl

private theorem writeBlob_keeps {file : SinkFile} (opened : file.OpenAt base) (blob : Bytes) :
    (final (writeBlob blob file)).OpenAt base ∧
      (final (writeBlob blob file)).shelf base = file.shelf base := by
  simp only [writeBlob, run_get_bind, opened.handle]
  by_cases fails : file.disk.faults.headD false = true
  · rw [bind_of_error (osCall_raises fails)]
    exact ⟨opened.withFaults _, rfl⟩
  · rw [bind_of_ok (osCall_returns (eq_false_of_ne_true fails))]
    refine ⟨⟨opened.handle, opened.current, ?_⟩, setFile_shelf base _ _⟩
    simp [SinkFile.withFaults, final, setFile]

end Shelf

/-! ## Writing a record -/

/-- What a step did to the backups, under the backup count `count`. -/
inductive ShelfStep (base : String) (count : Nat) (file after : SinkFile) : Prop where
  | same (kept : after.shelf base = file.shelf base)
  /-- A rotation failed before all files were moved. -/
  | disordered (closed : after.fh = none) (uncounted : after.rotations = file.rotations)
  | rotated (opened : file.OpenAt base) (counted : after.rotations = file.rotations + 1)
      (moved : ∀ i, after.disk.files (backupPath base (i + 1)) =
        makeRoom count (slots base file.disk.files) (i + 1))

private theorem rotateIfDue_shelf {file : SinkFile} {base : String} (opened : file.OpenAt base)
    (cfg : SinkConfig) (blob : Bytes) :
    ShelfStep base cfg.rotationBackupCount file (final (rotateIfDue cfg blob file)) ∧
      (final (rotateIfDue cfg blob file)).OnlyAt base ∧
        ∀ after, rotateIfDue cfg blob file = .ok () after → after.OpenAt base := by
  unfold rotateIfDue
  rw [run_get_bind]
  split
  · have outcome := rotate_outcome opened cfg
    generalize rotate cfg file = result at outcome
    cases outcome with
    | failed error disk =>
        refine ⟨.disordered rfl rfl, SinkFile.onlyAt_of_closed base rfl, ?_⟩
        intro after ran
        cases ran
    | stranded error disk events moved =>
        refine ⟨.rotated opened rfl fun i => congrFun moved (i + 1),
          SinkFile.onlyAt_of_closed base rfl, ?_⟩
        intro after ran
        cases ran
    | done disk events moved =>
        have found : disk.files base = some [] :=
          (congrFun moved 0).trans (Function.update_self _ _ _)
        have openedAfter : SinkFile.OpenAt { file with
            disk, fh := some base, rotations := file.rotations + 1, events, currentFileSize := 0 }
              base :=
          ⟨rfl, opened.current, by rw [found]; rfl⟩
        refine ⟨.rotated opened rfl fun i => ?_, fun _ => openedAfter, ?_⟩
        · exact (congrFun moved (i + 1)).trans (Function.update_of_ne (Nat.succ_ne_zero i) _ _)
        · intro after ran
          cases ran
          exact openedAfter
  · refine ⟨.same rfl, fun _ => opened, fun after ran => ?_⟩
    cases ran
    exact opened

private theorem ShelfStep.then {base : String} {count : Nat} {file middle after : SinkFile}
    (step : ShelfStep base count file middle) (kept : after.shelf base = middle.shelf base)
    (closed : middle.fh = none → after.fh = none) : ShelfStep base count file after := by
  simp only [SinkFile.shelf, Prod.mk.injEq] at kept
  obtain ⟨files, rotations⟩ := kept
  cases step with
  | same same =>
      refine .same ?_
      simp only [SinkFile.shelf, files, rotations]
      exact same
  | disordered handle uncounted => exact .disordered (closed handle) (rotations.trans uncounted)
  | rotated opened counted moved =>
      exact .rotated opened (rotations.trans counted) fun i => (congrFun files i).trans (moved i)

/-- Whatever raises, only a rotation moves backups. -/
theorem writeRecord_shelf {file : SinkFile} {base : String} (opened : file.OpenAt base)
    (cfg : SinkConfig) (now : String) (item : QueueItem) :
    ShelfStep base cfg.rotationBackupCount file (final (writeRecord cfg now item file)) ∧
      (final (writeRecord cfg now item file)).OnlyAt base := by
  obtain ⟨step, only, returns⟩ := rotateIfDue_shelf opened cfg (encode cfg now item)
  rw [writeRecord_of_open opened.handle, bind_assoc]
  cases rotated : rotateIfDue cfg (encode cfg now item) file with
  | error error after =>
      rw [rotated] at step only
      rw [bind_of_error rotated]
      exact ⟨step, only⟩
  | ok value after =>
      rw [rotated] at step
      have openedAfter := returns after rotated
      obtain ⟨openedWritten, kept⟩ := writeBlob_keeps base openedAfter (encode cfg now item)
      have stays (written : SinkFile) (opened : written.OpenAt base) : after.fh = none → written.fh = none :=
        fun closed => by cases closed.symm.trans openedAfter.handle
      rw [bind_of_ok rotated]
      cases written : writeBlob (encode cfg now item) after with
      | error error last =>
          rw [written] at openedWritten kept
          rw [bind_of_error written]
          exact ⟨step.then kept (stays last openedWritten), fun _ => openedWritten⟩
      | ok value last =>
          rw [written] at openedWritten kept
          rw [bind_of_ok written]
          exact ⟨step.then kept (stays last openedWritten), fun _ => openedWritten.congr rfl rfl rfl⟩

/-! ## One step of the writer -/

/-- The configurations in force and asked for are enabled and have the path `base`. -/
structure SinkWriter.Configured (base : String) (sink : SinkWriter) : Prop where
  enabled : sink.cfg.enabled = true
  path : sink.cfg.path = some base
  pending : ∀ pending ∈ sink.pendingConfig,
    pending.cfg.enabled = true ∧ pending.cfg.path = some base

/-- The actions of a run that keeps the path and the enabled flag. -/
def SinkAction.KeepsPath (base : String) : SinkAction → Prop
  | .configure cfg => cfg.enabled = true ∧ cfg.path = some base
  | .stop | .stopReturn | .stopTimeout => False
  | _ => True

/-- The drain loop has begun, whether or not it is still running. -/
def SinkWriter.Begun (sink : SinkWriter) : Prop :=
  sink.task ≠ none ∧ sink.task ≠ some .created

theorem SinkWriter.Configured.nextCfg {base : String} {sink : SinkWriter}
    (configured : sink.Configured base) :
    sink.nextCfg.enabled = true ∧ sink.nextCfg.path = some base := by
  unfold SinkWriter.nextCfg
  cases requested : sink.pendingConfig with
  | none => exact ⟨configured.enabled, configured.path⟩
  | some pending => exact configured.pending pending requested

/-- Settling a configuration with the same path and flag touches no file. -/
theorem SinkWriter.applyPendingConfig_same {base : String} {sink : SinkWriter}
    (configured : sink.Configured base) (opening : List Bool) :
    ∃ settled faults statsPath events, sink.applyPendingConfig opening = .ok () settled ∧
      settled.cfg = sink.nextCfg ∧ settled.pendingConfig = none ∧ settled.task = sink.task ∧
      settled.file = { sink.file.withFaults faults with statsPath, events } := by
  unfold SinkWriter.applyPendingConfig SinkWriter.nextCfg
  cases requested : sink.pendingConfig with
  | none =>
      exact ⟨sink, sink.file.disk.faults, sink.file.statsPath, sink.file.events, rfl, rfl,
        requested, rfl, rfl⟩
  | some pending =>
      obtain ⟨enabled, path⟩ := configured.pending pending requested
      have kept : sink.runFile opening (reopenIfChanged sink.cfg pending.cfg) =
          .ok () (sink.file.withFaults opening) := by
        unfold SinkWriter.runFile reopenIfChanged
        rw [if_neg (by simp [enabled, path, configured.enabled, configured.path])]
        rfl
      simp only [kept]
      exact ⟨_, opening, pending.cfg.path, _, rfl, rfl, rfl, rfl, rfl⟩

private theorem ShelfStep.of_file {base : String} {count : Nat} {file before after : SinkFile}
    {faults : List Bool} {statsPath : Option String} {events : List SinkEvent}
    (same : before = { file.withFaults faults with statsPath, events })
    (step : ShelfStep base count before after) : ShelfStep base count file after := by
  subst same
  cases step with
  | same kept => exact .same kept
  | disordered closed uncounted => exact .disordered closed uncounted
  | rotated opened counted moved =>
      exact .rotated (opened.congr rfl rfl rfl) counted moved

/-- What a turn of the drain loop did to the files. -/
structure SinkWriter.ShelfTurn (base : String) (sink : SinkWriter) (after : SinkFile) : Prop where
  step : ShelfStep base sink.nextCfg.rotationBackupCount sink.file after
  only : after.OnlyAt base
  closed : sink.file.fh = none → after.fh = none ∧ after.rotations = sink.file.rotations

private theorem SinkWriter.ShelfTurn.of_events {base : String} {sink : SinkWriter}
    {after : SinkFile} (turn : sink.ShelfTurn base after) (events : List SinkEvent) :
    sink.ShelfTurn base { after with events } := by
  obtain ⟨step, only, closed⟩ := turn
  exact ⟨step.then rfl id, only.congr rfl rfl rfl, closed⟩

private theorem SinkWriter.ShelfTurn.release {base : String} {sink next : SinkWriter}
    (turn : sink.ShelfTurn base next.file) (item : QueueItem) :
    sink.ShelfTurn base (next.release item).file := by
  obtain ⟨events, file⟩ := SinkWriter.release_file next item
  rw [file]
  exact turn.of_events events

private theorem SinkWriter.handleRecord_shelf {base : String} {sink settled : SinkWriter}
    {faults : List Bool} {statsPath : Option String} {events : List SinkEvent}
    (still : sink.ShelfTurn base settled.file) (cfg : settled.cfg = sink.nextCfg)
    (file : settled.file = { sink.file.withFaults faults with statsPath, events })
    (item : QueueItem) (now : String) (writing : List Bool) :
    sink.ShelfTurn base (settled.handleRecord item now writing).file := by
  unfold SinkWriter.handleRecord
  split
  · exact still.release item
  next proceeds =>
    simp only [Bool.or_eq_true, not_or, Option.isNone_iff_eq_none] at proceeds
    have opened := still.only (Option.isSome_iff_ne_none.mpr proceeds.2)
    obtain ⟨step, only⟩ := writeRecord_shelf (opened.withFaults writing) settled.cfg now item
    have written : sink.ShelfTurn base
        (final (settled.runFile writing (writeRecord settled.cfg now item))) := by
      refine ⟨?_, only, fun closed => absurd (still.closed closed).1 proceeds.2⟩
      have fromSettled : settled.file.withFaults writing =
          { sink.file.withFaults writing with statsPath, events } := by
        rw [file]
        rfl
      rw [← cfg]
      exact ShelfStep.of_file fromSettled step
    split
    next after ran =>
      rw [ran] at written
      exact @ShelfTurn.release base sink { settled with file := after } written item
    next error after raised =>
      rw [raised] at written
      exact @ShelfTurn.release base sink
        ({ settled with file := after }.emit (.error error after.currentPath))
        (written.of_events _) item

theorem SinkWriter.turn_shelf {base : String} {sink : SinkWriter}
    (configured : sink.Configured base) (only : sink.file.OnlyAt base) (item : QueueItem)
    (now : String) (opening writing : List Bool) :
    sink.ShelfTurn base (sink.turn item now opening writing).file := by
  obtain ⟨settled, faults, statsPath, events, applied, cfg, _, _, file⟩ :=
    SinkWriter.applyPendingConfig_same configured opening
  have still : sink.ShelfTurn base settled.file := by
    rw [file]
    exact ⟨.same rfl, only.congr rfl rfl rfl, fun closed => ⟨closed, rfl⟩⟩
  simp only [SinkWriter.turn, applied]
  split
  · exact ⟨still.step.then rfl fun _ => rfl, SinkFile.onlyAt_of_closed base rfl,
      fun closed => ⟨rfl, (still.closed closed).2⟩⟩
  · split
    · exact still
    · exact SinkWriter.handleRecord_shelf still cfg file item now writing

theorem SinkWriter.begin_shelf {base : String} {sink : SinkWriter}
    (configured : sink.Configured base) (named : base ≠ "") (opening : List Bool) :
    (sink.begin opening).file.OnlyAt base ∧
      (sink.begin opening).file.shelf base = sink.file.shelf base := by
  have target : sink.cfg.truthyPath = some base :=
    SinkConfig.truthyPath_eq_some.mpr ⟨configured.path, named⟩
  have kept := openFileIfEnabled_shelf base target (sink.file.withFaults opening)
  unfold SinkWriter.begin
  split
  next error after raised =>
      rw [show openFileIfEnabled sink.cfg (sink.file.withFaults opening) = .error error after
        from raised] at kept
      exact ⟨SinkFile.onlyAt_of_closed base rfl, kept⟩
  next value after ran =>
      have returned : openFileIfEnabled sink.cfg (sink.file.withFaults opening) = .ok value after :=
        ran
      have opens : sink.cfg.Opens (sink.file.withFaults opening).disk.faults := by
        by_contra fails
        obtain ⟨error, other, raised⟩ := openFileIfEnabled_raises fails
        cases raised.symm.trans returned
      obtain ⟨other, otherRan, opened⟩ := openFileIfEnabled_ok opens
      cases otherRan.symm.trans returned
      have openedAt := opened configured.enabled base target
      rw [returned] at kept
      dsimp only
      split
      · exact ⟨fun _ => openedAt.congr rfl rfl rfl, kept⟩
      · exact ⟨fun _ => openedAt, kept⟩

theorem SinkWriter.Configured.reopens {base : String} {sink : SinkWriter}
    (configured : sink.Configured base) (opening : List Bool) : sink.Reopens opening := by
  intro pending requested moves
  obtain ⟨enabled, path⟩ := configured.pending pending requested
  simp [enabled, path, configured.enabled, configured.path] at moves

theorem SinkWriter.configured_step {base : String} {sink next : SinkWriter}
    {action : SinkAction} (keeps : action.KeepsPath base) (configured : sink.Configured base)
    (taken : sink.step action = some next) : next.Configured base := by
  have of_same (cfg : next.cfg = sink.cfg) (pending : next.pendingConfig = sink.pendingConfig) :
      next.Configured base := by
    refine ⟨cfg ▸ configured.enabled, cfg ▸ configured.path, ?_⟩
    rw [pending]
    exact configured.pending
  cases SinkWriter.steps_of_step taken with
  | starts => exact of_same rfl rfl
  | startsNothing => exact configured
  | begins opening =>
      unfold SinkWriter.begin at of_same ⊢
      split
      · exact ⟨configured.enabled, configured.path, configured.pending⟩
      · dsimp only
        split
        · exact ⟨configured.enabled, configured.path, configured.pending⟩
        · exact ⟨configured.enabled, configured.path, configured.pending⟩
  | submits record src =>
      obtain ⟨items, queued⟩ := SinkWriter.submit_requests sink record src
      exact of_same (congrArg Requests.cfg queued) (congrArg Requests.pendingConfig queued)
  | configures cfg =>
      unfold SinkWriter.configure
      split
      · exact ⟨keeps.1, keeps.2, configured.pending⟩
      · refine ⟨configured.enabled, configured.path, ?_⟩
        intro pending requested
        cases requested
        exact keeps
  | @turns now opening writing item queue =>
      have reopens : ({ sink with queue } : SinkWriter).Reopens opening := configured.reopens opening
      have turned := SinkWriter.turn_requests reopens item now writing
      have cfg : (SinkWriter.turn { sink with queue } item now opening writing).cfg = sink.nextCfg := by
        refine (congrArg Requests.cfg turned).trans ?_
        unfold SinkWriter.nextCfg Requests.turn SinkWriter.requests
        cases sink.pendingConfig <;> rfl
      obtain ⟨enabled, path⟩ := configured.nextCfg
      refine ⟨cfg ▸ enabled, cfg ▸ path, ?_⟩
      have settled := congrArg Requests.pendingConfig turned
      intro pending requested
      cases settled.symm.trans requested
  | _ => exact keeps.elim

theorem SinkWriter.begun_step {base : String} {sink next : SinkWriter} {action : SinkAction}
    (keeps : action.KeepsPath base) (configured : sink.Configured base) (begun : sink.Begun)
    (taken : sink.step action = some next) : next.Begun := by
  cases SinkWriter.steps_of_step taken with
  | starts idle => exact absurd idle begun.1
  | begins _ created => exact absurd created begun.2
  | submits record src =>
      obtain ⟨items, queued⟩ := SinkWriter.submit_requests sink record src
      have task : (sink.submit record src).2.task = sink.task := congrArg Requests.task queued
      exact ⟨task ▸ begun.1, task ▸ begun.2⟩
  | configures cfg =>
      unfold SinkWriter.configure
      split
      · exact begun
      · exact begun
  | @turns now opening writing item queue =>
      have reopens : ({ sink with queue } : SinkWriter).Reopens opening := configured.reopens opening
      have task := congrArg Requests.task (SinkWriter.turn_requests reopens item now writing)
      unfold SinkWriter.Begun
      rw [show SinkWriter.task _ = _ from task]
      simp only [Requests.turn]
      split
      · simp
      · exact begun
  | startsNothing => exact begun
  | _ => exact keeps.elim

/-- All steps but the first of the drain loop are turns as far as the files go. -/
theorem SinkWriter.step_shelf {base : String} {sink next : SinkWriter} {action : SinkAction}
    (keeps : action.KeepsPath base) (named : base ≠ "") (configured : sink.Configured base)
    (only : sink.file.OnlyAt base) (taken : sink.step action = some next) :
    (sink.task = some .created ∧ next.file.OnlyAt base ∧
        next.file.shelf base = sink.file.shelf base) ∨
      sink.ShelfTurn base next.file ∧
        (sink.Begun ∨ next.file.shelf base = sink.file.shelf base) := by
  have still : sink.ShelfTurn base sink.file := ⟨.same rfl, only, fun closed => ⟨closed, rfl⟩⟩
  cases SinkWriter.steps_of_step taken with
  | begins opening created =>
      obtain ⟨onlyAfter, kept⟩ := SinkWriter.begin_shelf configured named opening
      exact .inl ⟨created, onlyAfter, kept⟩
  | submits record src =>
      obtain ⟨events, file⟩ : ∃ events, (sink.submit record src).2.file =
          { sink.file with events } := SinkWriter.submit_file sink record src
      rw [file]
      exact .inr ⟨still.of_events events, .inr rfl⟩
  | configures cfg =>
      unfold SinkWriter.configure
      split
      · exact .inr ⟨⟨.same rfl, only.congr rfl rfl rfl, fun closed => ⟨closed, rfl⟩⟩, .inr rfl⟩
      · exact .inr ⟨still, .inr rfl⟩
  | @turns now opening writing item queue running =>
      have turned := @SinkWriter.turn_shelf base { sink with queue }
        ⟨configured.enabled, configured.path, configured.pending⟩ only item now opening writing
      exact .inr ⟨⟨turned.step, turned.only, turned.closed⟩, .inl (by simp [SinkWriter.Begun, running])⟩
  | starts => exact .inr ⟨still, .inr rfl⟩
  | startsNothing => exact .inr ⟨still, .inr rfl⟩
  | _ => exact keeps.elim

/-! ## The archive of a run -/

/-- The writer with two histories of its rotations: the contents they moved away from the base
path, newest first, and how many backups they have left, each one more than the one before it
but no more than the count in force. -/
structure Archive where
  sink : SinkWriter
  segments : List Bytes := []
  kept : Nat := 0

namespace Archive

def step (base : String) (self : Archive) (action : SinkAction) : Option Archive :=
  (self.sink.step action).map fun next =>
    if next.file.rotations = self.sink.file.rotations then { self with sink := next }
    else
      { sink := next
        segments := (self.sink.file.disk.files base).getD [] :: self.segments
        kept := min (self.kept + 1) self.sink.nextCfg.rotationBackupCount }

/-- A rotation of the step leaves at most as many backups as the count in force, and they are
the newest segments in their order. -/
def RotatesRetaining (base : String) (self : Archive) (action : SinkAction) : Prop :=
  ∀ next, self.step base action = some next →
    next.sink.file.rotations ≠ self.sink.file.rotations →
      (∀ k, self.sink.nextCfg.rotationBackupCount < k →
        next.sink.file.disk.files (backupPath base k) = none) ∧
      ∃ kept, Shelves base next.sink.file.disk.files (next.segments.take kept)

/-- If the step rotates, the count in force is not below the number of backups there are. -/
def HasRoom (base : String) (self : Archive) (action : SinkAction) : Prop :=
  ∀ next, self.step base action = some next →
    next.sink.file.rotations ≠ self.sink.file.rotations →
      self.kept ≤ self.sink.nextCfg.rotationBackupCount

/-- The backups are the newest segments. -/
structure InOrder (base : String) (archive : Archive) : Prop where
  only : archive.sink.file.OnlyAt base
  shelved : Shelves base archive.sink.file.disk.files (archive.segments.take archive.kept)
  fits : archive.kept ≤ archive.segments.length

/-- A failed rotation has left no open file; none is opened in these runs any more. -/
structure GivenUp (archive : Archive) : Prop where
  closed : archive.sink.file.fh = none
  begun : archive.sink.Begun

structure Valid (base : String) (archive : Archive) : Prop where
  configured : archive.sink.Configured base
  order : archive.InOrder base ∨ archive.GivenUp

/-- What the slots hold before a rotation. -/
private theorem InOrder.slots {base : String} {self : Archive} (order : self.InOrder base)
    {content : Bytes} (found : self.sink.file.disk.files base = some content) :
    slots base self.sink.file.disk.files =
      fun i => (content :: self.segments.take self.kept)[i]? := by
  funext i
  cases i with
  | zero => exact found
  | succ i => exact order.shelved i

/-- Where a rotation has room, it leaves the newest segments. -/
private theorem InOrder.rotated {base : String} {self : Archive} (order : self.InOrder base)
    {after : SinkFile} {count : Nat} (opened : self.sink.file.OpenAt base)
    (moved : ∀ i, after.disk.files (backupPath base (i + 1)) =
      makeRoom count (Engine.slots base self.sink.file.disk.files) (i + 1))
    (room : self.kept ≤ count) :
    Shelves base after.disk.files
      (((self.sink.file.disk.files base).getD [] :: self.segments).take
        (min (self.kept + 1) count)) := by
  obtain ⟨content, found⟩ := Option.isSome_iff_exists.mp opened.found
  have fits : (content :: self.segments.take self.kept).length ≤ count + 1 := by
    rw [List.length_cons, List.length_take]
    omega
  intro i
  rw [moved i, order.slots found, makeRoom_getElem? fits i, found, Option.getD_some, min_comm,
    ← List.take_take, List.take_succ_cons]

/-- Without room, the oldest backup stays beyond the count. -/
private theorem InOrder.overfull {base : String} {self : Archive} (order : self.InOrder base)
    {after : SinkFile} {count : Nat}
    (moved : ∀ i, after.disk.files (backupPath base (i + 1)) =
      makeRoom count (Engine.slots base self.sink.file.disk.files) (i + 1))
    (short : count < self.kept) :
    after.disk.files (backupPath base self.kept) ≠ none := by
  obtain ⟨last, isLast⟩ : ∃ last, self.kept = last + 1 := ⟨self.kept - 1, by omega⟩
  have fits := order.fits
  rw [isLast, moved last, makeRoom_above (by omega)]
  refine ne_of_eq_of_ne (order.shelved last) ?_
  rw [isLast, List.getElem?_take_of_lt (by omega), List.getElem?_eq_getElem (by omega)]
  exact Option.some_ne_none _

private theorem shelves_of_shelf {base : String} {file after : SinkFile} {segments : List Bytes}
    (kept : after.shelf base = file.shelf base) (shelved : Shelves base file.disk.files segments) :
    Shelves base after.disk.files segments :=
  fun i => (congrFun (congrArg Prod.fst kept) i).trans (shelved i)

/-- What the histories are after a step. -/
private theorem step_cases {base : String} {self next : Archive} {action : SinkAction}
    (taken : self.step base action = some next) :
    self.sink.step action = some next.sink ∧
      (next.sink.file.rotations = self.sink.file.rotations ∧ next.segments = self.segments ∧
          next.kept = self.kept ∨
        next.sink.file.rotations ≠ self.sink.file.rotations ∧
          next.segments = (self.sink.file.disk.files base).getD [] :: self.segments ∧
          next.kept = min (self.kept + 1) self.sink.nextCfg.rotationBackupCount) := by
  obtain ⟨sink, stepped, rfl⟩ := Option.map_eq_some_iff.mp taken
  split
  next still => exact ⟨stepped, .inl ⟨still, rfl, rfl⟩⟩
  next rotated => exact ⟨stepped, .inr ⟨rotated, rfl, rfl⟩⟩

theorem valid_step {base : String} (named : base ≠ "") {self next : Archive}
    {action : SinkAction} (keeps : action.KeepsPath base) (valid : self.Valid base)
    (room : self.HasRoom base action) (taken : self.step base action = some next) :
    next.Valid base := by
  obtain ⟨configured, order⟩ := valid
  obtain ⟨stepped, histories⟩ := step_cases taken
  refine ⟨SinkWriter.configured_step keeps configured stepped, ?_⟩
  have unrotated (same : next.sink.file.rotations = self.sink.file.rotations) :
      next.segments = self.segments ∧ next.kept = self.kept :=
    (histories.resolve_right fun rotated => rotated.1 same).2
  rcases order with inOrder | givenUp
  · have stays (only : next.sink.file.OnlyAt base)
        (kept : next.sink.file.shelf base = self.sink.file.shelf base) :
        next.InOrder base ∨ next.GivenUp := by
      obtain ⟨segments, count⟩ := unrotated (congrArg Prod.snd kept)
      refine .inl ⟨only, ?_, ?_⟩
      · rw [segments, count]
        exact shelves_of_shelf kept inOrder.shelved
      · rw [segments, count]
        exact inOrder.fits
    rcases SinkWriter.step_shelf keeps named configured inOrder.only stepped with
      ⟨_, only, kept⟩ | ⟨turn, begun⟩
    · exact stays only kept
    cases turn.step with
    | same kept => exact stays turn.only kept
    | disordered closed _ =>
        rcases begun with begun | kept
        · exact .inr ⟨closed, SinkWriter.begun_step keeps configured begun stepped⟩
        · exact stays turn.only kept
    | rotated opened counted moved =>
        have rotates : next.sink.file.rotations ≠ self.sink.file.rotations := by omega
        obtain ⟨_, segments, count⟩ := histories.resolve_left fun same => rotates same.1
        refine .inl ⟨turn.only, ?_, ?_⟩
        · rw [segments, count]
          exact inOrder.rotated opened moved (room next taken rotates)
        · have fits := inOrder.fits
          rw [segments, count, List.length_cons]
          omega
  · obtain ⟨closed, begun⟩ := givenUp
    rcases SinkWriter.step_shelf keeps named configured
      (SinkFile.onlyAt_of_closed base closed) stepped with ⟨created, _⟩ | ⟨turn, _⟩
    · exact absurd created begun.2
    · exact .inr ⟨(turn.closed closed).1, SinkWriter.begun_step keeps configured begun stepped⟩

theorem retaining_iff {base : String} (named : base ≠ "") {self : Archive}
    {action : SinkAction} (keeps : action.KeepsPath base) (valid : self.Valid base) :
    self.RotatesRetaining base action ↔ self.HasRoom base action := by
  refine forall_congr' fun next => forall_congr' fun taken => forall_congr' fun rotates => ?_
  obtain ⟨configured, order⟩ := valid
  obtain ⟨stepped, histories⟩ := step_cases taken
  obtain ⟨_, segments, _⟩ := histories.resolve_left fun same => rotates same.1
  rcases order with inOrder | givenUp
  · rcases SinkWriter.step_shelf keeps named configured inOrder.only stepped with
      ⟨_, _, kept⟩ | ⟨turn, _⟩
    · exact absurd (congrArg Prod.snd kept) rotates
    cases turn.step with
    | same kept => exact absurd (congrArg Prod.snd kept) rotates
    | disordered _ uncounted => exact absurd uncounted rotates
    | rotated opened counted moved =>
        constructor
        · intro retains
          by_contra short
          exact inOrder.overfull moved (by omega) (retains.1 self.kept (by omega))
        · intro room
          have shelved := inOrder.rotated opened moved room
          refine ⟨fun k beyond => ?_, _, segments ▸ shelved⟩
          obtain ⟨i, rfl⟩ : ∃ i, k = i + 1 := ⟨k - 1, by omega⟩
          rw [shelved i]
          exact List.getElem?_eq_none ((List.length_take_le _ _).trans (by omega))
  · have closed := givenUp.closed
    rcases SinkWriter.step_shelf keeps named configured
      (SinkFile.onlyAt_of_closed base closed) stepped with ⟨created, _⟩ | ⟨turn, _⟩
    · exact absurd created givenUp.begun.2
    · exact absurd (turn.closed closed).2 rotates

end Archive

/-- A fresh writer in a directory without backups. -/
theorem Archive.init_valid {base : String} {cfg : SinkConfig} {files : String → Option Bytes}
    (enabled : cfg.enabled = true) (path : cfg.path = some base)
    (fresh : ∀ i, files (backupPath base (i + 1)) = none) :
    Archive.Valid base { sink := SinkWriter.init cfg files } where
  configured := ⟨enabled, path, fun _ requested => by cases requested⟩
  order := .inl ⟨SinkFile.onlyAt_of_closed base rfl, fresh, Nat.le_refl 0⟩

/-- Every rotation of a run retains the newest backups, at most as many as the count in force,
exactly when none finds more backups than that count. -/
theorem sink_retention_iff {base : String} (named : base ≠ "") {cfg : SinkConfig}
    {files : String → Option Bytes} (enabled : cfg.enabled = true) (path : cfg.path = some base)
    (fresh : ∀ i, files (backupPath base (i + 1)) = none) {actions : List SinkAction}
    (keeps : ∀ action ∈ actions, action.KeepsPath base) :
    Runs.Each (Archive.step base) (Archive.RotatesRetaining base)
        { sink := SinkWriter.init cfg files } actions ↔
      Runs.Each (Archive.step base) (Archive.HasRoom base)
        { sink := SinkWriter.init cfg files } actions :=
  Runs.each_iff_each (SinkAction.KeepsPath base) (Archive.Valid base)
    (fun _ _ _ keeps valid room taken => Archive.valid_step named keeps valid room taken)
    (fun _ _ keeps valid => Archive.retaining_iff named keeps valid)
    (Archive.init_valid enabled path fresh) keeps

/-- One backup is kept and no more. -/
def keepsOne : SinkConfig where
  enabled := true
  path := some "x.log"
  format := .delimited
  rotationMaxBytes := 1
  rotationBackupCount := 1
  queueHighWatermarkBytes := 16
  queueLowWatermarkBytes := 4
  queueMaxBytes := 64
  rotation_pos := Nat.one_pos

/-- Three records of one byte and their separator, so that two of them rotate. -/
def threeRecords : List SinkAction :=
  [.start, .begin [], .submit { payload := [0x61] } "a:1", .drain "t" [] [],
    .submit { payload := [0x62] } "a:1", .drain "t" [] [],
    .submit { payload := [0x63] } "a:1", .drain "t" [] []]

theorem sink_retention_keeps_one :
    Runs.Each (Archive.step "x.log") (Archive.RotatesRetaining "x.log")
        { sink := SinkWriter.init keepsOne fun _ => none } threeRecords ↔
      Runs.Each (Archive.step "x.log") (Archive.HasRoom "x.log")
        { sink := SinkWriter.init keepsOne fun _ => none } threeRecords :=
  sink_retention_iff (by decide) rfl rfl (fun _ => rfl) (by simp [threeRecords, SinkAction.KeepsPath])

/-- With two backups kept, the count is lowered to one; the next record rotates. -/
def countLowered : List SinkAction :=
  threeRecords ++
    [.configure keepsOne, .drain "t" [] [], .submit { payload := [0x64] } "a:1"]

/-- The second backup is still there, with the oldest segment. -/
theorem countLowered_not_retained : ∃ before next,
    Runs.run SinkWriter.step
      (SinkWriter.init { keepsOne with rotationBackupCount := 2 } fun _ => none) countLowered =
        some before ∧
      before.step (.drain "t" [] []) = some next ∧
      next.file.rotations = before.file.rotations + 1 ∧ next.cfg.rotationBackupCount = 1 ∧
      next.file.disk.files (backupPath "x.log" 2) = some [0x61, 0x0A] := by
  have seen : ((Runs.run SinkWriter.step
      (SinkWriter.init { keepsOne with rotationBackupCount := 2 } fun _ => none)
      countLowered).bind fun before => (before.step (.drain "t" [] [])).map fun next =>
        (decide (next.file.rotations = before.file.rotations + 1), next.cfg.rotationBackupCount,
          next.file.disk.files (backupPath "x.log" 2))) =
      some (true, 1, some [0x61, 0x0A]) := by decide +kernel
  obtain ⟨before, ran, stepped⟩ := Option.bind_eq_some_iff.mp seen
  obtain ⟨next, taken, values⟩ := Option.map_eq_some_iff.mp stepped
  simp only [Prod.mk.injEq, decide_eq_true_eq] at values
  exact ⟨before, next, ran, taken, values⟩

end TcpSim.Engine
