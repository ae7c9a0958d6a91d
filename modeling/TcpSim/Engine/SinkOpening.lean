import TcpSim.Engine.SinkBooks
import TcpSim.Engine.SinkRotation

/-! When opening the sink's file raises: one of the four calls of `_open_file_if_enabled`
does. What is left of the faults then, and what the reopening in `_apply_pending_config`
makes of it. -/

set_option autoImplicit false

namespace TcpSim.Engine

open Effects

/-! ## `_open_file_if_enabled` -/

/-- Neither `mkdir` nor `open`, `exists` or `stat` raises, if they are called at all. -/
def SinkConfig.Opens (cfg : SinkConfig) (opening : List Bool) : Prop :=
  cfg.enabled = true → cfg.truthyPath.isSome = true → true ∉ opening.take 4

instance (cfg : SinkConfig) (opening : List Bool) : Decidable (cfg.Opens opening) :=
  inferInstanceAs (Decidable (_ → _ → _))

theorem SinkConfig.opens_of_quiet (cfg : SinkConfig) {opening : List Bool}
    (quiet : true ∉ opening) : cfg.Opens opening :=
  fun _ _ raises => quiet (List.mem_of_mem_take raises)

theorem not_mem_take_succ {faults : List Bool} {n : Nat} :
    true ∉ faults.take (n + 1) ↔ faults.headD false = false ∧ true ∉ faults.tail.take n := by
  cases faults with
  | nil => simp
  | cons first rest => cases first <;> simp

def SinkFile.withFaults (self : SinkFile) (faults : List Bool) : SinkFile :=
  { self with disk := { self.disk with faults } }

section Calls

variable {self : SinkFile}

theorem osCall_returns (succeeds : self.disk.faults.headD false = false) :
    osCall self = .ok () (self.withFaults self.disk.faults.tail) := by
  unfold osCall
  simp only [run_get_bind, run_modify_bind, succeeds]
  rfl

theorem osCall_raises (fails : self.disk.faults.headD false = true) :
    osCall self = .error .osError (self.withFaults self.disk.faults.tail) := by
  unfold osCall
  simp only [run_get_bind, run_modify_bind, fails]
  rfl

theorem openAppend_returns (path : String) (succeeds : self.disk.faults.headD false = false) :
    ∃ after, openAppend path self = .ok () after ∧ after.fh = some path ∧
      after.currentPath = self.currentPath ∧ (after.disk.files path).isSome = true ∧
      after.disk.faults = self.disk.faults.tail := by
  refine ⟨_, bind_of_ok (osCall_returns succeeds), rfl, rfl, ?_, rfl⟩
  simp [SinkFile.withFaults]

theorem openAppend_raises (path : String) (fails : self.disk.faults.headD false = true) :
    ∃ error after, openAppend path self = .error error after :=
  ⟨_, _, bind_of_error (osCall_raises fails)⟩

theorem pathExists_returns (path : String) (succeeds : self.disk.faults.headD false = false) :
    pathExists path self =
      .ok (self.disk.files path).isSome (self.withFaults self.disk.faults.tail) :=
  bind_of_ok (osCall_returns succeeds)

theorem statSize_returns {path : String} (found : (self.disk.files path).isSome = true)
    (succeeds : self.disk.faults.headD false = false) :
    ∃ size, statSize path self = .ok size (self.withFaults self.disk.faults.tail) := by
  obtain ⟨content, found⟩ := Option.isSome_iff_exists.mp found
  refine ⟨content.length, (bind_of_ok (osCall_returns succeeds)).trans ?_⟩
  simp only [SinkFile.withFaults, run_get_bind, found, run_pure]

/-- `stat` is called as the file exists. -/
theorem sizeOnDisk_returns {path : String} (found : (self.disk.files path).isSome = true)
    (succeeds : true ∉ self.disk.faults.take 2) :
    ∃ size, sizeOnDisk path self =
      .ok size (self.withFaults self.disk.faults.tail.tail) := by
  obtain ⟨first, later⟩ := not_mem_take_succ.mp succeeds
  obtain ⟨second, _⟩ := not_mem_take_succ.mp later
  obtain ⟨size, sized⟩ := @statSize_returns (self.withFaults self.disk.faults.tail) path found second
  refine ⟨size, (bind_of_ok (pathExists_returns path first)).trans ?_⟩
  rw [found, if_pos rfl]
  exact sized

theorem sizeOnDisk_raises {path : String} (found : (self.disk.files path).isSome = true)
    (fails : true ∈ self.disk.faults.take 2) :
    ∃ error after, sizeOnDisk path self = .error error after := by
  by_cases first : self.disk.faults.headD false = true
  · exact ⟨_, _, bind_of_error (bind_of_error (osCall_raises first))⟩
  rw [Bool.not_eq_true] at first
  by_cases second : self.disk.faults.tail.headD false = true
  · have raises : ∃ error after,
        statSize path (self.withFaults self.disk.faults.tail) = .error error after :=
      ⟨_, _, bind_of_error (osCall_raises second)⟩
    obtain ⟨error, after, statRan⟩ := raises
    refine ⟨error, after, (bind_of_ok (pathExists_returns path first)).trans ?_⟩
    rw [found, if_pos rfl]
    exact statRan
  · rw [Bool.not_eq_true] at second
    exact absurd fails (not_mem_take_succ.mpr ⟨first, not_mem_take_succ.mpr ⟨second, by simp⟩⟩)

end Calls

theorem openFileIfEnabled_eq {cfg : SinkConfig} {path : String} (enabled : cfg.enabled = true)
    (target : cfg.truthyPath = some path) :
    openFileIfEnabled cfg = (do
      mkdirParents path
      openAppend path
      modify fun self => { self with currentPath := some path, statsPath := some path }
      let size ← sizeOnDisk path
      modify fun self => { self with currentFileSize := size }) := by
  simp only [openFileIfEnabled, enabled, target, Bool.not_true, Bool.false_eq_true, if_false]

theorem openFileIfEnabled_at {self : SinkFile} {cfg : SinkConfig} {path : String}
    (enabled : cfg.enabled = true) (target : cfg.truthyPath = some path)
    (opens : cfg.Opens self.disk.faults) :
    ∃ after, openFileIfEnabled cfg self = .ok () after ∧ after.OpenAt path := by
  have quiet := opens enabled (by rw [target]; rfl)
  obtain ⟨first, later⟩ := not_mem_take_succ.mp quiet
  obtain ⟨second, sized⟩ := not_mem_take_succ.mp later
  rw [openFileIfEnabled_eq enabled target]
  obtain ⟨opened, openRan, handle, _, found, faults⟩ :=
    @openAppend_returns (self.withFaults self.disk.faults.tail) path second
  let located : SinkFile := { opened with currentPath := some path, statsPath := some path }
  have quietSize : true ∉ located.disk.faults.take 2 := by
    rw [show located.disk.faults = _ from faults]
    exact sized
  obtain ⟨size, sizeRan⟩ := @sizeOnDisk_returns located path found quietSize
  refine ⟨{ located.withFaults located.disk.faults.tail.tail with currentFileSize := size }, ?_,
    ⟨handle, rfl, found⟩⟩
  refine (bind_of_ok (osCall_returns first)).trans ((bind_of_ok openRan).trans ?_)
  rw [run_modify_bind]
  exact bind_of_ok sizeRan

theorem openFileIfEnabled_raises {self : SinkFile} {cfg : SinkConfig}
    (fails : ¬cfg.Opens self.disk.faults) :
    ∃ error after, openFileIfEnabled cfg self = .error error after := by
  simp only [SinkConfig.Opens, Classical.not_imp, not_not] at fails
  obtain ⟨enabled, named, raises⟩ := fails
  obtain ⟨path, target⟩ := Option.isSome_iff_exists.mp named
  rw [openFileIfEnabled_eq enabled target]
  by_cases first : self.disk.faults.headD false = true
  · exact ⟨_, _, bind_of_error (osCall_raises first)⟩
  rw [Bool.not_eq_true] at first
  by_cases second : self.disk.faults.tail.headD false = true
  · obtain ⟨error, after, openRan⟩ :=
      @openAppend_raises (self.withFaults self.disk.faults.tail) path second
    exact ⟨error, after, (bind_of_ok (osCall_returns first)).trans (bind_of_error openRan)⟩
  rw [Bool.not_eq_true] at second
  obtain ⟨opened, openRan, _, _, found, faults⟩ :=
    @openAppend_returns (self.withFaults self.disk.faults.tail) path second
  let located : SinkFile := { opened with currentPath := some path, statsPath := some path }
  have failsSize : true ∈ located.disk.faults.take 2 := by
    rw [show located.disk.faults = _ from faults]
    by_contra quiet
    exact not_mem_take_succ.mpr ⟨first, not_mem_take_succ.mpr ⟨second, quiet⟩⟩ raises
  obtain ⟨error, after, sizeRan⟩ := @sizeOnDisk_raises located path found failsSize
  refine ⟨error, after, (bind_of_ok (osCall_returns first)).trans ((bind_of_ok openRan).trans ?_)⟩
  rw [run_modify_bind]
  exact bind_of_error sizeRan

theorem openFileIfEnabled_ok {self : SinkFile} {cfg : SinkConfig}
    (opens : cfg.Opens self.disk.faults) :
    ∃ after, openFileIfEnabled cfg self = .ok () after ∧
      (cfg.enabled = true → ∀ path, cfg.truthyPath = some path → after.OpenAt path) := by
  cases enabled : cfg.enabled with
  | false => exact ⟨self, openFileIfEnabled_of_disabled enabled self, fun is => by cases is⟩
  | true =>
      cases target : cfg.truthyPath with
      | none => exact ⟨self, openFileIfEnabled_of_no_path target self, fun _ _ is => by cases is⟩
      | some path =>
          obtain ⟨after, ran, opened⟩ := openFileIfEnabled_at enabled target opens
          refine ⟨after, ran, ?_⟩
          intro _ other same
          cases same
          exact opened

/-! ## `_apply_pending_config` -/

/-- The requested configuration, if there is one, does not raise in the reopening. -/
def SinkWriter.Reopens (sink : SinkWriter) (opening : List Bool) : Prop :=
  ∀ pending ∈ sink.pendingConfig,
    pending.cfg.path ≠ sink.cfg.path ∨ pending.cfg.enabled ≠ sink.cfg.enabled →
      pending.cfg.Opens opening

instance (sink : SinkWriter) (opening : List Bool) : Decidable (sink.Reopens opening) :=
  inferInstanceAs (Decidable (∀ pending ∈ sink.pendingConfig, _ → _))

theorem SinkWriter.reopens_of_quiet (sink : SinkWriter) {opening : List Bool}
    (quiet : true ∉ opening) : sink.Reopens opening :=
  fun pending _ _ => pending.cfg.opens_of_quiet quiet

/-- The file of the configuration in force is open. -/
def SinkWriter.FileOpen (sink : SinkWriter) : Prop :=
  sink.cfg.enabled = true → ∀ path, sink.cfg.truthyPath = some path → sink.file.OpenAt path

theorem SinkConfig.truthyPath_congr {old new : SinkConfig} (same : new.path = old.path) :
    new.truthyPath = old.truthyPath := by
  unfold SinkConfig.truthyPath
  rw [same]

theorem SinkWriter.applyPendingConfig_ok {sink : SinkWriter} {opening : List Bool}
    (reopens : sink.Reopens opening) :
    ∃ settled, sink.applyPendingConfig opening = .ok () settled ∧
      (sink.FileOpen → settled.FileOpen) ∧ settled.pendingConfig = none ∧
      settled.nextEvent = sink.nextEvent ∧
      settled.doneEvents = sink.doneEvents ++ (sink.pendingConfig.map (·.done)).toList ∧
      settled.queue = sink.queue := by
  unfold SinkWriter.applyPendingConfig
  cases requested : sink.pendingConfig with
  | none => exact ⟨sink, rfl, id, requested, rfl, by simp, rfl⟩
  | some pending =>
      by_cases moves : pending.cfg.path ≠ sink.cfg.path ∨ pending.cfg.enabled ≠ sink.cfg.enabled
      · have opens : pending.cfg.Opens opening := reopens pending requested moves
        obtain ⟨after, ran, opened⟩ :=
          @openFileIfEnabled_ok (closeFile (sink.file.withFaults opening)) pending.cfg opens
        have reopened : sink.runFile opening (reopenIfChanged sink.cfg pending.cfg) =
            .ok () after := by
          unfold SinkWriter.runFile reopenIfChanged
          rw [if_pos moves, run_modify_bind]
          exact ran
        simp only [reopened]
        refine ⟨_, rfl, ?_, rfl, rfl, rfl, rfl⟩
        intro _ enabled path target
        exact (opened enabled path target).congr rfl rfl rfl
      · have kept : sink.runFile opening (reopenIfChanged sink.cfg pending.cfg) =
            .ok () (sink.file.withFaults opening) := by
          unfold SinkWriter.runFile reopenIfChanged
          rw [if_neg moves]
          rfl
        simp only [kept]
        refine ⟨_, rfl, ?_, rfl, rfl, rfl, rfl⟩
        rw [not_or, not_not, not_not] at moves
        intro fileOpen enabled path target
        have opened := fileOpen (moves.2 ▸ enabled) path
          ((SinkConfig.truthyPath_congr moves.1).symm.trans target)
        exact opened.congr rfl rfl rfl

theorem SinkWriter.applyPendingConfig_raises {sink : SinkWriter} {opening : List Bool}
    (fails : ¬sink.Reopens opening) :
    ∃ error settled, sink.applyPendingConfig opening = .error error settled := by
  simp only [SinkWriter.Reopens, not_forall] at fails
  obtain ⟨pending, requested, moves, fails⟩ := fails
  obtain ⟨error, after, ran⟩ :=
    @openFileIfEnabled_raises (closeFile (sink.file.withFaults opening)) pending.cfg fails
  have raised : sink.runFile opening (reopenIfChanged sink.cfg pending.cfg) =
      .error error after := by
    unfold SinkWriter.runFile reopenIfChanged
    rw [if_pos moves, run_modify_bind]
    exact ran
  refine ⟨error, { sink with pendingConfig := none, cfg := pending.cfg, file := after }, ?_⟩
  unfold SinkWriter.applyPendingConfig
  simp only [Option.mem_def.mp requested, raised]

theorem SinkWriter.turn_fails {sink : SinkWriter} {opening : List Bool}
    (fails : ¬sink.Reopens opening) (item : QueueItem) (now : String) (writing : List Bool) :
    (sink.turn item now opening writing).task = some .failed := by
  obtain ⟨error, settled, raised⟩ := SinkWriter.applyPendingConfig_raises fails
  simp only [SinkWriter.turn, raised]

theorem SinkWriter.begin_fails {sink : SinkWriter} {opening : List Bool}
    (fails : ¬sink.cfg.Opens opening) : (sink.begin opening).task = some .failed := by
  obtain ⟨error, after, ran⟩ := @openFileIfEnabled_raises (sink.file.withFaults opening) sink.cfg fails
  have raised : sink.runFile opening (openFileIfEnabled sink.cfg) = .error error after := ran
  simp only [SinkWriter.begin, raised]

end TcpSim.Engine
