import TcpSim.Engine.SinkRotation
import TcpSim.Engine.SinkOpening

/-! Rotation when a file operation may raise: it changes nothing but the disk until all
files are moved, and the files it moved are where a rotation without faults puts them. -/

set_option autoImplicit false

namespace TcpSim.Engine

open Effects Rollover

/-! ## Routines that return -/

/-- Where the routine returns, the faults played no part but to be used up. -/
def FaultBlind {α : Type} (program : FileM α) : Prop :=
  ∀ file value after, program file = .ok value after →
    program (file.withFaults []) = .ok value (after.withFaults [])

section FaultBlind

variable {α β : Type}

private theorem FaultBlind.pure (value : α) : FaultBlind (Pure.pure value) := by
  intro file result after ran
  cases ran
  rfl

private theorem FaultBlind.throw (error : FileError) :
    FaultBlind (MonadExcept.throw error : FileM α) := by
  intro file result after ran
  cases ran

private theorem FaultBlind.bind {program : FileM α} {next : α → FileM β}
    (first : FaultBlind program) (second : ∀ value, FaultBlind (next value)) :
    FaultBlind (program >>= next) := by
  intro file result after ran
  obtain ⟨value, middle, firstRan, secondRan⟩ := bind_eq_ok ran
  exact (bind_of_ok (first file value middle firstRan)).trans
    (second value middle result after secondRan)

/-- What follows a look at the state may not depend on the faults. -/
private theorem FaultBlind.get_bind {next : SinkFile → FileM α}
    (blind : ∀ file : SinkFile, next (file.withFaults []) = next file)
    (second : ∀ file, FaultBlind (next file)) : FaultBlind (MonadState.get >>= next) := by
  intro file result after ran
  rw [run_get_bind] at ran ⊢
  rw [blind]
  exact second file file result after ran

private theorem FaultBlind.modify {change : SinkFile → SinkFile}
    (blind : ∀ file : SinkFile, change (file.withFaults []) = (change file).withFaults []) :
    FaultBlind (modify change) := by
  intro file result after ran
  cases ran
  exact congrArg _ (blind file)

private theorem FaultBlind.ite {condition : Prop} [Decidable condition]
    {first second : FileM α} (whenTrue : FaultBlind first) (whenFalse : FaultBlind second) :
    FaultBlind (if condition then first else second) := by
  split
  · exact whenTrue
  · exact whenFalse

private theorem osCall_faultBlind : FaultBlind osCall := by
  intro file result after ran
  by_cases fails : file.disk.faults.headD false = true
  · cases (osCall_raises fails).symm.trans ran
  · cases (osCall_returns (eq_false_of_ne_true fails)).symm.trans ran
    rfl

private theorem setFile_faultBlind (path : String) (content : Option Bytes) :
    FaultBlind (setFile path content) :=
  FaultBlind.modify fun _ => rfl

private theorem pathExists_faultBlind (path : String) : FaultBlind (pathExists path) :=
  osCall_faultBlind.bind fun _ => FaultBlind.get_bind (fun _ => rfl) fun _ => FaultBlind.pure _

private theorem unlink_faultBlind (path : String) (missingOk : Bool) :
    FaultBlind (unlink path missingOk) :=
  osCall_faultBlind.bind fun _ => FaultBlind.get_bind (fun _ => rfl) fun _ =>
    FaultBlind.ite (FaultBlind.throw _) (setFile_faultBlind path none)

private theorem unlinkIfExists_faultBlind (path : String) : FaultBlind (unlinkIfExists path) :=
  (pathExists_faultBlind path).bind fun _ =>
    FaultBlind.ite (unlink_faultBlind path false) (FaultBlind.pure _)

private theorem osReplace_faultBlind (src dst : String) : FaultBlind (osReplace src dst) := by
  refine osCall_faultBlind.bind fun _ => FaultBlind.get_bind (fun _ => rfl) fun file => ?_
  cases file.disk.files src with
  | none => exact FaultBlind.throw _
  | some content =>
      exact (setFile_faultBlind src none).bind fun _ => setFile_faultBlind dst _

private theorem shiftBackups_faultBlind (base : String) (n : Nat) :
    FaultBlind (shiftBackups base n) := by
  induction n with
  | zero => exact FaultBlind.pure _
  | succ n ih =>
      refine (pathExists_faultBlind _).bind fun found => ?_
      cases found with
      | false => exact ih
      | true =>
          exact (unlinkIfExists_faultBlind _).bind fun _ =>
            (osReplace_faultBlind _ _).bind fun _ => ih

private theorem moveBaseAway_faultBlind (base : String) (count : Nat) :
    FaultBlind (moveBaseAway base count) := by
  apply FaultBlind.ite
  · exact (shiftBackups_faultBlind base _).bind fun _ =>
      (unlinkIfExists_faultBlind _).bind fun _ => (osReplace_faultBlind base _).bind fun _ =>
      (FaultBlind.modify fun _ => rfl).bind fun _ => FaultBlind.modify fun _ => rfl
  · exact (unlink_faultBlind base true).bind fun _ =>
      (FaultBlind.modify fun _ => rfl).bind fun _ => FaultBlind.modify fun _ => rfl

end FaultBlind

/-! ## Moving the files -/

/-- A routine that touches the disk only. -/
def DiskOnly {α : Type} (program : FileM α) : Prop :=
  ∀ file, ∃ disk, final (program file) = { file with disk }

private theorem DiskOnly.of_unchanged {α : Type} {program : FileM α}
    (kept : Unchanged (fun file : SinkFile => { file with disk := { files := fun _ => none } })
      program) : DiskOnly program := by
  intro file
  have same := kept file
  generalize final (program file) = after at same
  obtain ⟨disk, fh, currentPath, statsPath, currentFileSize, recordsWritten, bytesWritten,
    rotations, events, written⟩ := after
  cases same
  exact ⟨disk, rfl⟩

/-- The file operations of a rotation before the path is opened again. -/
private def moveFiles (base : String) (count : Nat) : FileM Unit :=
  if count > 0 then do
    shiftBackups base (count - 1)
    unlinkIfExists (backupPath base 1)
    osReplace base (backupPath base 1)
  else unlink base true

private theorem moveFiles_diskOnly (base : String) (count : Nat) :
    DiskOnly (moveFiles base count) := by
  apply DiskOnly.of_unchanged
  apply Unchanged.ite
  · exact (shiftBackups_frame (fun _ _ => rfl) base _).bind fun _ =>
      (unlinkIfExists_frame (fun _ _ => rfl) _).bind fun _ =>
        osReplace_frame (fun _ _ => rfl) base _
  · exact unlink_frame (fun _ _ => rfl) base true

private theorem moveBaseAway_eq (base : String) (count : Nat) :
    moveBaseAway base count = (do
      moveFiles base count
      modify fun self => { self with rotations := self.rotations + 1 }
      emitFile (.rotated base (if count > 0 then some (backupPath base 1) else none))) := by
  unfold moveBaseAway moveFiles
  split
  · simp only [rotateBackups, bind_assoc]
  · rfl

/-- Either nothing but the disk has changed, or the files are moved and the rotation counted. -/
theorem moveBaseAway_cases (base : String) (count : Nat) (file : SinkFile) :
    (∃ error disk, moveBaseAway base count file = .error error { file with disk }) ∨
      ∃ disk events, moveBaseAway base count file =
        .ok () { file with disk, rotations := file.rotations + 1, events } := by
  rw [moveBaseAway_eq]
  obtain ⟨disk, same⟩ := moveFiles_diskOnly base count file
  cases ran : moveFiles base count file with
  | error error after =>
      rw [ran, final_error] at same
      exact .inl ⟨error, disk, (bind_of_error ran).trans (by rw [same])⟩
  | ok value after =>
      rw [ran, final_ok] at same
      exact .inr ⟨disk, _, (bind_of_ok ran).trans (by rw [same]; rfl)⟩

/-- Moved in spite of faults, the files are where they would be without. -/
theorem moveBaseAway_slots {base : String} {count : Nat} {file after : SinkFile}
    (found : (file.disk.files base).isSome = true)
    (ran : moveBaseAway base count file = .ok () after) :
    slots base after.disk.files = makeRoom count (slots base file.disk.files) := by
  obtain ⟨content, found⟩ := Option.isSome_iff_exists.mp found
  have blind := moveBaseAway_faultBlind base count file () after ran
  obtain ⟨files, events, quietRan, moved⟩ :=
    @moveBaseAway_quiet (file.withFaults []) rfl base content found count
  have same := blind.symm.trans quietRan
  simp only [EStateM.Result.ok.injEq, true_and] at same
  have sameFiles : after.disk.files = files := congrArg (·.disk.files) same
  rw [sameFiles]
  exact moved

/-! ## Rotating -/

/-- Where a rotation under the backup count `count` can end. Only `failed` and `stranded`
come with an exception; in both no file is open any more. -/
inductive RotationOutcome (base : String) (count : Nat) (file : SinkFile) :
    EStateM.Result FileError SinkFile Unit → Prop where
  /-- An operation raised before all files were moved. -/
  | failed (error : FileError) (disk : Disk) :
      RotationOutcome base count file (.error error { file with disk, fh := none })
  /-- The files are moved, but the path could not be opened again. -/
  | stranded (error : FileError) (disk : Disk) (events : List SinkEvent)
      (moved : slots base disk.files = makeRoom count (slots base file.disk.files)) :
      RotationOutcome base count file (.error error
        { file with disk, fh := none, rotations := file.rotations + 1, events })
  | done (disk : Disk) (events : List SinkEvent)
      (moved : slots base disk.files =
        Function.update (makeRoom count (slots base file.disk.files)) 0 (some [])) :
      RotationOutcome base count file (.ok () { file with
        disk, fh := some base, rotations := file.rotations + 1, events, currentFileSize := 0 })

/-- The end of a rotation: the path is opened again. -/
private def reopen (base : String) : FileM Unit := do
  openAppend base
  modify fun self => { self with currentFileSize := 0 }

private theorem reopen_cases (base : String) (file : SinkFile) :
    (∃ error disk, disk.files = file.disk.files ∧
      reopen base file = .error error { file with disk }) ∨
    ∃ disk, disk.files = Function.update file.disk.files base
        (some ((file.disk.files base).getD [])) ∧
      reopen base file = .ok () { file with disk, fh := some base, currentFileSize := 0 } := by
  by_cases fails : file.disk.faults.headD false = true
  · refine .inl ⟨.osError, { file.disk with faults := file.disk.faults.tail }, rfl, ?_⟩
    exact bind_of_error (bind_of_error (osCall_raises fails))
  · let disk : Disk :=
      ⟨Function.update file.disk.files base (some ((file.disk.files base).getD [])),
        file.disk.faults.tail⟩
    have opened : openAppend base file = .ok () { file with disk, fh := some base } :=
      bind_of_ok (osCall_returns (eq_false_of_ne_true fails))
    exact .inr ⟨disk, rfl, bind_of_ok opened⟩

private theorem rotate_eq {file : SinkFile} {base path : String}
    (current : file.currentPath = some base) (handle : file.fh = some path) (cfg : SinkConfig) :
    rotate cfg file =
      (moveBaseAway base cfg.rotationBackupCount >>= fun _ => reopen base) (closeFile file) := by
  unfold rotate
  simp only [run_get_bind, current, handle, run_modify_bind]
  rfl

/-- Wherever a rotation raises, its file handle is closed. -/
theorem rotate_raises {file after : SinkFile} {error : FileError} {base path : String}
    (current : file.currentPath = some base) (handle : file.fh = some path) {cfg : SinkConfig}
    (raised : rotate cfg file = .error error after) : after.fh = none := by
  rw [rotate_eq current handle] at raised
  rcases moveBaseAway_cases base cfg.rotationBackupCount (closeFile file) with
    ⟨_, disk, failed⟩ | ⟨disk, events, moved⟩
  · rw [bind_of_error failed] at raised
    cases raised
    rfl
  · rw [bind_of_ok moved] at raised
    rcases reopen_cases base { closeFile file with
        disk, rotations := (closeFile file).rotations + 1, events } with
      ⟨_, last, _, stranded⟩ | ⟨last, _, reopened⟩
    · cases stranded.symm.trans raised
      rfl
    · cases reopened.symm.trans raised

theorem rotate_outcome {file : SinkFile} {base : String} (opened : file.OpenAt base)
    (cfg : SinkConfig) :
    RotationOutcome base cfg.rotationBackupCount file (rotate cfg file) := by
  rw [rotate_eq opened.current opened.handle]
  rcases moveBaseAway_cases base cfg.rotationBackupCount (closeFile file) with
    ⟨error, disk, raised⟩ | ⟨disk, events, ran⟩
  · rw [bind_of_error raised]
    exact .failed error disk
  have moved : slots base disk.files =
      makeRoom cfg.rotationBackupCount (slots base file.disk.files) :=
    moveBaseAway_slots (by exact opened.found) ran
  rw [bind_of_ok ran]
  rcases reopen_cases base { closeFile file with
      disk, rotations := (closeFile file).rotations + 1, events } with
    ⟨error, after, same, raised⟩ | ⟨after, created, reopened⟩
  · rw [raised]
    exact .stranded error after events (by rw [same]; exact moved)
  · rw [reopened]
    refine .done after events ?_
    have emptied : disk.files base = none := by
      have zero := congrFun moved 0
      rwa [makeRoom_zero_slot] at zero
    simp only [emptied, Option.getD_none] at created
    rw [created, ← moved]
    exact slots_update base disk.files 0 (some [])

end TcpSim.Engine
