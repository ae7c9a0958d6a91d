import TcpSim.Engine.SinkFileProperties
import TcpSim.Lib.Rollover
import Std.Data.String.ToNat

/-! Rotation as a log in numbered slots: the open file is slot 0 and backup `.i`
is slot `i`. Opening, writing and rotating keep a suffix of whole files. -/

set_option autoImplicit false

namespace TcpSim.Engine

open Effects Rollover

/-- The file of a slot: the base path itself, then its backups. -/
def slotPath (base : String) : Nat → String
  | 0 => base
  | i + 1 => backupPath base (i + 1)

theorem backupPath_ne (base : String) (i : Nat) : backupPath base i ≠ base := by
  intro same
  have lengths := congrArg String.length same
  simp only [backupPath, String.length_append] at lengths
  have dot : ".".length = 1 := rfl
  omega

private theorem backupPath_injective {base : String} {i j : Nat}
    (same : backupPath base i = backupPath base j) : i = j :=
  Nat.repr_injective ((String.append_right_inj _).mp same)

theorem slotPath_injective (base : String) : Function.Injective (slotPath base) := by
  intro i j same
  cases i with
  | zero =>
      cases j with
      | zero => rfl
      | succ j => exact absurd same.symm (backupPath_ne base (j + 1))
  | succ i =>
      cases j with
      | zero => exact absurd same (backupPath_ne base (i + 1))
      | succ j => exact backupPath_injective same

/-- The content of the slots on a disk. -/
def slots (base : String) (files : String → Option Bytes) : Nat → Option Bytes :=
  files ∘ slotPath base

theorem slots_update (base : String) (files : String → Option Bytes) (i : Nat)
    (content : Option Bytes) :
    slots base (Function.update files (slotPath base i) content) =
      Function.update (slots base files) i content :=
  Function.update_comp_eq_of_injective files (slotPath_injective base) i content

/-- The files `path.count`, …, `path.1`, `path` that exist, in this order. -/
def present (base : String) (count : Nat) (files : String → Option Bytes) : List Bytes :=
  live (slots base files) (count + 1)

/-- `content(path.count) ++ … ++ content(path.1) ++ content(path)`; missing files
read as empty. -/
def concatenation (base : String) (count : Nat) (files : String → Option Bytes) : Bytes :=
  (List.range (count + 1)).reverse.flatMap fun i => (files (slotPath base i)).getD []

theorem concatenation_eq (base : String) (count : Nat) (files : String → Option Bytes) :
    concatenation base count files = (present base count files).flatten := by
  unfold concatenation present
  induction count + 1 with
  | zero => rfl
  | succ n ih =>
      rw [List.range_succ, List.reverse_append, List.reverse_singleton, List.singleton_append,
        List.flatMap_cons, ih, live_succ, List.flatten_append]
      congr 1
      cases found : files (slotPath base n) with
      | none => simp [slots, found]
      | some content => simp [slots, found]

section Quiet

variable {self : SinkFile} (quiet : self.disk.faults = [])

include quiet

private theorem moveBackup_quiet {base : String} {i : Nat} {content : Bytes}
    (found : self.disk.files (slotPath base i) = some content) :
    ∃ files, (unlinkIfExists (slotPath base (i + 1)) >>= fun _ =>
        osReplace (slotPath base i) (slotPath base (i + 1))) self =
        .ok () (self.withFiles files) ∧
      slots base files = moveUp (slots base self.disk.files) i := by
  have apart : slotPath base i ≠ slotPath base (i + 1) :=
    fun same => by simpa using slotPath_injective base same
  have foundAfter : (self.withFiles (Function.update self.disk.files
      (slotPath base (i + 1)) none)).disk.files (slotPath base i) = some content := by
    simpa [SinkFile.withFiles, Function.update_of_ne apart] using found
  refine ⟨Function.update (Function.update (Function.update self.disk.files
    (slotPath base (i + 1)) none) (slotPath base i) none) (slotPath base (i + 1))
      (some content), ?_, ?_⟩
  · exact (bind_of_ok (unlinkIfExists_quiet quiet _)).trans
      (osReplace_quiet (by exact quiet) _ foundAfter)
  · simp only [slots_update]
    have slotFound : slots base self.disk.files i = some content := found
    simp only [moveUp, slotFound, Option.isSome_some, if_true]
    rw [Function.update_comm (by omega), Function.update_idem, Function.update_comm (by omega)]

private theorem shiftBackups_quiet (base : String) (n : Nat) :
    ∃ files, shiftBackups base n self = .ok () (self.withFiles files) ∧
      slots base files = raise n (slots base self.disk.files) := by
  induction n generalizing self with
  | zero => exact ⟨self.disk.files, rfl, rfl⟩
  | succ n ih =>
      unfold shiftBackups
      rw [bind_of_ok (pathExists_quiet quiet _)]
      cases found : self.disk.files (backupPath base (n + 1)) with
      | none =>
          obtain ⟨files, ran, raised⟩ := ih quiet
          refine ⟨files, ran, ?_⟩
          rw [raised, raise, moveUp_of_none found]
      | some content =>
          obtain ⟨moved, movedRan, movedSlots⟩ := @moveBackup_quiet self quiet base (n + 1) content found
          obtain ⟨files, ran, raised⟩ := @ih (self.withFiles moved) quiet
          refine ⟨files, ?_, ?_⟩
          · simp only [Option.isSome_some, if_true]
            rw [← bind_assoc]
            exact (bind_of_ok movedRan).trans ran
          · rw [raised, raise]
            exact congrArg (raise n) movedSlots

/-- Rotating into backups is a shift of the slots, the base path's included. -/
private theorem rotateBackups_quiet {base : String} {content : Bytes}
    (found : self.disk.files base = some content) (n : Nat) :
    ∃ files events,
      rotateBackups base (n + 1) self =
        .ok () { self.withFiles files with rotations := self.rotations + 1, events } ∧
      slots base files = shift (n + 1) (slots base self.disk.files) := by
  obtain ⟨shifted, shiftedRan, shiftedSlots⟩ := shiftBackups_quiet quiet base n
  have foundAfter : shifted (slotPath base 0) = some content := by
    have zero := congrFun shiftedSlots 0
    rw [raise_zero_slot] at zero
    exact zero.trans found
  obtain ⟨files, movedRan, movedSlots⟩ :=
    @moveBackup_quiet (self.withFiles shifted) quiet base 0 content foundAfter
  unfold rotateBackups
  refine ⟨files, self.events ++ [.rotated base (some (backupPath base 1))],
    (bind_of_ok shiftedRan).trans ?_, ?_⟩
  · rw [← bind_assoc]
    exact bind_of_ok movedRan
  · rw [← moveUp_raise, ← shiftedSlots]
    exact movedSlots

/-- Before the base path is opened again, its slot is empty. -/
theorem moveBaseAway_quiet {base : String} {content : Bytes}
    (found : self.disk.files base = some content) (count : Nat) :
    ∃ files events,
      moveBaseAway base count self =
        .ok () { self.withFiles files with rotations := self.rotations + 1, events } ∧
      slots base files = makeRoom count (slots base self.disk.files) := by
  cases count with
  | zero =>
      refine ⟨_, self.events ++ [.rotated base none], bind_of_ok (unlink_quiet quiet (by simp)), ?_⟩
      exact slots_update base self.disk.files 0 none
  | succ n => exact rotateBackups_quiet quiet found n

end Quiet

/-! ## Opening, rotating and writing -/

/-- The writer appends to `base`, which exists. -/
structure SinkFile.OpenAt (file : SinkFile) (base : String) : Prop where
  handle : file.fh = some base
  current : file.currentPath = some base
  found : (file.disk.files base).isSome = true

theorem SinkFile.OpenAt.congr {file after : SinkFile} {base : String} (opened : file.OpenAt base)
    (handle : after.fh = file.fh) (current : after.currentPath = file.currentPath)
    (files : after.disk.files = file.disk.files) : after.OpenAt base where
  handle := handle.trans opened.handle
  current := current.trans opened.current
  found := files ▸ opened.found

section Quiet

variable {self : SinkFile} (quiet : self.disk.faults = [])

include quiet

theorem openFileIfEnabled_kept {cfg : SinkConfig} {base : String} {count : Nat}
    {initial blobs : List Bytes} (enabled : cfg.enabled = true)
    (target : cfg.truthyPath = some base)
    (log : Kept initial blobs (present base count self.disk.files)) :
    ∃ after, openFileIfEnabled cfg self = .ok () after ∧ after.OpenAt base ∧
      after.written = self.written ∧
      Kept initial blobs (present base count after.disk.files) := by
  refine ⟨_, openFileIfEnabled_quiet quiet enabled target, ⟨rfl, rfl, ?_⟩, rfl, ?_⟩
  · simp [SinkFile.withFiles]
  · simp only [SinkFile.withFiles]
    cases found : self.disk.files base with
    | none =>
        have filled : present base count (Function.update self.disk.files base (some [])) =
            present base count self.disk.files ++ [[]] :=
          (congrArg (live · (count + 1)) (slots_update base _ 0 _)).trans
            (live_update_zero found [] count)
        simp only [Option.getD_none, filled]
        exact log.roll
    | some content =>
        simp only [Option.getD_some]
        rw [← found, Function.update_eq_self]
        exact log

/-- After a rotation the base path is an empty file, the others are moved up. -/
theorem rotate_quiet {base : String} (opened : self.OpenAt base) (cfg : SinkConfig) :
    ∃ files events,
      rotate cfg self = .ok () { self.withFiles files with
        fh := some base
        rotations := self.rotations + 1
        events
        currentFileSize := 0 } ∧
      slots base files =
        Function.update (makeRoom cfg.rotationBackupCount (slots base self.disk.files)) 0 (some []) := by
  obtain ⟨content, found⟩ := Option.isSome_iff_exists.mp opened.found
  obtain ⟨files, events, movedRan, moved⟩ :=
    @moveBaseAway_quiet (closeFile self) quiet base content found cfg.rotationBackupCount
  have emptied : files base = none := by
    have zero := congrFun moved 0
    rwa [makeRoom_zero_slot] at zero
  refine ⟨Function.update files base (some []), events, ?_, ?_⟩
  · unfold rotate
    refine (bind_of_ok (rfl : (get : FileM SinkFile) self = .ok self self)).trans ?_
    simp only [opened.current, opened.handle]
    refine (bind_of_ok (rfl : (modify closeFile : FileM Unit) self =
      .ok () (closeFile self))).trans ?_
    refine (bind_of_ok movedRan).trans ?_
    refine (bind_of_ok (openAppend_quiet (by exact quiet) base)).trans ?_
    simp only [SinkFile.withFiles, emptied]
    rfl
  · rw [← show slots base (closeFile self).disk.files = slots base self.disk.files from rfl, ← moved]
    exact slots_update base files 0 (some [])

private theorem rotate_kept {cfg : SinkConfig} {base : String} {count : Nat}
    {initial blobs : List Bytes} (opened : self.OpenAt base)
    (backups : cfg.rotationBackupCount = count)
    (log : Kept initial blobs (present base count self.disk.files)) :
    ∃ after, rotate cfg self = .ok () after ∧ after.disk.faults = [] ∧
      after.OpenAt base ∧ Kept initial blobs (present base count after.disk.files) := by
  obtain ⟨files, events, ran, moved⟩ := rotate_quiet quiet opened cfg
  rw [backups] at moved
  have found : files base = some [] := (congrFun moved 0).trans (Function.update_self _ _ _)
  refine ⟨_, ran, quiet, ⟨rfl, opened.current, by simp [SinkFile.withFiles, found]⟩, ?_⟩
  have filled : present base count files =
      live (makeRoom count (slots base self.disk.files)) (count + 1) ++ [[]] := by
    rw [present, moved]
    exact live_update_zero (makeRoom_zero_slot _ _) [] count
  simp only [SinkFile.withFiles, filled]
  exact (log.drop (live_makeRoom_suffix count _)).roll

private theorem rotateIfDue_quiet {cfg : SinkConfig} {base : String} {count : Nat}
    {initial blobs : List Bytes} (opened : self.OpenAt base)
    (backups : cfg.rotationBackupCount = count)
    (log : Kept initial blobs (present base count self.disk.files)) (blob : Bytes) :
    ∃ after, rotateIfDue cfg blob self = .ok () after ∧ after.disk.faults = [] ∧
      after.OpenAt base ∧ Kept initial blobs (present base count after.disk.files) := by
  unfold rotateIfDue
  simp only [bind_of_ok (rfl : (get : FileM SinkFile) self = .ok self self)]
  split
  · exact rotate_kept quiet opened backups log
  · exact ⟨self, rfl, quiet, opened, log⟩

private theorem writeBlob_kept {base : String} {count : Nat} {initial blobs : List Bytes}
    (opened : self.OpenAt base)
    (log : Kept initial blobs (present base count self.disk.files)) (blob : Bytes) :
    ∃ files, writeBlob blob self = .ok () (self.withFiles files) ∧
      (files base).isSome = true ∧
      Kept initial (blobs ++ [blob]) (present base count files) := by
  obtain ⟨content, found⟩ := Option.isSome_iff_exists.mp opened.found
  refine ⟨_, writeBlob_quiet quiet opened.handle blob, by simp, ?_⟩
  obtain ⟨older, now, later⟩ :=
    @live_of_zero _ (slots base self.disk.files) content found count
  have grown : present base count (Function.update self.disk.files base
      (some ((self.disk.files base).getD [] ++ blob))) = older ++ [content ++ blob] := by
    rw [found]
    exact (congrArg (live · (count + 1)) (slots_update base _ 0 _)).trans (later _)
  rw [grown]
  rw [present, now] at log
  exact log.grow blob

theorem writeRecord_quiet {cfg : SinkConfig} {now : String} {item : QueueItem}
    {base : String} {count : Nat} {initial blobs : List Bytes}
    (opened : self.OpenAt base) (backups : cfg.rotationBackupCount = count)
    (log : Kept initial blobs (present base count self.disk.files)) :
    ∃ after, writeRecord cfg now item self = .ok () after ∧ after.disk.faults = [] ∧
      after.OpenAt base ∧
      Kept initial (blobs ++ [encode cfg now item])
        (present base count after.disk.files) := by
  obtain ⟨rotated, rotatedRan, rotatedQuiet, rotatedOpened, rotatedLog⟩ :=
    rotateIfDue_quiet quiet opened backups log (encode cfg now item)
  obtain ⟨files, writtenRan, found, writtenLog⟩ :=
    writeBlob_kept rotatedQuiet rotatedOpened rotatedLog (encode cfg now item)
  refine ⟨countRecord cfg now item (rotated.withFiles files), ?_, rotatedQuiet,
    ⟨rotatedOpened.handle, rotatedOpened.current, found⟩, writtenLog⟩
  rw [writeRecord_of_open opened.handle, bind_assoc, bind_of_ok rotatedRan,
    bind_of_ok writtenRan]
  rfl

end Quiet

end TcpSim.Engine
