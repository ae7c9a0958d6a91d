import TcpSim.Engine.SinkFile
import TcpSim.Lib.Effects

/-! Facts about the file routines: what they leave alone whether or not they
raise, and what they do when no operation raises. -/

set_option autoImplicit false

namespace TcpSim.Engine

open Effects

def SinkEvent.isWatermark : SinkEvent → Bool
  | .highWatermark _ => true
  | .lowWatermark _ => true
  | _ => false

def SinkFile.watermarks (self : SinkFile) : List SinkEvent :=
  self.events.filter SinkEvent.isWatermark

/-- The fields that change only when a write is complete or the queue moves. -/
def SinkFile.ledger (self : SinkFile) : List WrittenRecord × Nat × List SinkEvent :=
  (self.written, self.recordsWritten, self.watermarks)

/-! ## Routines that touch the disk only -/

section DiskOnly

variable {γ : Type} {view : SinkFile → γ}
  (blind : ∀ (file : SinkFile) (disk : Disk), view { file with disk } = view file)

include blind

private theorem osCall_frame : Unchanged view osCall := by
  refine (Unchanged.get _).bind fun before => ?_
  refine Unchanged.bind (Unchanged.of_modify ?_) fun _ => ?_
  · exact fun file => blind file _
  · exact Unchanged.ite (Unchanged.throw _ _) (Unchanged.pure _ _)

private theorem pathExists_frame (path : String) : Unchanged view (pathExists path) :=
  (osCall_frame blind).bind fun _ => (Unchanged.get _).bind fun _ => Unchanged.pure _ _

private theorem statSize_frame (path : String) : Unchanged view (statSize path) := by
  refine (osCall_frame blind).bind fun _ => (Unchanged.get _).bind fun self => ?_
  cases self.disk.files path with
  | none => exact Unchanged.throw _ _
  | some content => exact Unchanged.pure _ _

private theorem sizeOnDisk_frame (path : String) : Unchanged view (sizeOnDisk path) :=
  (pathExists_frame blind path).bind fun _ =>
    Unchanged.ite (statSize_frame blind path) (Unchanged.pure _ _)

private theorem setFile_frame (path : String) (content : Option Bytes) :
    Unchanged view (setFile path content) := by
  apply Unchanged.of_modify
  exact fun file => blind file _

theorem unlink_frame (path : String) (missingOk : Bool) :
    Unchanged view (unlink path missingOk) :=
  (osCall_frame blind).bind fun _ => (Unchanged.get _).bind fun _ =>
    Unchanged.ite (Unchanged.throw _ _) (setFile_frame blind path none)

theorem unlinkIfExists_frame (path : String) : Unchanged view (unlinkIfExists path) :=
  (pathExists_frame blind path).bind fun _ =>
    Unchanged.ite (unlink_frame blind path false) (Unchanged.pure _ _)

theorem osReplace_frame (src dst : String) : Unchanged view (osReplace src dst) := by
  refine (osCall_frame blind).bind fun _ => (Unchanged.get _).bind fun self => ?_
  cases self.disk.files src with
  | none => exact Unchanged.throw _ _
  | some content =>
      exact (setFile_frame blind src none).bind fun _ => setFile_frame blind dst _

theorem writeBlob_frame (blob : Bytes) : Unchanged view (writeBlob blob) := by
  refine (Unchanged.get _).bind fun self => ?_
  cases self.fh with
  | none => exact Unchanged.throw _ _
  | some path =>
      exact (osCall_frame blind).bind fun _ => (Unchanged.get _).bind fun _ =>
        setFile_frame blind path _

theorem shiftBackups_frame (base : String) (n : Nat) :
    Unchanged view (shiftBackups base n) := by
  induction n with
  | zero => exact Unchanged.pure _ _
  | succ n ih =>
      refine (pathExists_frame blind _).bind fun found => ?_
      cases found with
      | false => exact ih
      | true =>
          exact (unlinkIfExists_frame blind _).bind fun _ =>
            (osReplace_frame blind _ _).bind fun _ => ih

end DiskOnly

/-! ## The ledger -/

private theorem ledger_blind (file : SinkFile) (disk : Disk) :
    { file with disk }.ledger = file.ledger := rfl

private theorem openAppend_ledger (path : String) :
    Unchanged SinkFile.ledger (openAppend path) := by
  refine (osCall_frame ledger_blind).bind fun _ => (Unchanged.get _).bind fun self => ?_
  refine (setFile_frame ledger_blind path _).bind fun _ => Unchanged.of_modify ?_
  intro self
  rfl

private theorem emitFile_ledger {event : SinkEvent} (other : event.isWatermark = false) :
    Unchanged SinkFile.ledger (emitFile event) := by
  apply Unchanged.of_modify
  intro self
  simp [SinkFile.ledger, SinkFile.watermarks, other]

theorem openFileIfEnabled_ledger (cfg : SinkConfig) :
    Unchanged SinkFile.ledger (openFileIfEnabled cfg) := by
  apply Unchanged.ite (Unchanged.pure _ _)
  cases cfg.truthyPath with
  | none => exact Unchanged.pure _ _
  | some path =>
      refine Unchanged.bind (osCall_frame ledger_blind) fun _ =>
        (openAppend_ledger path).bind fun _ => ?_
      refine Unchanged.bind (Unchanged.of_modify ?_) fun _ => ?_
      · intro self
        rfl
      · refine (sizeOnDisk_frame ledger_blind path).bind fun _ => Unchanged.of_modify ?_
        intro self
        rfl

private theorem moveBaseAway_ledger (base : String) (count : Nat) :
    Unchanged SinkFile.ledger (moveBaseAway base count) := by
  have counted : Unchanged SinkFile.ledger
      (modify fun self => { self with rotations := self.rotations + 1 } : FileM Unit) := by
    apply Unchanged.of_modify
    intro self
    rfl
  apply Unchanged.ite
  · exact (shiftBackups_frame ledger_blind base _).bind fun _ =>
      (unlinkIfExists_frame ledger_blind _).bind fun _ =>
      (osReplace_frame ledger_blind base _).bind fun _ =>
      counted.bind fun _ => emitFile_ledger rfl
  · exact (unlink_frame ledger_blind base true).bind fun _ =>
      counted.bind fun _ => emitFile_ledger rfl

private theorem rotate_ledger (cfg : SinkConfig) :
    Unchanged SinkFile.ledger (rotate cfg) := by
  refine (Unchanged.get _).bind fun self => ?_
  split
  · refine Unchanged.bind (Unchanged.of_modify ?_) fun _ => ?_
    · intro self
      rfl
    · refine (moveBaseAway_ledger _ _).bind fun _ => (openAppend_ledger _).bind fun _ => ?_
      apply Unchanged.of_modify
      intro self
      rfl
  · exact Unchanged.pure _ _

private theorem rotateIfDue_ledger (cfg : SinkConfig) (blob : Bytes) :
    Unchanged SinkFile.ledger (rotateIfDue cfg blob) :=
  (Unchanged.get _).bind fun _ => Unchanged.ite (rotate_ledger cfg) (Unchanged.pure _ _)

/-- The update at the end of `_write_record`. -/
def countRecord (cfg : SinkConfig) (now : String) (item : QueueItem)
    (self : SinkFile) : SinkFile :=
  { self with
    currentFileSize := self.currentFileSize + (encode cfg now item).length
    bytesWritten := self.bytesWritten + (encode cfg now item).length
    recordsWritten := self.recordsWritten + 1
    written := self.written ++ [⟨item, cfg, now⟩] }

theorem writeRecord_of_open {self : SinkFile} {path : String}
    (opened : self.fh = some path) (cfg : SinkConfig) (now : String) (item : QueueItem) :
    writeRecord cfg now item self =
      ((rotateIfDue cfg (encode cfg now item) >>= fun _ => writeBlob (encode cfg now item)) >>=
        fun _ => modify (countRecord cfg now item)) self := by
  rw [bind_assoc]
  unfold writeRecord
  rw [bind_of_ok (rfl : (get : FileM SinkFile) self = .ok self self), opened]
  rfl

/-- What writing a record leaves in the ledger: one more written record exactly
when it returns. -/
theorem writeRecord_ledger (cfg : SinkConfig) (now : String) (item : QueueItem)
    (self : SinkFile) :
    (∃ after, writeRecord cfg now item self = .ok () after ∧
      after.ledger =
        (self.written ++ [⟨item, cfg, now⟩], self.recordsWritten + 1, self.watermarks)) ∨
    ∃ error after, writeRecord cfg now item self = .error error after ∧
      after.ledger = self.ledger := by
  cases opened : self.fh with
  | none =>
      refine Or.inr ⟨.assertion, self, ?_, rfl⟩
      unfold writeRecord
      rw [bind_of_ok (rfl : (get : FileM SinkFile) self = .ok self self), opened]
      rfl
  | some path =>
      have kept : Unchanged SinkFile.ledger
          (rotateIfDue cfg (encode cfg now item) >>=
            fun _ => writeBlob (encode cfg now item)) :=
        (rotateIfDue_ledger cfg _).bind fun _ => writeBlob_frame ledger_blind _
      rw [writeRecord_of_open opened]
      rcases kept.then_modify (countRecord cfg now item) self with
        ⟨middle, same, ran⟩ | ⟨error, after, same, ran⟩
      · refine Or.inl ⟨_, ran, ?_⟩
        simp only [SinkFile.ledger, Prod.mk.injEq] at same
        obtain ⟨written, counted, watermarks⟩ := same
        simp only [SinkFile.ledger, countRecord, SinkFile.watermarks, written, counted,
          Prod.mk.injEq, true_and]
        exact watermarks
      · exact Or.inr ⟨error, after, ran, same⟩

theorem writeRecord_written {cfg : SinkConfig} {now : String} {item : QueueItem}
    {self after : SinkFile} (ran : writeRecord cfg now item self = .ok () after) :
    after.written = self.written ++ [⟨item, cfg, now⟩] := by
  rcases writeRecord_ledger cfg now item self with ⟨other, otherRan, ledger⟩ | ⟨_, _, raised, _⟩
  · rw [ran] at otherRan
    cases otherRan
    exact congrArg Prod.fst ledger
  · rw [ran] at raised
    cases raised

private theorem sizeOnDisk_handle (path : String) : Unchanged SinkFile.fh (sizeOnDisk path) :=
  sizeOnDisk_frame (fun _ _ => rfl) path

theorem openFileIfEnabled_opens {cfg : SinkConfig} (enabled : cfg.enabled = true)
    {file after : SinkFile} (ran : openFileIfEnabled cfg file = .ok () after) :
    after.fh = cfg.truthyPath.or file.fh := by
  simp only [openFileIfEnabled, enabled, Bool.not_true, Bool.false_eq_true, if_false] at ran
  cases target : cfg.truthyPath with
  | none =>
      rw [target] at ran
      cases ran
      rfl
  | some path =>
      rw [target] at ran
      obtain ⟨_, created, _, ran⟩ := bind_eq_ok ran
      obtain ⟨_, opened, openRan, ran⟩ := bind_eq_ok ran
      obtain ⟨_, located, locateRan, ran⟩ := bind_eq_ok ran
      obtain ⟨size, sized, sizeRan, ran⟩ := bind_eq_ok ran
      obtain ⟨_, called, _, openRan⟩ := bind_eq_ok openRan
      obtain ⟨_, _, _, openRan⟩ := bind_eq_ok openRan
      obtain ⟨_, _, _, openRan⟩ := bind_eq_ok openRan
      have handle := (sizeOnDisk_handle path).of_ok sizeRan
      cases ran
      cases locateRan
      cases openRan
      exact handle

/-! ## Without faults -/

def SinkFile.withFiles (self : SinkFile) (files : String → Option Bytes) : SinkFile :=
  { self with disk := { self.disk with files } }

section Quiet

variable {self : SinkFile} (quiet : self.disk.faults = [])

include quiet

theorem osCall_quiet : osCall self = .ok () self := by
  obtain ⟨⟨files, faults⟩, _⟩ := self
  obtain rfl : faults = [] := quiet
  rfl

theorem pathExists_quiet (path : String) :
    pathExists path self = .ok (self.disk.files path).isSome self :=
  bind_of_ok (osCall_quiet quiet)

theorem unlink_quiet {path : String} {missingOk : Bool}
    (allowed : (self.disk.files path).isSome || missingOk) :
    unlink path missingOk self =
      .ok () (self.withFiles (Function.update self.disk.files path none)) := by
  unfold unlink
  rw [bind_of_ok (osCall_quiet quiet),
    bind_of_ok (rfl : (get : FileM SinkFile) self = .ok self self), if_neg]
  · rfl
  · cases found : self.disk.files path with
    | none => simpa [found] using allowed
    | some content => simp

theorem unlinkIfExists_quiet (path : String) :
    unlinkIfExists path self =
      .ok () (self.withFiles (Function.update self.disk.files path none)) := by
  unfold unlinkIfExists
  rw [bind_of_ok (pathExists_quiet quiet path)]
  cases found : self.disk.files path with
  | none =>
      have same : Function.update self.disk.files path none = self.disk.files := by
        rw [← found, Function.update_eq_self]
      rw [same]
      rfl
  | some content => exact unlink_quiet quiet (by simp [found])

theorem sizeOnDisk_quiet (path : String) :
    sizeOnDisk path self = .ok ((self.disk.files path).getD []).length self := by
  unfold sizeOnDisk
  rw [bind_of_ok (pathExists_quiet quiet path)]
  cases found : self.disk.files path with
  | none => rfl
  | some content =>
      simp only [Option.isSome_some, if_true, statSize]
      rw [bind_of_ok (osCall_quiet quiet),
        bind_of_ok (rfl : (get : FileM SinkFile) self = .ok self self), found]
      rfl

theorem osReplace_quiet {src : String} {content : Bytes} (dst : String)
    (found : self.disk.files src = some content) :
    osReplace src dst self =
      .ok () (self.withFiles
        (Function.update (Function.update self.disk.files src none) dst (some content))) := by
  unfold osReplace
  rw [bind_of_ok (osCall_quiet quiet),
    bind_of_ok (rfl : (get : FileM SinkFile) self = .ok self self), found]
  rfl

theorem openAppend_quiet (path : String) :
    openAppend path self =
      .ok () { self.withFiles (Function.update self.disk.files path
        (some ((self.disk.files path).getD []))) with fh := some path } := by
  unfold openAppend
  rw [bind_of_ok (osCall_quiet quiet)]
  rfl

theorem writeBlob_quiet {path : String} (opened : self.fh = some path) (blob : Bytes) :
    writeBlob blob self =
      .ok () (self.withFiles (Function.update self.disk.files path
        (some ((self.disk.files path).getD [] ++ blob)))) := by
  unfold writeBlob
  rw [bind_of_ok (rfl : (get : FileM SinkFile) self = .ok self self), opened]
  simp only
  rw [bind_of_ok (osCall_quiet quiet)]
  rfl

theorem openFileIfEnabled_quiet {cfg : SinkConfig} {path : String}
    (enabled : cfg.enabled = true) (target : cfg.truthyPath = some path) :
    openFileIfEnabled cfg self =
      .ok () { self.withFiles (Function.update self.disk.files path
          (some ((self.disk.files path).getD []))) with
        fh := some path
        currentPath := some path
        statsPath := some path
        currentFileSize := ((self.disk.files path).getD []).length } := by
  simp only [openFileIfEnabled, enabled, target, Bool.not_true, Bool.false_eq_true, if_false]
  refine (bind_of_ok (osCall_quiet quiet)).trans ?_
  refine (bind_of_ok (openAppend_quiet quiet path)).trans ?_
  refine (bind_of_ok (sizeOnDisk_quiet ?_ path)).trans ?_
  · exact quiet
  · simp only [SinkFile.withFiles, Function.update_self, Option.getD_some]
    rfl

end Quiet

theorem openFileIfEnabled_of_disabled {cfg : SinkConfig} (disabled : cfg.enabled = false)
    (self : SinkFile) : openFileIfEnabled cfg self = .ok () self := by
  simp only [openFileIfEnabled, disabled, Bool.not_false, if_true]
  rfl

theorem openFileIfEnabled_of_no_path {cfg : SinkConfig} (noPath : cfg.truthyPath = none)
    (self : SinkFile) : openFileIfEnabled cfg self = .ok () self := by
  simp only [openFileIfEnabled, noPath]
  split <;> rfl

theorem openFileIfEnabled_returns {self : SinkFile} (quiet : self.disk.faults = [])
    (cfg : SinkConfig) : ∃ after, openFileIfEnabled cfg self = .ok () after := by
  cases enabled : cfg.enabled with
  | false => exact ⟨self, openFileIfEnabled_of_disabled enabled self⟩
  | true =>
      cases target : cfg.truthyPath with
      | none => exact ⟨self, openFileIfEnabled_of_no_path target self⟩
      | some path => exact ⟨_, openFileIfEnabled_quiet quiet enabled target⟩

end TcpSim.Engine
