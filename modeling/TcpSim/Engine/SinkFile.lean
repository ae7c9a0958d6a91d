import TcpSim.Engine.SinkConfig

/-! The file-handling half of the sink writer: opening, closing, rotating and
appending, over a disk whose operations may raise. -/

set_option autoImplicit false

namespace TcpSim.Engine

inductive FileError where
  /-- Any `OSError` of the operating system. -/
  | osError
  | fileNotFound
  | assertion
  deriving DecidableEq, Repr

/-- Files by path. `faults` tells of the coming operations, one by one, whether
each raises; the operations after its end succeed. -/
structure Disk where
  files : String → Option Bytes
  faults : List Bool := []

inductive SinkEvent where
  | started (path : Option String) (format : SinkFormat)
  | stopped
  | rotated (path : String) (backupPath : Option String)
  | reconfigured (path : Option String) (format : SinkFormat) (enabled : Bool)
  | highWatermark (queuedBytes : Int)
  | lowWatermark (queuedBytes : Int)
  | recordDropped (reason : String) (src : String) (bytesLen : Nat)
  | error (error : FileError) (path : Option String)
  deriving DecidableEq, Repr

/-- A record that reached the file, with the configuration and the clock reading
it was encoded under. -/
structure WrittenRecord where
  item : QueueItem
  cfg : SinkConfig
  now : String

def WrittenRecord.blob (written : WrittenRecord) : Bytes :=
  encode written.cfg written.now written.item

/-- The writer's fields that file handling reads and writes, its statistics and
event log included. `written` is history: the successful writes, oldest first. -/
structure SinkFile where
  disk : Disk
  fh : Option String := none
  currentPath : Option String := none
  statsPath : Option String := none
  currentFileSize : Nat := 0
  recordsWritten : Nat := 0
  bytesWritten : Nat := 0
  rotations : Nat := 0
  events : List SinkEvent := []
  written : List WrittenRecord := []

abbrev FileM := EStateM FileError SinkFile

/-! ## Operating-system calls -/

/-- Take the next fault off the disk; raise if it says so. -/
def osCall : FileM Unit := do
  let before ← get
  modify fun self =>
    { self with disk := { self.disk with faults := self.disk.faults.tail } }
  if before.disk.faults.headD false then throw .osError

def mkdirParents (_path : String) : FileM Unit := osCall

def pathExists (path : String) : FileM Bool := do
  osCall
  return ((← get).disk.files path).isSome

def statSize (path : String) : FileM Nat := do
  osCall
  match (← get).disk.files path with
  | some content => return content.length
  | none => throw .fileNotFound

def setFile (path : String) (content : Option Bytes) : FileM Unit :=
  modify fun self =>
    { self with disk := { self.disk with
        files := Function.update self.disk.files path content } }

def unlink (path : String) (missingOk : Bool) : FileM Unit := do
  osCall
  if ((← get).disk.files path).isNone && !missingOk then throw .fileNotFound
  else setFile path none

/-- `if path.exists(): path.unlink()`. -/
def unlinkIfExists (path : String) : FileM Unit := do
  if ← pathExists path then unlink path false

/-- `path.stat().st_size if path.exists() else 0`. -/
def sizeOnDisk (path : String) : FileM Nat := do
  if ← pathExists path then statSize path else return 0

/-- `os.replace`. -/
def osReplace (src dst : String) : FileM Unit := do
  osCall
  match (← get).disk.files src with
  | none => throw .fileNotFound
  | some content =>
      setFile src none
      setFile dst (some content)

/-- `self._fh = open(path, "ab", buffering=0)`: an absent file is created. -/
def openAppend (path : String) : FileM Unit := do
  osCall
  setFile path (some (((← get).disk.files path).getD []))
  modify fun self => { self with fh := some path }

/-- `self._fh.write(blob)` at the end of the open file. -/
def writeBlob (blob : Bytes) : FileM Unit := do
  match (← get).fh with
  | none => throw .assertion
  | some path =>
      osCall
      setFile path (some (((← get).disk.files path).getD [] ++ blob))

/-! ## File handling -/

/-- `base.with_suffix(base.suffix + f".{i}")`. -/
def backupPath (base : String) (i : Nat) : String := base ++ "." ++ toString i

def emitFile (event : SinkEvent) : FileM Unit :=
  modify fun self => { self with events := self.events ++ [event] }

def openFileIfEnabled (cfg : SinkConfig) : FileM Unit := do
  if !cfg.enabled then return
  match cfg.truthyPath with
  | none => return
  | some path =>
      mkdirParents path
      openAppend path
      modify fun self => { self with currentPath := some path, statsPath := some path }
      let size ← sizeOnDisk path
      modify fun self => { self with currentFileSize := size }

/-- `_close_file`; an error of `close` is ignored. -/
def closeFile (self : SinkFile) : SinkFile := { self with fh := none }

/-- The shift loop of `_rotate`, for `i` from `n` down to 1: `.i` becomes `.i+1`. -/
def shiftBackups (base : String) : Nat → FileM Unit
  | 0 => return
  | n + 1 => do
      if ← pathExists (backupPath base (n + 1)) then
        unlinkIfExists (backupPath base (n + 2))
        osReplace (backupPath base (n + 1)) (backupPath base (n + 2))
      shiftBackups base n

/-- The branch of `_rotate` that keeps `count` backups, `count` positive. -/
def rotateBackups (base : String) (count : Nat) : FileM Unit := do
  shiftBackups base (count - 1)
  let rotated := backupPath base 1
  unlinkIfExists rotated
  osReplace base rotated
  modify fun self => { self with rotations := self.rotations + 1 }
  emitFile (.rotated base (some rotated))

/-- The branch of `_rotate` without backups: truncate in place. -/
def truncateInPlace (base : String) : FileM Unit := do
  unlink base true
  modify fun self => { self with rotations := self.rotations + 1 }
  emitFile (.rotated base none)

def moveBaseAway (base : String) (count : Nat) : FileM Unit :=
  if count > 0 then rotateBackups base count else truncateInPlace base

/-- `_rotate` under the backup count of `cfg`. -/
def rotate (cfg : SinkConfig) : FileM Unit := do
  let self ← get
  match self.currentPath, self.fh with
  | some base, some _ =>
      modify closeFile
      moveBaseAway base cfg.rotationBackupCount
      openAppend base
      modify fun self => { self with currentFileSize := 0 }
  | _, _ => return

/-- `_rotate` where it is due: the write would exceed the cap. -/
def rotateIfDue (cfg : SinkConfig) (blob : Bytes) : FileM Unit := do
  let self ← get
  if self.currentFileSize > 0 ∧ self.currentFileSize + blob.length > cfg.rotationMaxBytes then
    rotate cfg

/-- `_write_record`. The history entry stands for the completed write. -/
def writeRecord (cfg : SinkConfig) (now : String) (item : QueueItem) : FileM Unit := do
  match (← get).fh with
  | none => throw .assertion
  | some _ =>
      rotateIfDue cfg (encode cfg now item)
      writeBlob (encode cfg now item)
      modify fun self => { self with
        currentFileSize := self.currentFileSize + (encode cfg now item).length
        bytesWritten := self.bytesWritten + (encode cfg now item).length
        recordsWritten := self.recordsWritten + 1
        written := self.written ++ [{ item, cfg, now }] }

end TcpSim.Engine
