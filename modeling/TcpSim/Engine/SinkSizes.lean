import TcpSim.Engine.SinkFailures

/-! The cached size of the open file: what every routine that opens, rotates or appends
keeps of it, and the cap on the file that follows. -/

set_option autoImplicit false

namespace TcpSim.Engine

open Effects

/-- The file that is open is the current one, and the cached size is its length. -/
def SinkFile.Sized (file : SinkFile) : Prop :=
  ∀ path, file.fh = some path → file.currentPath = some path ∧
    ∃ content, file.disk.files path = some content ∧ file.currentFileSize = content.length

/-- The open file, into which `entry` was written last, is within the cap that was in force
or holds nothing else. -/
def SinkFile.Capped (file : SinkFile) (entry : WrittenRecord) : Prop :=
  ∃ path content, file.fh = some path ∧ file.disk.files path = some content ∧
    (content.length ≤ entry.cfg.rotationMaxBytes ∨ content = entry.blob)

theorem SinkFile.sized_of_closed {file : SinkFile} (closed : file.fh = none) : file.Sized := by
  intro path opened
  cases closed.symm.trans opened

/-! ## Opening -/

theorem openFileIfEnabled_sized {file : SinkFile} (quiet : file.disk.faults = [])
    (sized : file.Sized) (cfg : SinkConfig) :
    ∃ after, openFileIfEnabled cfg file = .ok () after ∧ after.Sized := by
  cases enabled : cfg.enabled with
  | false => exact ⟨file, openFileIfEnabled_of_disabled enabled file, sized⟩
  | true =>
      cases target : cfg.truthyPath with
      | none => exact ⟨file, openFileIfEnabled_of_no_path target file, sized⟩
      | some path =>
          refine ⟨_, openFileIfEnabled_quiet quiet enabled target, ?_⟩
          intro other opened
          cases opened
          exact ⟨rfl, _, Function.update_self _ _ _, rfl⟩

theorem reopenIfChanged_sized {file : SinkFile} (quiet : file.disk.faults = [])
    (sized : file.Sized) (old new : SinkConfig) :
    ∃ after, reopenIfChanged old new file = .ok () after ∧ after.Sized := by
  unfold reopenIfChanged
  split
  · obtain ⟨after, opened, afterSized⟩ :=
      @openFileIfEnabled_sized (closeFile file) quiet (SinkFile.sized_of_closed rfl) new
    exact ⟨after, (bind_of_ok rfl).trans opened, afterSized⟩
  · exact ⟨file, rfl, sized⟩

theorem SinkWriter.applyPendingConfig_sized {sink : SinkWriter} (sized : sink.file.Sized) :
    ∃ settled, sink.applyPendingConfig [] = .ok () settled ∧ settled.file.Sized := by
  unfold SinkWriter.applyPendingConfig
  cases sink.pendingConfig with
  | none => exact ⟨sink, rfl, sized⟩
  | some pending =>
      obtain ⟨after, reopened, afterSized⟩ :=
        @reopenIfChanged_sized (sink.file.withFaults []) rfl sized sink.cfg pending.cfg
      have returned : sink.runFile [] (reopenIfChanged sink.cfg pending.cfg) = .ok () after :=
        reopened
      simp only [returned]
      exact ⟨_, rfl, afterSized⟩

theorem SinkWriter.begin_sized {sink : SinkWriter} (sized : sink.file.Sized) :
    (sink.begin []).file.Sized := by
  obtain ⟨after, opened, afterSized⟩ :=
    @openFileIfEnabled_sized (sink.file.withFaults []) rfl sized sink.cfg
  have returned : sink.runFile [] (openFileIfEnabled sink.cfg) = .ok () after := opened
  simp only [SinkWriter.begin, returned]
  split
  · exact afterSized
  · exact afterSized

/-! ## Writing -/

/-- Before the write, the open file is empty or has room for the blob. -/
theorem rotateIfDue_sized {file : SinkFile} {path : String} (quiet : file.disk.faults = [])
    (sized : file.Sized) (opened : file.fh = some path) (cfg : SinkConfig) (blob : Bytes) :
    ∃ after content, rotateIfDue cfg blob file = .ok () after ∧ after.disk.faults = [] ∧
      after.Sized ∧ after.written = file.written ∧ after.fh = some path ∧
      after.disk.files path = some content ∧
      (content = [] ∨ content.length + blob.length ≤ cfg.rotationMaxBytes) := by
  obtain ⟨current, content, found, size⟩ := sized path opened
  unfold rotateIfDue
  rw [run_get_bind]
  split
  · have openAt : file.OpenAt path := ⟨opened, current, by rw [found]; rfl⟩
    obtain ⟨files, events, ran, moved⟩ := rotate_quiet quiet openAt cfg
    have emptied : files path = some [] := (congrFun moved 0).trans (Function.update_self _ _ _)
    refine ⟨_, [], ran, quiet, ?_, rfl, rfl, emptied, .inl rfl⟩
    intro other same
    cases same
    exact ⟨current, [], emptied, rfl⟩
  next fits =>
    refine ⟨file, content, rfl, quiet, sized, rfl, opened, found, ?_⟩
    rw [size] at fits
    rcases Nat.eq_zero_or_pos content.length with empty | filled
    · exact .inl (List.length_eq_zero_iff.mp empty)
    · exact .inr (by omega)

theorem writeRecord_sized {file : SinkFile} (sized : file.Sized)
    (opened : file.fh.isSome = true) (cfg : SinkConfig) (now : String) (item : QueueItem) :
    ∃ after, writeRecord cfg now item (file.withFaults []) = .ok () after ∧ after.Sized ∧
      after.written = file.written ++ [⟨item, cfg, now⟩] ∧ after.Capped ⟨item, cfg, now⟩ := by
  obtain ⟨path, opened⟩ := Option.isSome_iff_exists.mp opened
  obtain ⟨rotated, content, rotatedRan, quiet, rotatedSized, written, handle, found, fits⟩ :=
    @rotateIfDue_sized (file.withFaults []) path rfl sized opened cfg (encode cfg now item)
  obtain ⟨current, _, foundAgain, size⟩ := rotatedSized path handle
  obtain rfl := Option.some.inj (found.symm.trans foundAgain)
  have grown : Function.update rotated.disk.files path
      (some ((rotated.disk.files path).getD [] ++ encode cfg now item)) path =
        some (content ++ encode cfg now item) := by
    rw [Function.update_self, found, Option.getD_some]
  refine ⟨countRecord cfg now item (rotated.withFiles (Function.update rotated.disk.files path
    (some ((rotated.disk.files path).getD [] ++ encode cfg now item)))), ?_, ?_, ?_, path, _,
      handle, grown, ?_⟩
  · rw [writeRecord_of_open (show (file.withFaults []).fh = some path from opened), bind_assoc,
      bind_of_ok rotatedRan, bind_of_ok (writeBlob_quiet quiet handle _)]
    rfl
  · intro other same
    obtain rfl := Option.some.inj (handle.symm.trans same)
    refine ⟨current, _, grown, ?_⟩
    simp only [countRecord, SinkFile.withFiles, size, List.length_append]
  · exact congrArg (· ++ [⟨item, cfg, now⟩]) written
  · rcases fits with rfl | fits
    · exact .inr rfl
    · exact .inl (by rwa [List.length_append])

theorem SinkWriter.release_sized {sink : SinkWriter} (sized : sink.file.Sized)
    (item : QueueItem) : (sink.release item).file.Sized := by
  obtain ⟨events, file⟩ := SinkWriter.release_file sink item
  rw [file]
  exact sized

/-- What a record leaves: a cached size that is right and, if it was written, a file within
the cap. -/
structure SinkWriter.Tracks (sink next : SinkWriter) : Prop where
  sized : next.file.Sized
  capped : next.file.written = sink.file.written ∨
    ∃ entry, next.file.written = sink.file.written ++ [entry] ∧ entry.cfg = next.cfg ∧
      next.file.Capped entry

theorem SinkWriter.handleRecord_tracks {sink : SinkWriter} (sized : sink.file.Sized)
    (item : QueueItem) (now : String) : sink.Tracks (sink.handleRecord item now []) := by
  unfold SinkWriter.handleRecord
  split
  · exact ⟨SinkWriter.release_sized sized item, .inl (SinkWriter.release_written sink item)⟩
  next proceeds =>
    simp only [Bool.or_eq_true, not_or, Option.isNone_iff_eq_none] at proceeds
    obtain ⟨after, ran, afterSized, written, path, content, handle, found, fits⟩ :=
      writeRecord_sized sized (Option.isSome_iff_ne_none.mpr proceeds.2) sink.cfg now item
    have returned : sink.runFile [] (writeRecord sink.cfg now item) = .ok () after := ran
    simp only [returned]
    have kept := SinkWriter.release_written { sink with file := after } item
    obtain ⟨events, file⟩ := SinkWriter.release_file { sink with file := after } item
    refine ⟨@SinkWriter.release_sized { sink with file := after } afterSized item, .inr ?_⟩
    have cfg : ({ sink with file := after }.release item).cfg = sink.cfg :=
      SinkWriter.updateBackpressure_cfg _
    refine ⟨_, kept.trans written, cfg.symm, path, content, ?_, ?_, fits⟩
    · rw [file]
      exact handle
    · rw [file]
      exact found

theorem SinkWriter.turn_tracks {sink : SinkWriter} (sized : sink.file.Sized)
    (item : QueueItem) (now : String) : sink.Tracks (sink.turn item now [] []) := by
  obtain ⟨settled, applied, settledSized⟩ := SinkWriter.applyPendingConfig_sized sized
  have kept : sink.Settled settled :=
    SinkWriter.applyPendingConfig_settled (by rw [applied]; rfl)
  have written : settled.file.written = sink.file.written := congrArg Books.written kept.books
  simp only [SinkWriter.turn, applied]
  split
  · exact ⟨SinkFile.sized_of_closed rfl, .inl written⟩
  · split
    · exact ⟨settledSized, .inl written⟩
    · have handled := SinkWriter.handleRecord_tracks settledSized item now
      refine ⟨handled.sized, ?_⟩
      rw [← written]
      exact handled.capped

/-! ## Runs -/

/-- No file operation of the step raises. -/
def SinkAction.FilesSucceed : SinkAction → Prop
  | .begin opening => opening = []
  | .drain _ opening writing => opening = [] ∧ writing = []
  | _ => True

theorem SinkWriter.submit_sized {sink : SinkWriter} (sized : sink.file.Sized)
    (record : FramedRecord) (src : String) : (sink.submit record src).2.file.Sized := by
  obtain ⟨events, file⟩ := SinkWriter.submit_file sink record src
  rw [file]
  exact sized

theorem SinkWriter.tracks_step {sink next : SinkWriter} {action : SinkAction}
    (succeed : action.FilesSucceed) (sized : sink.file.Sized)
    (taken : sink.step action = some next) : sink.Tracks next := by
  cases SinkWriter.steps_of_step taken with
  | begins opening =>
      obtain rfl : opening = [] := succeed
      exact ⟨SinkWriter.begin_sized sized, .inl (congrArg Books.written (sink.begin_books []))⟩
  | submits record src =>
      refine ⟨SinkWriter.submit_sized sized record src, .inl ?_⟩
      have written := congrArg Books.written (sink.submit_books record src)
      exact written.trans (Books.submit_written _ _ _)
  | configures cfg =>
      unfold SinkWriter.configure
      split
      · exact ⟨sized, .inl rfl⟩
      · exact ⟨sized, .inl rfl⟩
  | @turns now opening writing item queue =>
      obtain ⟨rfl, rfl⟩ : opening = [] ∧ writing = [] := succeed
      have turned := @SinkWriter.turn_tracks { sink with queue } sized item now
      exact ⟨turned.sized, turned.capped⟩
  | returns => exact ⟨SinkFile.sized_of_closed rfl, .inl rfl⟩
  | givesUp => exact ⟨SinkFile.sized_of_closed rfl, .inl rfl⟩
  | _ => exact ⟨sized, .inl rfl⟩

/-- While the file operations succeed, the cached size is always the length of the open file,
and each record leaves that file within the cap in force or alone in it. -/
theorem sink_sizes (cfg : SinkConfig) (files : String → Option Bytes)
    {actions : List SinkAction} {sink : SinkWriter}
    (succeed : ∀ action ∈ actions, action.FilesSucceed)
    (ran : Runs.run SinkWriter.step (SinkWriter.init cfg files) actions = some sink) :
    sink.file.Sized ∧
      ∀ action next, action.FilesSucceed → sink.step action = some next →
        next.file.written = sink.file.written ∨
          ∃ entry, next.file.written = sink.file.written ++ [entry] ∧ entry.cfg = next.cfg ∧
            next.file.Capped entry := by
  have sized := Runs.run_invariant_of SinkAction.FilesSucceed (fun sink => sink.file.Sized)
    (fun sink action next succeeds sized taken =>
      (SinkWriter.tracks_step succeeds sized taken).sized)
    (SinkFile.sized_of_closed rfl) succeed ran
  exact ⟨sized, fun action next succeeds taken =>
    (SinkWriter.tracks_step succeeds sized taken).capped⟩

/-- The cap holds four records of one byte with their separators. -/
def fourRecords : SinkConfig where
  enabled := true
  path := some "x.log"
  format := .delimited
  rotationMaxBytes := 8
  queueHighWatermarkBytes := 32
  queueLowWatermarkBytes := 8
  queueMaxBytes := 128

/-- A file of two bytes is there before the writer. -/
def onTwoBytes : SinkWriter :=
  SinkWriter.init fourRecords (Function.update (fun _ => none) "x.log" (some [0x30, 0x31]))

/-- It is appended to, then the cap is lowered below its length. -/
def capLowered : List SinkAction :=
  [.start, .begin [], .submit { payload := [0x61] } "a:1", .drain "t" [] [],
    .configure { fourRecords with rotationMaxBytes := 3, rotation_pos := by decide },
    .submit { payload := [0x62] } "a:1", .drain "t" [] []]

theorem sink_sizes_cap_lowered : ∃ sink,
    Runs.run SinkWriter.step onTwoBytes capLowered = some sink ∧ sink.file.Sized := by
  have possible : (Runs.run SinkWriter.step onTwoBytes capLowered).isSome = true := by
    decide +kernel
  obtain ⟨sink, ran⟩ := Option.isSome_iff_exists.mp possible
  refine ⟨sink, ran, (sink_sizes _ _ ?_ ran).1⟩
  simp [capLowered, SinkAction.FilesSucceed]

end TcpSim.Engine
