import TcpSim.Engine.FramerProperties
import TcpSim.Engine.ScheduledSteps
import TcpSim.Gui.LoadRecords
import TcpSim.Lib.Messages

/-! Records on the wire: when a receiver that splits at LF gets every message back. -/

set_option autoImplicit false

namespace TcpSim.Gui

open Engine Splitting

/-! ## Lines as payloads -/

/-- One line: no line break but an LF or CRLF at its end, or none at the end of a file. -/
def IsLine (rawText : List Char) : Prop :=
  ∃ content, '\n' ∉ content ∧ '\r' ∉ content ∧
    (rawText = content ++ ['\n'] ∨ rawText = content ++ ['\r', '\n'] ∨ rawText = content)

def keptBytes (stream : StreamSettings) (payload : Bytes) : Bytes :=
  if stream.stripCr then payload.filter (· != 0x0D) else payload

section Payloads

variable {stream : StreamSettings} (keepsLf : stream.stripLf = false)

theorem keptBytes_append (front back : Bytes) :
    keptBytes stream (front ++ back) = keptBytes stream front ++ keptBytes stream back := by
  unfold keptBytes
  split
  · exact List.filter_append front back
  · rfl

theorem lf_not_mem_kept {content : List Char} (noLf : '\n' ∉ content) :
    (0x0A : UInt8) ∉ keptBytes stream (Utf8.encode content) := by
  have absent : (0x0A : UInt8) ∉ Utf8.encode content :=
    (Utf8.mem_encode_iff (by decide : '\n'.val.toNat < 128) content).not.mpr noLf
  unfold keptBytes
  split
  · exact fun member => absent (List.mem_of_mem_filter member)
  · exact absent

theorem kept_ne_nil {content : List Char} (noCr : '\r' ∉ content) (filled : content ≠ []) :
    keptBytes stream (Utf8.encode content) ≠ [] := by
  have absent : (0x0D : UInt8) ∉ Utf8.encode content :=
    (Utf8.mem_encode_iff (by decide : '\r'.val.toNat < 128) content).not.mpr noCr
  have whole : (Utf8.encode content).filter (· != 0x0D) = Utf8.encode content := by
    apply List.filter_eq_self.mpr
    intro byte member
    exact bne_iff_ne.mpr fun isCr => absent (isCr ▸ member)
  unfold keptBytes
  rw [whole, ite_self]
  exact Utf8.encode_ne_nil filled

include keepsLf in
theorem payloadOf_eq (rawText : List Char) :
    payloadOf stream rawText = keptBytes stream (Utf8.encode rawText) := by
  unfold payloadOf applyPayloadFilters keptBytes
  rw [keepsLf]
  rfl

theorem kept_lf : keptBytes stream (Utf8.encode ['\n']) = [0x0A] := by
  unfold keptBytes
  split <;> rfl

theorem kept_crlf : ∃ body, (0x0A : UInt8) ∉ body ∧
    keptBytes stream (Utf8.encode ['\r', '\n']) = body ++ [0x0A] := by
  unfold keptBytes
  split
  · exact ⟨[], by decide, rfl⟩
  · exact ⟨[0x0D], by decide, rfl⟩

include keepsLf in
/-- A line that ends in a break is a message with its LF. -/
theorem payloadOf_ended {rawText : List Char} (isLine : IsLine rawText) (ended : Lines.Ended rawText) :
    ∃ body, (0x0A : UInt8) ∉ body ∧ payloadOf stream rawText = body ++ [0x0A] := by
  obtain ⟨content, noLf, noCr, shape⟩ := isLine
  have absent : (0x0A : UInt8) ∉ keptBytes stream (Utf8.encode content) := lf_not_mem_kept noLf
  rw [payloadOf_eq keepsLf]
  rcases shape with rfl | rfl | rfl
  · exact ⟨_, absent, by rw [Utf8.encode_append, keptBytes_append, kept_lf]⟩
  · obtain ⟨body, bodyAbsent, tail⟩ := @kept_crlf stream
    refine ⟨keptBytes stream (Utf8.encode content) ++ body, by simp [absent, bodyAbsent], ?_⟩
    rw [Utf8.encode_append, keptBytes_append, tail, List.append_assoc]
  · obtain ⟨last, isLast, isLf | isCr⟩ := ended
    · exact absurd (List.mem_of_getLast? (isLf ▸ isLast)) noLf
    · exact absurd (List.mem_of_getLast? (isCr ▸ isLast)) noCr

include keepsLf in
theorem payloadOf_message {rawText : List Char} (isLine : IsLine rawText) (filled : rawText ≠ []) :
    Message (0x0A : UInt8) (payloadOf stream rawText) := by
  by_cases ended : Lines.Ended rawText
  · obtain ⟨body, absent, shape⟩ := payloadOf_ended keepsLf isLine ended
    rw [shape]
    exact .ended absent
  · obtain ⟨content, noLf, noCr, shape⟩ := isLine
    rcases shape with rfl | rfl | rfl
    · exact absurd ⟨'\n', List.getLast?_concat, .inl rfl⟩ ended
    · exact absurd ⟨'\n', by simp, .inl rfl⟩ ended
    · rw [payloadOf_eq keepsLf]
      exact .bare (lf_not_mem_kept noLf) (kept_ne_nil noCr filled)

end Payloads

/-! ## Records of a file -/

/-- The rows that the records of the file are taken from. -/
def StreamSettings.rows (self : StreamSettings) (content : FileContent) : List RawRow :=
  (iterRowsWithRaw self.fileDelimiter content).rows

theorem loadRecords_content {files : Files} {stream : StreamSettings} {records : List Bytes}
    {header : Option Bytes} (loaded : loadRecords files stream = .ok (records, header)) :
    ∃ content, files (strip stream.filePath) = some content ∧
      ∃ texts : List (List Char), texts.Sublist ((stream.rows content).map RawRow.rawText) ∧
        records = texts.map (payloadOf stream) := by
  unfold loadRecords at loaded
  dsimp only at loaded
  split at loaded
  · cases loaded
  · split at loaded
    · cases loaded
    next content found =>
        split at loaded
        · cases loaded
        · cases loaded
          refine ⟨content, found, (stream.reader.iterValidRawRows content none none none).yielded.map
            RawRowRecord.rawText, ?_, by rw [List.map_map]; rfl⟩
          exact FileReader.streamRows_sublist none none none _ _

/-- Every record is a message of one frame, and only the last one may lack its LF. -/
theorem loadRecords_messages {files : Files} {stream : StreamSettings} {content : FileContent}
    {records : List Bytes} {header : Option Bytes}
    (found : files (strip stream.filePath) = some content)
    (lines : ∀ row ∈ stream.rows content, IsLine row.rawText) (keepsLf : stream.stripLf = false)
    (loaded : loadRecords files stream = .ok (records, header)) :
    (∀ record ∈ records, Message (0x0A : UInt8) record) ∧
      records.Pairwise fun earlier _ => Ends 0x0A earlier := by
  obtain ⟨there, same, texts, sublist, rfl⟩ := loadRecords_content loaded
  obtain rfl := Option.some.inj (found.symm.trans same)
  have isRow : ∀ text ∈ texts, IsLine text ∧ text ≠ [] := by
    intro text member
    obtain ⟨row, isRow, rfl⟩ := List.mem_map.mp (sublist.mem member)
    exact ⟨lines row isRow, iterRowsWithRaw_ne_nil _ _ row isRow⟩
  constructor
  · intro record member
    obtain ⟨text, isText, rfl⟩ := List.mem_map.mp member
    exact payloadOf_message keepsLf (isRow text isText).1 (isRow text isText).2
  · have ended : ((stream.rows content).map RawRow.rawText).Pairwise fun earlier _ => Lines.Ended earlier :=
      List.pairwise_map.mpr (iterRowsWithRaw_pairwise stream.fileDelimiter content)
    rw [List.pairwise_map]
    refine (ended.sublist sublist).imp_of_mem fun isText _ ended => ?_
    obtain ⟨body, _, shape⟩ := payloadOf_ended keepsLf (isRow _ isText).1 ended
    rw [shape]
    exact List.getLast?_concat

/-! ## Frames -/

/-- A receiver with that cap gets one whole frame for each message, without its LF. -/
def Delimited (messages : List Bytes) (max : Nat) (max_pos : 0 < max) : Prop :=
  ((Framer.fresh .lf max max_pos).frame [messages.flatten]).1 =
    messages.map fun message => { payload := record 0x0A message, truncated := false }

theorem delimited_iff {messages : List Bytes} (shaped : ∀ m ∈ messages, Message (0x0A : UInt8) m)
    {max : Nat} (max_pos : 0 < max) (large : messages.flatten.length ≤ max) :
    Delimited messages max max_pos ↔ messages.Pairwise fun earlier _ => Ends 0x0A earlier := by
  have framed := (Framer.fresh_frame_eq_reference_iff (resumes_of_length_one lfSeparator_single)
    .lf rfl max max_pos [messages.flatten]).mpr
    (separatorsKept_of_length_one lfSeparator_single max [] _)
  have whole : referenceFrame lfSeparator max messages.flatten =
      (records lfSeparator messages.flatten).map fun payload => { payload, truncated := false } := by
    apply List.map_congr_left
    intro payload member
    exact referenceRecord_of_le ((record_length_le member).trans large)
  have injective : Function.Injective fun payload : Bytes =>
      ({ payload, truncated := false } : FramedRecord) :=
    fun first second same => congrArg FramedRecord.payload same
  unfold Delimited
  rw [framed, List.flatten_singleton, whole, ← records_flatten_iff (rfl : lfSeparator.symbols = [0x0A]) shaped,
    ← injective.list_map.eq_iff, List.map_map]
  rfl

/-- Messages of a file are told apart on the wire unless a loop sends another one behind a last
selected record without a line ending. -/
theorem records_delimited_iff {files : Files} {stream : StreamSettings} {content : FileContent}
    {records : List Bytes} {header : Option Bytes}
    (found : files (strip stream.filePath) = some content)
    (lines : ∀ row ∈ stream.rows content, IsLine row.rawText) (keepsLf : stream.stripLf = false)
    (loaded : loadRecords files stream = .ok (records, header))
    (rate : ℚ) (startLine endLine firstN : Option Int) (steps max : Nat) (max_pos : 0 < max) :
    let scheduler := (SendScheduler.create records rate stream.loop).call
      (.setLineControls startLine endLine firstN)
    (scheduler.payloads steps).flatten.length ≤ max →
      (Delimited (scheduler.payloads steps) max max_pos ↔
        ¬(stream.loop = true ∧ scheduler.totalLines < steps ∧
          ∃ last ∈ scheduler.records.getLast?, ¬Ends 0x0A last)) := by
  intro scheduler large
  obtain ⟨shaped, ordered⟩ := loadRecords_messages found lines keepsLf loaded
  obtain ⟨quiet, atStart, loops, selected⟩ :=
    SendScheduler.create_setLineControls records rate stream.loop startLine endLine firstN
  have sent : ∀ payload ∈ scheduler.payloads steps, Message (0x0A : UInt8) payload :=
    fun payload member => shaped payload (selected.mem (quiet.payloads_subset steps payload member))
  rw [delimited_iff sent max_pos large, quiet.payloads_pairwise_iff atStart (ordered.sublist selected),
    loops]
  rfl

theorem records_delimited_terminated :
    let scheduler := (SendScheduler.create [[0x61, 0x0A], [0x62, 0x0A]] 10 true).call
      (.setLineControls (some 1) none none)
    Delimited (scheduler.payloads 3) 64 (by decide) := by
  intro scheduler
  have lines : ∀ row ∈ (⟨"f.csv", ",", false, true, true, false, false, false⟩ : StreamSettings).rows
      (.text ['a', '\n', 'b', '\n']), IsLine row.rawText := by
    intro row member
    have rows : row ∈ [(⟨1, ['a', '\n'], [['a']]⟩ : RawRow), ⟨2, ['b', '\n'], [['b']]⟩] := member
    rcases List.mem_cons.mp rows with rfl | second
    · exact ⟨['a'], by decide, by decide, .inl rfl⟩
    · cases List.mem_singleton.mp second
      exact ⟨['b'], by decide, by decide, .inl rfl⟩
  have loaded : loadRecords (fun path =>
      if path = "f.csv" then some (.text ['a', '\n', 'b', '\n']) else none)
      ⟨"f.csv", ",", false, true, true, false, false, false⟩ =
      .ok ([[0x61, 0x0A], [0x62, 0x0A]], none) := rfl
  apply (records_delimited_iff rfl lines rfl loaded 10 (some 1) none none 3 64 (by decide) (by decide)).mpr
  intro fails
  obtain ⟨_, _, last, isLast, unterminated⟩ := fails
  cases isLast
  exact unterminated rfl

/-- A last line without LF and the first one again make one frame. -/
theorem unterminated_last_line_merges :
    let stream : StreamSettings := { filePath := "f.csv", hasHeader := false }
    let content := FileContent.text ['a', '\n', 'b']
    let payloads := (SendScheduler.create [[0x61, 0x0A], [0x62]] 10 stream.loop).payloads 3
    (∀ row ∈ stream.rows content, IsLine row.rawText) ∧ stream.stripLf = false ∧
      loadRecords (fun path => if path = "f.csv" then some content else none) stream =
        .ok ([[0x61, 0x0A], [0x62]], none) ∧
      payloads = [[0x61, 0x0A], [0x62], [0x61, 0x0A]] ∧
      records lfSeparator payloads.flatten = [[0x61], [0x62, 0x61]] ∧
      ∀ max (max_pos : 0 < max), payloads.flatten.length ≤ max → ¬Delimited payloads max max_pos := by
  intro stream content payloads
  have rows : stream.rows content = [⟨1, ['a', '\n'], [['a']]⟩, ⟨2, ['b'], [['b']]⟩] := by
    simp only [stream, content]
    rfl
  have loaded : loadRecords (fun path => if path = "f.csv" then some content else none) stream =
      .ok ([[0x61, 0x0A], [0x62]], none) := by
    simp only [stream, content]
    rfl
  have sent : payloads = [[0x61, 0x0A], [0x62], [0x61, 0x0A]] := rfl
  refine ⟨?_, rfl, loaded, sent, ?_, ?_⟩
  · intro row member
    rw [rows] at member
    rcases List.mem_cons.mp member with rfl | second
    · exact ⟨['a'], by decide, by decide, .inl rfl⟩
    · cases List.mem_singleton.mp second
      exact ⟨['b'], by decide, by decide, .inr (.inr rfl)⟩
  · have first := records_of_body (rfl : lfSeparator.symbols = [0x0A])
      (by decide : (0x0A : UInt8) ∉ [0x61]) [0x62, 0x61, 0x0A]
    have second := records_of_body (rfl : lfSeparator.symbols = [0x0A])
      (by decide : (0x0A : UInt8) ∉ [0x62, 0x61]) []
    rw [records_nil] at second
    exact first.trans (congrArg ([0x61] :: ·) second)
  · intro max max_pos large
    rw [sent] at large ⊢
    have shaped : ∀ payload ∈ [[0x61, 0x0A], [0x62], [0x61, 0x0A]], Message (0x0A : UInt8) payload := by
      intro payload member
      simp only [List.mem_cons, List.not_mem_nil, or_false] at member
      rcases member with rfl | rfl | rfl
      · exact .ended (by decide : (0x0A : UInt8) ∉ [0x61])
      · exact .bare (by decide) (by decide)
      · exact .ended (by decide : (0x0A : UInt8) ∉ [0x61])
    rw [delimited_iff shaped max_pos large]
    decide

end TcpSim.Gui
