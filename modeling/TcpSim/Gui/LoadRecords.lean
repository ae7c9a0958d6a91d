import TcpSim.Engine.FileReader
import TcpSim.Gui.Controller
import TcpSim.Lib.Utf8

/-! The controller's records: the text of the valid rows of a file, as bytes. -/

set_option autoImplicit false

namespace TcpSim.Gui

open Engine

/-- What is at a path, if there is a file. -/
abbrev Files := String → Option FileContent

/-- The white space that `str.strip` removes. -/
def isSpace (character : Char) : Bool :=
  let code := character.val.toNat
  (9 ≤ code && code ≤ 13) || (28 ≤ code && code ≤ 32) || code = 0x85 || code = 0xA0 ||
    code = 0x1680 || (0x2000 ≤ code && code ≤ 0x200A) || code = 0x2028 || code = 0x2029 ||
    code = 0x202F || code = 0x205F || code = 0x3000

def strip (text : String) : String :=
  String.ofList (((text.toList.dropWhile isSpace).reverse.dropWhile isSpace).reverse)

/-- The exception as the controller sees it; a `UnicodeDecodeError` is a `ValueError`. -/
def raisedOf : ReadError → Raised
  | .osError text => { kind := .osError, text }
  | .unicodeDecodeError text => { kind := .valueError, text }
  | .typeError text => { kind := .other, text }
  | .csvError text => { kind := .csvError, text }
  | .valueError text => { kind := .valueError, text }

def applyPayloadFilters (payload : Bytes) (stream : StreamSettings) : Bytes :=
  let filtered := if stream.stripCr then payload.filter (· != 0x0D) else payload
  if stream.stripLf then filtered.filter (· != 0x0A) else filtered

/-- `stream_settings.delimiter or ","`. -/
def StreamSettings.fileDelimiter (self : StreamSettings) : String :=
  if self.delimiter = "" then "," else self.delimiter

theorem StreamSettings.preset_fileDelimiter (self : StreamSettings) :
    self.preset.1.fileDelimiter = self.fileDelimiter := by
  unfold preset
  split <;> rfl

def StreamSettings.reader (self : StreamSettings) : FileReader where
  delimiter := self.fileDelimiter
  hasHeader := self.hasHeader

def payloadOf (stream : StreamSettings) (rawText : List Char) : Bytes :=
  applyPayloadFilters (Utf8.encode rawText) stream

/-- `_load_records`: the payloads of the records, and that of the header if it is sent. -/
def loadRecords (files : Files) (stream : StreamSettings) :
    Except Raised (List Bytes × Option Bytes) :=
  let normalizedPath := strip stream.filePath
  if normalizedPath = "" then
    .error { kind := .valueError, text := "A data file must be selected before starting transport." }
  else match files normalizedPath with
    | none => .error { kind := .valueError, text := "Data file not found: " ++ normalizedPath }
    | some content =>
        let streamed := stream.reader.iterValidRawRows content none none none
        match streamed.raises with
        | some error => .error (raisedOf error)
        | none =>
            let records := streamed.yielded.map fun row => payloadOf stream row.rawText
            let headerPayload :=
              if stream.sendHeader then streamed.reader.headerRaw.map (payloadOf stream) else none
            .ok (records, headerPayload)

/-- Only a delimiter that is not one character raises what the controller does not expect. -/
theorem loadRecords_unhandled {files : Files} {stream : StreamSettings} {raised : Raised}
    (fails : loadRecords files stream = .error raised) (unexpected : raised.kind = .other) :
    (∃ characters, files (strip stream.filePath) = some (.text characters)) ∧
      stream.fileDelimiter.toList.length ≠ 1 := by
  unfold loadRecords at fails
  dsimp only at fails
  split at fails
  · cases fails
    cases unexpected
  · split at fails
    · cases fails
      cases unexpected
    next content found =>
        rw [FileReader.iterValidRawRows_raises] at fails
        unfold iterRowsWithRaw at fails
        rw [found]
        cases content with
        | unreadable message =>
            cases fails
            cases unexpected
        | undecodable message =>
            cases fails
            cases unexpected
        | text characters =>
            refine ⟨⟨characters, rfl⟩, fun single => ?_⟩
            obtain ⟨delimiter, isSingle⟩ := List.length_eq_one_iff.mp single
            change stream.reader.delimiter.toList = [delimiter] at isSingle
            simp only [isSingle] at fails
            cases raises : (csvReader delimiter (Lines.split characters)).raises with
            | none =>
                rw [raises] at fails
                cases fails
            | some message =>
                rw [raises] at fails
                cases fails
                cases unexpected

end TcpSim.Gui
