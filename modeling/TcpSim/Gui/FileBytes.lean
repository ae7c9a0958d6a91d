import TcpSim.Engine.LineSelections
import TcpSim.Gui.LoadRecords

/-! The records of a file are its bytes, cut between rows. -/

set_option autoImplicit false

namespace TcpSim.Gui

open Engine

theorem payloadOf_unstripped {stream : StreamSettings} (keepsLf : stream.stripLf = false)
    (keepsCr : stream.stripCr = false) (rawText : List Char) :
    payloadOf stream rawText = Utf8.encode rawText := by
  simp [payloadOf, applyPayloadFilters, keepsLf, keepsCr]

/-- What is loaded of a file that is read to its end. -/
theorem loadRecords_eq {files : Files} {stream : StreamSettings} {content : FileContent}
    (named : strip stream.filePath ≠ "") (found : files (strip stream.filePath) = some content)
    (exhausted : (iterRowsWithRaw stream.fileDelimiter content).raises = none) :
    let rows := (iterRowsWithRaw stream.fileDelimiter content).rows
    loadRecords files stream = .ok
      (((dataRows stream.hasHeader rows).filter (hasExpectedColumns rows)).map
          fun row => payloadOf stream row.rawText,
        if stream.sendHeader then
          (if stream.hasHeader then rows.head?.map RawRow.rawText else none).map (payloadOf stream)
        else none) := by
  intro rows
  have raises : (stream.reader.iterValidRawRows content none none none).raises = none :=
    (FileReader.iterValidRawRows_raises _ _).trans exhausted
  have texts : ∀ (dataLineNumber : Nat) (rows : List RawRow),
      (numbered dataLineNumber rows).map (fun row => payloadOf stream row.rawText) =
        rows.map fun row => payloadOf stream row.rawText := by
    intro dataLineNumber rows
    induction rows generalizing dataLineNumber with
    | nil => rfl
    | cons row rest ih => exact congrArg (_ :: ·) (ih _)
  unfold loadRecords
  dsimp only
  rw [if_neg named, found]
  dsimp only
  rw [raises]
  dsimp only
  rw [FileReader.iterValidRawRows_headerRaw, FileReader.iterValidRawRows_all, texts, FileReader.allRows_eq]
  rfl

theorem encode_flatten (texts : List (List Char)) :
    (texts.map Utf8.encode).flatten = Utf8.encode texts.flatten := by
  induction texts with
  | nil => rfl
  | cons text rest ih =>
      rw [List.map_cons, List.flatten_cons, List.flatten_cons, Utf8.encode_append, ih]

/-- A file that is read to its end is cut into rows without loss: their texts put together are
the file, each row is numbered by the lines before it, and with no filter the records are the
bytes of the valid rows; with the header sent and all rows valid, they are all its bytes. -/
theorem raw_rows_tile_file {bytes : Bytes} {text : String} {delimiter : String}
    (decoded : Utf8.decode bytes = some text)
    (exhausted : (iterRowsWithRaw delimiter (.text text.toList)).raises = none) :
    let rows := (iterRowsWithRaw delimiter (.text text.toList)).rows
    (rows.map RawRow.rawText).flatten = text.toList ∧
    (∀ (index : Nat) row, rows[index]? = some row → row.rawRowNumber =
      (Lines.split ((rows.take index).map RawRow.rawText).flatten).length + 1) ∧
    ∀ (files : Files) (stream : StreamSettings), strip stream.filePath ≠ "" →
      files (strip stream.filePath) = some (.text text.toList) → stream.fileDelimiter = delimiter →
      stream.stripLf = false → stream.stripCr = false →
      ∃ records header, loadRecords files stream = .ok (records, header) ∧
        records = ((dataRows stream.hasHeader rows).filter (hasExpectedColumns rows)).map
          (fun row => Utf8.encode row.rawText) ∧
        (stream.hasHeader = true → stream.sendHeader = true →
          (∀ row ∈ dataRows stream.hasHeader rows, hasExpectedColumns rows row = true) →
            header.getD [] ++ records.flatten = bytes) := by
  intro rows
  have tiled := iterRowsWithRaw_flatten exhausted
  refine ⟨tiled, fun index row found => iterRowsWithRaw_number found, ?_⟩
  rintro files stream named found rfl keepsLf keepsCr
  have loaded := loadRecords_eq named found exhausted
  have payload : payloadOf stream = Utf8.encode := funext (payloadOf_unstripped keepsLf keepsCr)
  rw [payload] at loaded
  refine ⟨_, _, loaded, rfl, ?_⟩
  intro hasHeader sendHeader valid
  rw [List.filter_eq_self.mpr valid, hasHeader, sendHeader]
  have whole : Utf8.encode (rows.map RawRow.rawText).flatten = bytes := by
    rw [tiled]
    exact Utf8.encode_of_decode decoded
  rw [← whole, ← encode_flatten, List.map_map]
  change ((rows.head?.map RawRow.rawText).map Utf8.encode).getD [] ++ _ = _
  cases rows with
  | nil => rfl
  | cons first rest => rfl

/-- A header, and a row of two lines with a quoted LF. -/
theorem raw_rows_tile_file_quoted :
    let text := ['k', '\n', '"', 'a', '\n', 'b', '"', '\r', '\n', 'c']
    ∃ records header, loadRecords (fun path => if path = "f.csv" then some (.text text) else none)
        { filePath := "f.csv" } = .ok (records, header) ∧
      header.getD [] ++ records.flatten = Utf8.encode text := by
  have inverse : (String.ofList ['k', '\n', '"', 'a', '\n', 'b', '"', '\r', '\n', 'c']).toList =
      ['k', '\n', '"', 'a', '\n', 'b', '"', '\r', '\n', 'c'] := String.toList_ofList
  obtain ⟨_, _, loads⟩ := @raw_rows_tile_file _ _ "," (Utf8.decode_encode
    (String.ofList ['k', '\n', '"', 'a', '\n', 'b', '"', '\r', '\n', 'c']))
    (by rw [inverse]; rfl)
  rw [inverse] at loads
  obtain ⟨records, header, loaded, _, whole⟩ := loads
    (fun path => if path = "f.csv" then some (.text ['k', '\n', '"', 'a', '\n', 'b', '"', '\r', '\n', 'c'])
      else none) { filePath := "f.csv" } (by decide) rfl rfl rfl rfl
  exact ⟨records, header, loaded, whole rfl rfl (by decide)⟩

end TcpSim.Gui
