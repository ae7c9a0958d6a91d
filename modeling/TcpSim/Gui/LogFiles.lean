import TcpSim.Gui.LogPanel
import TcpSim.Lib.Runs
import TcpSim.Lib.SplitLines
import TcpSim.Lib.TextFiles

/-! The log panel and its files: what it loads, what its filters leave and what it exports. -/

set_option autoImplicit false

namespace TcpSim.Gui

open Config TextFiles

/-! ## Files -/

/-- How the panel reads and writes text; `decodeReplace` is `decode("utf-8", errors="replace")`. -/
structure TextCodec where
  decodeReplace : List UInt8 → String
  separator : LineSeparator
  /-- Only what is no UTF-8 gets replaced. -/
  exact : ∀ text : String, decodeReplace (Utf8.encode text.toList) = text

namespace TextCodec

variable (self : TextCodec)

/-- `read_text(encoding="utf-8", errors="replace")`. -/
def readText (bytes : List UInt8) : List Char := universalNewlines (self.decodeReplace bytes).toList

/-- `lines[-max_lines:]`. -/
def lastLines (maxLines : Nat) (lines : List String) : List String :=
  if maxLines = 0 then lines else lines.drop (lines.length - maxLines)

/-- `load_log_lines` of a file that exists. -/
def loadLogLines (maxLines : Nat) (bytes : List UInt8) : List String :=
  lastLines maxLines ((SplitLines.splitlines (self.readText bytes)).map String.ofList)

/-- The text that `export_log_lines` writes. -/
def exportText (lines : List String) : String := "\n".intercalate lines ++ "\n"

def exportLogLines (lines : List String) : List UInt8 := write self.separator (exportText lines)

end TextCodec

/-! ## The panel -/

structure LogPanel where
  logPath : String := "tcp-sim.log"
  levelFilter : String := "ALL"
  search : String := ""
  loadedLines : List String := []
  filteredLines : List String := []
  lastNotice : Option String := none

/-- The panel, and the files by their paths. Only the empty path names a directory. -/
structure LogSession where
  panel : LogPanel := {}
  files : String → Option (List UInt8)

inductive LogAction where
  | setPath (path : String)
  | setLevel (level : String)
  | setSearch (text : String)
  | load
  | applyFilters
  /-- The answer of the dialog is empty when it is cancelled. -/
  | exportFiltered (destination : String)
  /-- Someone else writes or removes a file. -/
  | outside (path : String) (bytes : Option (List UInt8))

namespace LogPanel

variable (codec : LogCodec) (self : LogPanel)

def filterLoaded : Except FilterError (List String) :=
  codec.filterLogLines self.loadedLines self.levelFilter self.search

/-- `apply_filters`; nothing changes if the filter raises. -/
def applyFilters : LogPanel :=
  match self.filterLoaded codec with
  | .error _ => self
  | .ok filteredLines =>
      { self with
        filteredLines
        lastNotice :=
          if self.loadedLines = [] then some "No log entries loaded."
          else if filteredLines = [] then some "No log entries match current filters."
          else none }

/-- `load`. The working directory exists, and reading it raises. -/
def load (text : TextCodec) (files : String → Option (List UInt8)) : LogPanel :=
  if strip self.logPath = "" then self
  else match files (strip self.logPath) with
  | none =>
      { self with
        loadedLines := []
        filteredLines := []
        lastNotice := some ("Log file not found: " ++ strip self.logPath) }
  | some bytes => { self with loadedLines := text.loadLogLines 2000 bytes }.applyFilters codec

end LogPanel

namespace LogSession

variable (codec : LogCodec) (text : TextCodec) (self : LogSession)

def writeFile (path : String) (bytes : Option (List UInt8)) : LogSession :=
  { self with files := fun other => if other = path then bytes else self.files other }

def exportFiltered (destination : String) : LogSession :=
  if self.panel.filteredLines = [] then self
  else if destination = "" then self
  else self.writeFile destination (some (text.exportLogLines self.panel.filteredLines))

def step (self : LogSession) : LogAction → LogSession
  | .setPath path => { self with panel.logPath := path }
  | .setLevel level => { self with panel.levelFilter := level }
  | .setSearch search => { self with panel.search := search }
  | .load => { self with panel := self.panel.load codec text self.files }
  | .applyFilters => { self with panel := self.panel.applyFilters codec }
  | .exportFiltered destination => self.exportFiltered text destination
  | .outside path bytes => self.writeFile path bytes

def after (actions : List LogAction) : LogSession := actions.foldl (step codec text) self

end LogSession

/-! ## What is written and read again -/

/-- There is no line boundary in the line. -/
def Unbroken (line : String) : Prop := SplitLines.Unbroken line.toList

namespace TextCodec

variable (text : TextCodec)

theorem lastLines_sublist (maxLines : Nat) (lines : List String) :
    List.Sublist (lastLines maxLines lines) lines := by
  unfold lastLines
  split
  · exact List.Sublist.refl _
  · exact List.drop_sublist _ _

theorem lastLines_of_le {maxLines : Nat} {lines : List String} (few : lines.length ≤ maxLines) :
    lastLines maxLines lines = lines := by
  unfold lastLines
  split
  · rfl
  · rw [Nat.sub_eq_zero_of_le few, List.drop_zero]

theorem lastLines_length {maxLines : Nat} (some : maxLines ≠ 0) (lines : List String) :
    (lastLines maxLines lines).length ≤ maxLines := by
  unfold lastLines
  rw [if_neg some, List.length_drop]
  omega

theorem loadLogLines_length {maxLines : Nat} (some : maxLines ≠ 0) (bytes : List UInt8) :
    (text.loadLogLines maxLines bytes).length ≤ maxLines :=
  lastLines_length some _

theorem loadLogLines_unbroken (maxLines : Nat) (bytes : List UInt8) :
    ∀ line ∈ text.loadLogLines maxLines bytes, Unbroken line := by
  intro line member
  obtain ⟨characters, inside, rfl⟩ :=
    List.mem_map.mp ((lastLines_sublist maxLines _).subset member)
  unfold Unbroken
  rw [String.toList_ofList]
  exact SplitLines.splitlines_unbroken _ characters inside

/-- Each line is written with a line break behind it. -/
theorem exportText_toList {lines : List String} (filled : lines ≠ []) :
    (exportText lines).toList = (lines.map String.toList).flatMap (· ++ ['\n']) := by
  induction lines with
  | nil => exact absurd rfl filled
  | cons line rest ih =>
      by_cases last : rest = []
      · subst last
        simp [exportText]
      · have later := ih last
        unfold exportText at later ⊢
        rw [String.intercalate_cons_of_ne_nil last, String.append_assoc, String.toList_append, later]
        simp

/-- What is exported is loaded again, line by line. -/
theorem load_export {lines : List String} (filled : lines ≠ []) {maxLines : Nat}
    (few : lines.length ≤ maxLines) (unbroken : ∀ line ∈ lines, Unbroken line) :
    text.loadLogLines maxLines (text.exportLogLines lines) = lines := by
  have whole : ∀ line ∈ lines.map String.toList, SplitLines.Unbroken line :=
    List.forall_mem_map.mpr unbroken
  have noReturn : '\r' ∉ (exportText lines).toList := by
    rw [exportText_toList filled]
    intro member
    obtain ⟨line, inside, part⟩ := List.mem_flatMap.mp member
    rcases List.mem_append.mp part with own | ended
    · exact absurd (whole line inside _ own) (by decide)
    · exact absurd (List.mem_singleton.mp ended) (by decide)
  have read : text.readText (text.exportLogLines lines) = (exportText lines).toList := by
    have written := text.exact (String.ofList (writeBreaks text.separator (exportText lines).toList))
    rw [String.toList_ofList] at written
    unfold readText exportLogLines write
    rw [written, String.toList_ofList, universalNewlines_writeBreaks text.separator noReturn]
  unfold loadLogLines
  rw [read, exportText_toList filled, SplitLines.splitlines_ended whole, List.map_map]
  have same : lines.map (String.ofList ∘ String.toList) = lines := by
    simp [Function.comp_def]
  rw [same, lastLines_of_le few]

end TextCodec

/-! ## What the filters leave -/

namespace LogCodec

variable {codec : LogCodec}

theorem filterLines_eq_filter {level query : String} {lines result : List String}
    (returned : codec.filterLines level query lines = .ok result) :
    ∃ kept : String → Bool, (∀ line ∈ lines, codec.verdict level query line = .ok (kept line)) ∧
      result = lines.filter kept := by
  let kept line := match codec.verdict level query line with
    | .ok kept => kept
    | .error _ => false
  have decided : ∀ line ∈ lines, codec.verdict level query line = .ok (kept line) := by
    intro line member
    obtain ⟨value, isValue⟩ := verdict_of_filterLines returned line member
    simp only [kept, isValue]
  refine ⟨kept, decided, ?_⟩
  exact Except.ok.inj (returned.symm.trans (filterLines_of_verdict decided))

theorem filterLogLines_sublist {level search : String} {lines result : List String}
    (returned : codec.filterLogLines lines level search = .ok result) : List.Sublist result lines := by
  obtain ⟨kept, _, rfl⟩ := filterLines_eq_filter returned
  exact List.filter_sublist

/-- The same filters leave what they left. -/
theorem filterLogLines_again {level search : String} {lines result : List String}
    (returned : codec.filterLogLines lines level search = .ok result) :
    codec.filterLogLines result level search = .ok result := by
  obtain ⟨kept, decided, rfl⟩ := filterLines_eq_filter returned
  have left : ∀ line ∈ lines.filter kept,
      codec.verdict (codec.upper (strip level))
      (codec.lower (strip search)) line = .ok (kept line) :=
    fun line member => decided line (List.mem_of_mem_filter member)
  unfold filterLogLines
  rw [filterLines_of_verdict left]
  simp

end LogCodec

/-! ## Sessions -/

/-- The lines that are shown could be lines of a file that is loaded. -/
structure LogPanel.Loadable (panel : LogPanel) : Prop where
  loaded : ∀ line ∈ panel.loadedLines, Unbroken line
  few : panel.loadedLines.length ≤ 2000
  filtered : ∀ line ∈ panel.filteredLines, Unbroken line
  fewer : panel.filteredLines.length ≤ 2000

namespace LogPanel.Loadable

variable {codec : LogCodec} {panel : LogPanel}

theorem of_empty (loaded : panel.loadedLines = []) (filtered : panel.filteredLines = []) :
    panel.Loadable := by
  constructor <;> simp [loaded, filtered]

theorem reads (loadable : panel.Loadable) {lines : List String}
    (unbroken : ∀ line ∈ lines, Unbroken line) (few : lines.length ≤ 2000) :
    LogPanel.Loadable { panel with loadedLines := lines } :=
  ⟨unbroken, few, loadable.filtered, loadable.fewer⟩

theorem applyFilters (loadable : panel.Loadable) : (panel.applyFilters codec).Loadable := by
  unfold LogPanel.applyFilters
  split
  · exact loadable
  next filteredLines returned =>
    have part := LogCodec.filterLogLines_sublist returned
    exact ⟨loadable.loaded, loadable.few, fun line member => loadable.loaded line (part.subset member),
      part.length_le.trans loadable.few⟩

theorem load (loadable : panel.Loadable) (text : TextCodec) (files : String → Option (List UInt8)) :
    (panel.load codec text files).Loadable := by
  unfold LogPanel.load
  split
  · exact loadable
  · split
    · exact .of_empty rfl rfl
    next bytes _ =>
      exact (loadable.reads (text.loadLogLines_unbroken 2000 bytes)
        (text.loadLogLines_length (by simp) bytes)).applyFilters

end LogPanel.Loadable

namespace LogSession

variable {codec : LogCodec} {text : TextCodec} {self : LogSession}

theorem step_loadable (loadable : self.panel.Loadable) (action : LogAction) :
    (self.step codec text action).panel.Loadable := by
  cases action with
  | load => exact loadable.load text self.files
  | applyFilters => exact loadable.applyFilters
  | exportFiltered destination =>
      simp only [step, exportFiltered]
      split
      · exact loadable
      · split <;> exact loadable
  | _ => exact ⟨loadable.loaded, loadable.few, loadable.filtered, loadable.fewer⟩

theorem after_loadable (loadable : self.panel.Loadable) (actions : List LogAction) :
    (self.after codec text actions).panel.Loadable := by
  induction actions generalizing self with
  | nil => exact loadable
  | cons action rest ih => exact ih (step_loadable loadable action)

/-- Whatever the user and others did before: what the panel exports it loads again line by line,
and shows it whole if the filters are those that had left it. -/
theorem export_reload (codec : LogCodec) (text : TextCodec) (files : String → Option (List UInt8))
    (history : List LogAction) {destination : String} (named : strip destination = destination)
    (answered : destination ≠ "")
    (shown : (({ files } : LogSession).after codec text history).panel.filteredLines ≠ []) :
    let before := ({ files } : LogSession).after codec text history
    let reloaded := before.after codec text
      [.exportFiltered destination, .setPath destination, .load]
    reloaded.panel.loadedLines = before.panel.filteredLines ∧
      (before.panel.filterLoaded codec = .ok before.panel.filteredLines →
        reloaded.panel.filteredLines = before.panel.filteredLines) := by
  intro before reloaded
  have loadable : before.panel.Loadable := after_loadable (.of_empty rfl rfl) history
  have same := text.load_export shown loadable.fewer loadable.filtered
  have reload : reloaded.panel = LogPanel.applyFilters codec { before.panel with
      logPath := destination
      loadedLines := before.panel.filteredLines } := by
    have written : before.exportFiltered text destination = before.writeFile destination
        (some (text.exportLogLines before.panel.filteredLines)) := by
      unfold exportFiltered
      rw [if_neg shown, if_neg answered]
    change LogPanel.load codec { (before.exportFiltered text destination).panel with
      logPath := destination } text (before.exportFiltered text destination).files = _
    rw [written]
    unfold LogPanel.load
    rw [named, if_neg answered]
    simp only [writeFile, if_true]
    rw [same]
  rw [reload]
  constructor
  · unfold LogPanel.applyFilters
    split <;> rfl
  · intro current
    have again : LogPanel.filterLoaded codec { before.panel with
        logPath := destination
        loadedLines := before.panel.filteredLines } = .ok before.panel.filteredLines :=
      LogCodec.filterLogLines_again current
    unfold LogPanel.applyFilters
    rw [again]

/-! The second of two lines is searched for. -/

/-- As the standard library is on text in UTF-8. -/
def plainText : TextCodec where
  decodeReplace bytes := (Utf8.decode bytes).getD "\uFFFD"
  separator := .crlf
  exact text := by rw [Utf8.decode_encode, Option.getD_some]

def searches : List LogAction :=
  [.outside "tcp-sim.log" (some (Utf8.encode "alpha\r\nbeta".toList)), .setSearch "B", .load]

theorem searches_shows : (({ files := fun _ => none } : LogSession).after warningCodec plainText
    searches).panel.filteredLines = ["beta"] := by
  decide +kernel

theorem export_reload_searched :
    let before := ({ files := fun _ => none } : LogSession).after warningCodec plainText searches
    let reloaded := before.after warningCodec plainText
      [.exportFiltered "out.log", .setPath "out.log", .load]
    before.panel.filteredLines = ["beta"] ∧
      reloaded.panel.loadedLines = before.panel.filteredLines ∧
      (before.panel.filterLoaded warningCodec = .ok before.panel.filteredLines →
        reloaded.panel.filteredLines = before.panel.filteredLines) :=
  ⟨searches_shows, export_reload warningCodec plainText _ searches (by decide +kernel) (by decide)
    (by rw [searches_shows]; decide)⟩

end LogSession

end TcpSim.Gui
