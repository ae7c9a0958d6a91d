import TcpSim.Gui.LoadRecords
import TcpSim.Lib.Binary64
import TcpSim.Lib.CivilTime
import TcpSim.Lib.Splitting

/-! Timestamps of rows in ISO 8601 form, and what is sent in their place. Instants are whole
microseconds, seconds are doubles. -/

set_option autoImplicit false

namespace TcpSim.Engine

open CivilTime Splitting

/-! ## Instants -/

/-- The microseconds of the years 1 to 9999. -/
def endOfTime : Nat := 3652059 * 86400 * 1000000

/-- A `datetime` of one time zone, by the microseconds since 0001-01-01T00:00:00. -/
structure DateTime where
  micros : Nat
  valid : micros < endOfTime
  deriving DecidableEq, Repr

inductive TimestampError where
  | valueError (text : String)
  | overflowError
  deriving DecidableEq, Repr

namespace DateTime

@[ext] theorem ext {first second : DateTime} (same : first.micros = second.micros) : first = second := by
  cases first
  cases second
  cases same
  rfl

def sub (self other : DateTime) : Int := (self.micros : Int) - other.micros

def add (self : DateTime) (span : Int) : Except TimestampError DateTime :=
  let micros := self.micros + span
  if fits : 0 ≤ micros ∧ micros < endOfTime then .ok { micros := micros.toNat, valid := by omega }
  else .error .overflowError

theorem add_of_fits {self : DateTime} {span : Int}
    (fits : 0 ≤ self.micros + span ∧ self.micros + span < endOfTime) :
    ∃ sum, self.add span = .ok sum ∧ (sum.micros : Int) = self.micros + span := by
  rw [add, dif_pos fits]
  exact ⟨_, rfl, Int.toNat_of_nonneg fits.1⟩

theorem add_eq_ok {self sum : DateTime} {span : Int} (added : self.add span = .ok sum) :
    (0 ≤ self.micros + span ∧ self.micros + span < endOfTime) ∧
      (sum.micros : Int) = self.micros + span := by
  unfold add at added
  dsimp only at added
  split at added
  next fits =>
      cases added
      exact ⟨fits, Int.toNat_of_nonneg fits.1⟩
  next => cases added

theorem add_zero (self : DateTime) : self.add 0 = .ok self := by
  have valid := self.valid
  obtain ⟨sum, added, same⟩ := @add_of_fits self 0 (by omega)
  rw [added]
  exact congrArg Except.ok (DateTime.ext (by omega))

end DateTime

/-! ## Seconds -/

def totalSeconds (span : Int) : ℚ := Binary64.ofRat (span / 1000000)

/-- `timedelta(seconds=seconds)`: only the fraction of the seconds is multiplied as a double. -/
def timedeltaSeconds (seconds : ℚ) : Int :=
  let whole := truncate seconds
  roundHalfEven (whole * 1000000 + Binary64.ofRat (1000000 * (seconds - whole)))

/-- The microseconds of a time span that its seconds have lost. -/
def lost (span : Int) : Int := span - timedeltaSeconds (totalSeconds span)

/-- Below `2 ^ 33` seconds, which are 272 years, doubles lie close enough together. -/
theorem timedeltaSeconds_totalSeconds {span : Int} (short : |span| < 2 ^ 33 * 1000000) :
    timedeltaSeconds (totalSeconds span) = span := by
  have below : |(span : ℚ) / 1000000| < 2 ^ (33 : Int) := by
    rw [abs_div, abs_of_pos (by norm_num : (0 : ℚ) < 1000000), div_lt_iff₀ (by norm_num)]
    exact_mod_cast short
  have seconds := Binary64.abs_ofRat_sub_le_of_lt below
  unfold timedeltaSeconds totalSeconds
  generalize Binary64.ofRat (span / 1000000) = double at seconds
  dsimp only
  have fraction : |1000000 * (double - truncate double)| < 2 ^ (20 : Int) := by
    have one := abs_sub_truncate_lt double
    rw [abs_mul, abs_of_pos (by norm_num : (0 : ℚ) < 1000000)]
    norm_num
    linarith
  have product := Binary64.abs_ofRat_sub_le_of_lt fraction
  apply roundHalfEven_of_near
  norm_num at seconds product
  rw [abs_le] at seconds product
  rw [abs_lt]
  constructor <;> linarith

theorem lost_of_short {span : Int} (short : |span| < 2 ^ 33 * 1000000) : lost span = 0 := by
  rw [lost, timedeltaSeconds_totalSeconds short, sub_self]

/-! ## Text -/

def zulu : Separator Char where
  symbols := ['Z']
  ne_nil := List.cons_ne_nil _ _

def utcOffset : Separator Char where
  symbols := ['+', '0', '0', ':', '0', '0']
  ne_nil := List.cons_ne_nil _ _

/-- Date and time of day; the microseconds only if there are any. -/
def DateTime.localText (self : DateTime) : List Char :=
  let date := Date.ofOrdinal (self.micros / 86400000000 + 1)
  let second := self.micros / 1000000 % 86400
  let micro := self.micros % 1000000
  numeral 4 date.year ++ '-' :: numeral 2 date.month ++ '-' :: numeral 2 date.day ++
    'T' :: numeral 2 (second / 3600) ++ ':' :: numeral 2 (second / 60 % 60) ++
    ':' :: numeral 2 (second % 60) ++ (if micro = 0 then [] else '.' :: numeral 6 micro)

/-- `isoformat` in UTC. -/
def DateTime.isoformat (self : DateTime) : List Char := self.localText ++ utcOffset.symbols

/-- `format_timestamp` for `FORMAT_ISO8601`. -/
def formatTimestamp (value : DateTime) : String :=
  String.ofList (replace utcOffset zulu.symbols value.isoformat)

/-- The instant that a text of that form stands for, by the positions of its parts. -/
def readLocalText (text : List Char) : Nat :=
  let field (start stop : Nat) := readNumeral ((text.drop start).take (stop - start))
  let date : Date := { year := field 0 4, month := field 5 7, day := field 8 10 }
  let second := field 11 13 * 3600 + field 14 16 * 60 + field 17 19
  let micro := if text[19]? = some '.' then field 20 26 else 0
  ((date.toOrdinal - 1) * 86400 + second) * 1000000 + micro

theorem numeral_two {n : Nat} (small : n < 100) :
    ∃ a b, numeral 2 n = [a, b] ∧ readNumeral [a, b] = n :=
  ⟨_, _, rfl, @readNumeral_numeral 2 n small⟩

theorem numeral_four {n : Nat} (small : n < 10000) :
    ∃ a b c d, numeral 4 n = [a, b, c, d] ∧ readNumeral [a, b, c, d] = n :=
  ⟨_, _, _, _, rfl, @readNumeral_numeral 4 n small⟩

theorem numeral_six {n : Nat} (small : n < 1000000) :
    ∃ a b c d e f, numeral 6 n = [a, b, c, d, e, f] ∧ readNumeral [a, b, c, d, e, f] = n :=
  ⟨_, _, _, _, _, _, rfl, @readNumeral_numeral 6 n small⟩

/-- Nothing is lost, whatever follows the text. -/
theorem DateTime.readLocalText_localText (self : DateTime) {first : Char} (rest : List Char)
    (notDot : first ≠ '.') : readLocalText (self.localText ++ first :: rest) = self.micros := by
  have small := self.valid
  unfold endOfTime at small
  have date := Date.ofOrdinal_small (Nat.succ_pos (self.micros / 86400000000)) (by omega)
  have ordinal := Date.toOrdinal_ofOrdinal (Nat.succ_pos (self.micros / 86400000000))
  unfold localText
  dsimp only
  generalize Date.ofOrdinal (self.micros / 86400000000 + 1) = day at date ordinal ⊢
  generalize ofDay : self.micros / 1000000 % 86400 = clock
  obtain ⟨y1, y2, y3, y4, year, yearRead⟩ := numeral_four date.1
  obtain ⟨m1, m2, month, monthRead⟩ := numeral_two date.2.1
  obtain ⟨d1, d2, dayOfMonth, dayRead⟩ := numeral_two date.2.2
  obtain ⟨h1, h2, hour, hourRead⟩ := numeral_two (show clock / 3600 < 100 by omega)
  obtain ⟨n1, n2, minute, minuteRead⟩ := numeral_two (show clock / 60 % 60 < 100 by omega)
  obtain ⟨s1, s2, second, secondRead⟩ := numeral_two (show clock % 60 < 100 by omega)
  obtain ⟨u1, u2, u3, u4, u5, u6, micro, microRead⟩ :=
    numeral_six (show self.micros % 1000000 < 1000000 by omega)
  rw [year, month, dayOfMonth, hour, minute, second, micro]
  by_cases whole : self.micros % 1000000 = 0
  · rw [if_pos whole]
    simp only [readLocalText, List.append_nil, List.cons_append, List.nil_append]
    simp [yearRead, monthRead, dayRead, hourRead, minuteRead, secondRead, notDot, ordinal]
    omega
  · rw [if_neg whole]
    simp only [readLocalText, List.cons_append, List.nil_append]
    simp [yearRead, monthRead, dayRead, hourRead, minuteRead, secondRead, microRead, ordinal]
    omega

/-- Digits, and four marks between them. -/
theorem DateTime.mem_localText {self : DateTime} {character : Char}
    (member : character ∈ self.localText) :
    character.isDigit = true ∨ character ∈ ['-', 'T', ':', '.'] := by
  unfold localText at member
  simp only [List.mem_append, List.mem_cons] at member ⊢
  have digit := @isDigit_of_mem_numeral
  grind

theorem DateTime.not_mem_localText (self : DateTime) {character : Char}
    (noDigit : character.isDigit = false) (noMark : character ∉ ['-', 'T', ':', '.']) :
    character ∉ self.localText := by
  intro member
  rcases mem_localText member with digit | mark
  · rw [noDigit] at digit
    cases digit
  · exact noMark mark

theorem formatTimestamp_toList (value : DateTime) :
    (formatTimestamp value).toList = value.localText ++ ['Z'] := by
  have absent : '+' ∉ value.localText := value.not_mem_localText (by decide) (by decide)
  rw [formatTimestamp, String.toList_ofList, DateTime.isoformat]
  exact replace_of_last rfl absent ['Z']

/-- The instant can be told from what is sent. -/
theorem formatTimestamp_injective {first second : DateTime}
    (same : formatTimestamp first = formatTimestamp second) : first = second := by
  have texts := congrArg String.toList same
  rw [formatTimestamp_toList, formatTimestamp_toList] at texts
  have instants := congrArg readLocalText texts
  rw [first.readLocalText_localText [] (by decide), second.readLocalText_localText [] (by decide)] at instants
  exact DateTime.ext instants

theorem isSpace_of_isDigit {character : Char} (digit : character.isDigit = true) :
    Gui.isSpace character = false := by
  obtain ⟨low, high⟩ := Char.isDigit_iff_toNat.mp digit
  have zero : '0'.toNat = 48 := rfl
  have nine : '9'.toNat = 57 := rfl
  have code : character.val.toNat = character.toNat := rfl
  simp only [Gui.isSpace, code, Bool.or_eq_false_iff, Bool.and_eq_false_iff, decide_eq_false_iff_not]
  omega

theorem strip_of_visible {text : String}
    (visible : ∀ character ∈ text.toList, Gui.isSpace character = false) : Gui.strip text = text := by
  have kept : ∀ characters : List Char, (∀ character ∈ characters, Gui.isSpace character = false) →
      characters.dropWhile Gui.isSpace = characters := by
    intro characters all
    cases characters with
    | nil => rfl
    | cons head rest => rw [List.dropWhile_cons_of_neg (by simp [all head List.mem_cons_self])]
  rw [Gui.strip, kept _ visible, kept _ fun character member => visible character (List.mem_reverse.mp member),
    List.reverse_reverse, String.ofList_toList]

/-- What `fromisoformat` returns: the local time, and the offset of its time zone if it has one. -/
structure IsoDateTime where
  wallTime : DateTime
  utcoffset : Option Int
  deriving DecidableEq, Repr

/-- `fromisoformat` on the texts that `isoformat` makes; it takes no others. -/
def readIsoformat (text : List Char) : Except TimestampError IsoDateTime :=
  let micros := readLocalText text
  if valid : micros < endOfTime then
    let value : DateTime := { micros, valid }
    if value.isoformat = text then .ok { wallTime := value, utcoffset := some 0 }
    else .error (.valueError ("Invalid isoformat string: '" ++ String.ofList text ++ "'"))
  else .error (.valueError ("Invalid isoformat string: '" ++ String.ofList text ++ "'"))

theorem readIsoformat_isoformat (value : DateTime) :
    readIsoformat value.isoformat = .ok { wallTime := value, utcoffset := some 0 } := by
  have reads : readLocalText value.isoformat = value.micros :=
    value.readLocalText_localText ['0', '0', ':', '0', '0'] (by decide)
  have valid : readLocalText value.isoformat < endOfTime := reads ▸ value.valid
  have same : (⟨readLocalText value.isoformat, valid⟩ : DateTime) = value := DateTime.ext reads
  rw [readIsoformat, dif_pos valid]
  simp only [same, if_true]

section Parse

variable (fromisoformat : List Char → Except TimestampError IsoDateTime)

/-- `parse_timestamp` for `FORMAT_ISO8601`. -/
def parseTimestamp (rawValue : String) : Except TimestampError DateTime := do
  let normalized := replace zulu utcOffset.symbols (Gui.strip rawValue).toList
  let parsed ← fromisoformat normalized
  parsed.wallTime.add (-parsed.utcoffset.getD 0)

variable {fromisoformat} in
theorem parseTimestamp_of_reads {rawValue : String} {parsed : IsoDateTime}
    (reads : fromisoformat (replace zulu utcOffset.symbols (Gui.strip rawValue).toList) = .ok parsed) :
    parseTimestamp fromisoformat rawValue = parsed.wallTime.add (-parsed.utcoffset.getD 0) := by
  rw [parseTimestamp, reads]
  rfl

/-- What is formatted is parsed to the same instant. -/
theorem parseTimestamp_formatTimestamp {value : DateTime}
    (reads : fromisoformat value.isoformat = .ok { wallTime := value, utcoffset := some 0 }) :
    parseTimestamp fromisoformat (formatTimestamp value) = .ok value := by
  have visible : ∀ character ∈ (formatTimestamp value).toList, Gui.isSpace character = false := by
    intro character member
    rw [formatTimestamp_toList, List.mem_append, List.mem_singleton] at member
    rcases member with inside | rfl
    · rcases DateTime.mem_localText inside with digit | mark
      · exact isSpace_of_isDigit digit
      · simp only [List.mem_cons, List.not_mem_nil, or_false] at mark
        rcases mark with rfl | rfl | rfl | rfl
        · decide
        · decide
        · decide
        · decide
    · decide
  have absent : 'Z' ∉ value.localText := value.not_mem_localText (by decide) (by decide)
  have normalized : replace zulu utcOffset.symbols (value.localText ++ ['Z']) = value.isoformat :=
    replace_of_last rfl absent utcOffset.symbols
  rw [← normalized, ← formatTimestamp_toList, ← strip_of_visible visible] at reads
  rw [parseTimestamp_of_reads reads]
  exact value.add_zero

/-! ## The rewriter -/

structure TimestampRewriter where
  baseOriginal : Option DateTime := none
  baseMonotonic : Option ℚ := none

/-- What the clocks show at a call. -/
structure Readings where
  monotonic : ℚ := 0
  now : DateTime

def TimestampRewriter.based (self : TimestampRewriter) (parsed : DateTime) (monotonic : ℚ) :
    TimestampRewriter :=
  match self.baseOriginal with
  | none => { baseOriginal := some parsed, baseMonotonic := some monotonic }
  | some _ => self

def TimestampRewriter.rewrite (self : TimestampRewriter) (rawValue : String) (readings : Readings) :
    Except TimestampError String × TimestampRewriter :=
  match parseTimestamp fromisoformat rawValue with
  | .error error => (.error error, self)
  | .ok parsed =>
      let based := self.based parsed readings.monotonic
      let offsetSeconds := totalSeconds (parsed.sub (based.baseOriginal.getD parsed))
      ((readings.now.add (timedeltaSeconds offsetSeconds)).map formatTimestamp, based)

/-! ## Runs -/

/-- A call for a row whose timestamp is in ISO 8601 form. -/
structure Row where
  raw : String
  readings : Readings
  original : DateTime
  parses : parseTimestamp fromisoformat raw = .ok original

namespace TimestampRewriter

variable {fromisoformat} (self : TimestampRewriter)

/-- What one rewriter returns, called for one row after the other. -/
def rewriteAll (self : TimestampRewriter) :
    List (Row fromisoformat) → List (Except TimestampError String)
  | [] => []
  | row :: rest =>
      let (result, next) := self.rewrite fromisoformat row.raw row.readings
      result :: next.rewriteAll rest

/-- Every row is rewritten, and the differences of any two are those of the originals. -/
def PreservesOffsets (rows : List (Row fromisoformat)) : Prop :=
  ∀ (i j : Nat) (row other : Row fromisoformat), rows[i]? = some row → rows[j]? = some other →
    ∃ rewritten rewrittenOther : DateTime,
      (rewriteAll {} rows)[i]? = some (.ok (formatTimestamp rewritten)) ∧
      (rewriteAll {} rows)[j]? = some (.ok (formatTimestamp rewrittenOther)) ∧
      rewritten.sub rewrittenOther = row.original.sub other.original

/-- What is added to the reading of the clock. -/
def shift (base : DateTime) (row : Row fromisoformat) : Int :=
  timedeltaSeconds (totalSeconds (row.original.sub base))

def resultFrom (base : DateTime) (row : Row fromisoformat) : Except TimestampError String :=
  (row.readings.now.add (shift base row)).map formatTimestamp

theorem rewrite_row (row : Row fromisoformat) :
    self.rewrite fromisoformat row.raw row.readings =
      (resultFrom ((self.based row.original row.readings.monotonic).baseOriginal.getD row.original) row,
        self.based row.original row.readings.monotonic) := by
  simp only [rewrite, row.parses, resultFrom, shift]

theorem based_of_some {base : DateTime} (isBase : self.baseOriginal = some base) (parsed : DateTime)
    (monotonic : ℚ) : self.based parsed monotonic = self := by
  rw [based, isBase]

theorem rewriteAll_of_base {base : DateTime} (isBase : self.baseOriginal = some base)
    (rows : List (Row fromisoformat)) : self.rewriteAll rows = rows.map (resultFrom base) := by
  induction rows with
  | nil => rfl
  | cons row rest ih =>
      rw [rewriteAll, rewrite_row, self.based_of_some isBase, isBase]
      exact congrArg (resultFrom base row :: ·) ih

/-- The first row is the base of all. -/
theorem rewriteAll_new (first : Row fromisoformat) (rest : List (Row fromisoformat)) :
    rewriteAll {} (first :: rest) = (first :: rest).map (resultFrom first.original) := by
  rw [rewriteAll, rewrite_row]
  exact congrArg (resultFrom first.original first :: ·) (rewriteAll_of_base _ rfl rest)

/-- The sum that is made for the row is a `datetime`. -/
def Fits (base : DateTime) (row : Row fromisoformat) : Prop :=
  0 ≤ row.readings.now.micros + shift base row ∧
    row.readings.now.micros + shift base row < endOfTime

theorem resultFrom_eq_ok {base rewritten : DateTime} {row : Row fromisoformat} :
    resultFrom base row = .ok (formatTimestamp rewritten) ↔
      Fits base row ∧ (rewritten.micros : Int) = row.readings.now.micros + shift base row := by
  unfold resultFrom
  constructor
  · intro returned
    cases added : row.readings.now.add (shift base row) with
    | error error =>
        rw [added] at returned
        cases returned
    | ok sum =>
        rw [added] at returned
        obtain rfl := formatTimestamp_injective (Except.ok.inj returned)
        exact DateTime.add_eq_ok added
  · intro both
    obtain ⟨sum, added, same⟩ := DateTime.add_of_fits both.1
    have equal : sum = rewritten := DateTime.ext (by omega)
    rw [added, equal]
    rfl

/-- The clock has gone on since the first row by what the seconds of the row's offset have lost. -/
def MakesUp (first row : Row fromisoformat) : Prop :=
  row.readings.now.sub first.readings.now = lost (row.original.sub first.original)

theorem shift_first (first : Row fromisoformat) : shift first.original first = 0 := by
  have short : |first.original.sub first.original| < 2 ^ 33 * 1000000 := by
    rw [DateTime.sub, sub_self]
    decide
  rw [shift, timedeltaSeconds_totalSeconds short, DateTime.sub, sub_self]

theorem PreservesOffsets.makesUp {first row : Row fromisoformat} {rest : List (Row fromisoformat)}
    (preserves : PreservesOffsets (first :: rest)) (member : row ∈ first :: rest) :
    MakesUp first row ∧ Fits first.original row := by
  obtain ⟨i, inside, isRow⟩ := List.getElem_of_mem member
  have found : (first :: rest)[i]? = some row := isRow ▸ List.getElem?_eq_getElem inside
  obtain ⟨sum, start, atRow, atFirst, same⟩ := preserves i 0 row first found rfl
  rw [rewriteAll_new, List.getElem?_map] at atRow atFirst
  rw [found] at atRow
  obtain ⟨fits, made⟩ := resultFrom_eq_ok.mp (Option.some.inj atRow)
  obtain ⟨_, begun⟩ := resultFrom_eq_ok.mp (Option.some.inj atFirst)
  have still := shift_first first
  refine ⟨?_, fits⟩
  unfold MakesUp lost
  unfold shift at made begun still
  unfold DateTime.sub at made begun still same ⊢
  omega

theorem preservesOffsets_of_makesUp {first : Row fromisoformat} {rest : List (Row fromisoformat)}
    (holds : ∀ row ∈ first :: rest, MakesUp first row ∧ Fits first.original row) :
    PreservesOffsets (first :: rest) := by
  intro i j row other atRow atOther
  obtain ⟨now, fits⟩ := holds row (List.mem_of_getElem? atRow)
  obtain ⟨otherNow, otherFits⟩ := holds other (List.mem_of_getElem? atOther)
  obtain ⟨sum, _, made⟩ := DateTime.add_of_fits fits
  obtain ⟨otherSum, _, otherMade⟩ := DateTime.add_of_fits otherFits
  rw [rewriteAll_new, List.getElem?_map, List.getElem?_map, atRow, atOther]
  refine ⟨sum, otherSum, ?_, ?_, ?_⟩
  · rw [Option.map_some, resultFrom_eq_ok.mpr ⟨fits, made⟩]
  · rw [Option.map_some, resultFrom_eq_ok.mpr ⟨otherFits, otherMade⟩]
  · unfold MakesUp lost at now otherNow
    unfold shift at made otherMade
    unfold DateTime.sub at now otherNow made otherMade ⊢
    omega

theorem makesUp_iff_of_short {first row : Row fromisoformat}
    (short : |row.original.sub first.original| < 2 ^ 33 * 1000000) :
    MakesUp first row ↔ row.readings.now = first.readings.now := by
  rw [MakesUp, lost_of_short short, DateTime.sub, sub_eq_zero, Int.natCast_inj]
  exact ⟨DateTime.ext, congrArg DateTime.micros⟩

/-- The offsets are preserved exactly when each row's reading of the wall clock makes up for what
its offset has lost, and its sum stays within the years 1 to 9999. Where all offsets are below
`2 ^ 33` seconds nothing is lost: then all rows are rewritten at one reading. -/
theorem rewrite_preserves_offsets_iff (rows : List (Row fromisoformat)) :
    (PreservesOffsets rows ↔
      ∀ first ∈ rows.head?, ∀ row ∈ rows, MakesUp first row ∧ Fits first.original row) ∧
    ((∀ first ∈ rows.head?, ∀ row ∈ rows, |row.original.sub first.original| < 2 ^ 33 * 1000000) →
      (PreservesOffsets rows ↔
        ∀ first ∈ rows.head?, ∀ row ∈ rows,
          row.readings.now = first.readings.now ∧ Fits first.original row)) := by
  have exactly : PreservesOffsets rows ↔
      ∀ first ∈ rows.head?, ∀ row ∈ rows, MakesUp first row ∧ Fits first.original row := by
    cases rows with
    | nil => simp [PreservesOffsets]
    | cons first rest =>
        simp only [List.head?_cons, Option.mem_some_iff, forall_eq']
        exact ⟨fun preserves row member => preserves.makesUp member, preservesOffsets_of_makesUp⟩
  refine ⟨exactly, fun short => exactly.trans ?_⟩
  refine forall₂_congr fun first isFirst => forall₂_congr fun row member => ?_
  rw [makesUp_iff_of_short (short first isFirst row member)]

end TimestampRewriter

end Parse

namespace TimestampRewriter

/-- 2026-04-02T10:00:00Z, and a number of seconds more. -/
def morning (seconds : Fin 60) : DateTime where
  micros := (63910720800 + seconds) * 1000000
  valid := by unfold endOfTime; omega

def morningRow (seconds : Fin 60) : Row readIsoformat where
  raw := "2026-04-02T10:00:00Z"
  readings := { monotonic := seconds, now := morning seconds }
  original := morning 0
  parses := by
    have text : formatTimestamp (morning 0) = "2026-04-02T10:00:00Z" := by decide +kernel
    rw [← text]
    exact parseTimestamp_formatTimestamp _ (readIsoformat_isoformat _)

/-- Two rows of one instant, a second apart. -/
theorem offsets_not_preserved :
    ¬ ∀ rows : List (Row readIsoformat),
      rows.Pairwise (fun row next => row.readings.now.micros ≤ next.readings.now.micros) →
        PreservesOffsets rows := by
  intro preserves
  have kept := (preserves [morningRow 0, morningRow 1] (by decide +kernel)).makesUp
    (List.mem_cons_of_mem _ List.mem_cons_self)
  have together : (morningRow 1).readings.now = (morningRow 0).readings.now :=
    (makesUp_iff_of_short (by decide +kernel)).mp kept.1
  exact absurd together (by decide +kernel)

end TimestampRewriter

end TcpSim.Engine
