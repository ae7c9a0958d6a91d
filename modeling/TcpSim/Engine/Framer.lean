import TcpSim.Lib.Splitting

/-! Record framer for TCP receiver streams: bytes in, framed records out. -/

set_option autoImplicit false

namespace TcpSim.Engine

abbrev Bytes := List UInt8

/-- How incoming byte streams are split into records. -/
inductive FramingMode where
  | lf
  | crlf
  | rawChunk
  deriving DecidableEq, Repr

def lfSeparator : Splitting.Separator UInt8 := ⟨[0x0A], by simp⟩

def crlfSeparator : Splitting.Separator UInt8 := ⟨[0x0D, 0x0A], by simp⟩

/-- `_SEPARATORS`; raw-chunk mode has no entry. -/
def separators : FramingMode → Option (Splitting.Separator UInt8)
  | .lf => some lfSeparator
  | .crlf => some crlfSeparator
  | .rawChunk => none

/-- A single record; `truncated` when it was cut off at `max_record_bytes`. -/
structure FramedRecord where
  payload : Bytes
  truncated : Bool := false
  deriving DecidableEq, Repr

structure Framer where
  mode : FramingMode
  max : Nat
  buf : Bytes := []
  /-- Set from the early emission of an oversized record to its separator. -/
  overflow : Bool := false
  max_pos : 0 < max

/-- The constructor; the cap is a Python integer and is checked here only. -/
def Framer.init (mode : FramingMode) (maxRecordBytes : Int) : Except String Framer :=
  if positive : maxRecordBytes ≤ 0 then .error "max_record_bytes must be > 0"
  else .ok { mode, max := maxRecordBytes.toNat, max_pos := by omega }

def Framer.bufferedBytes (self : Framer) : Nat := self.buf.length

/-- `_clamp`, for a framer whose cap is `max`. -/
def clamp (max : Nat) (raw : Bytes) : FramedRecord :=
  if raw.length > max then { payload := raw.take max, truncated := true }
  else { payload := raw, truncated := false }

/-- The `while True` loop of `feed` on `rest = buf[start:]`: the records it
appends, the overflow flag it leaves and the tail that stays buffered. -/
def feedLoop (sep : Splitting.Separator UInt8) (max : Nat) (overflow : Bool) (rest : Bytes) :
    List FramedRecord × Bool × Bytes :=
  match _found : Splitting.cut? sep rest with
  | none => ([], overflow, rest)
  | some (raw, rest) =>
      if overflow then
        -- The truncated record was emitted by an earlier feed.
        feedLoop sep max false rest
      else
        let (out, state) := feedLoop sep max false rest
        (clamp max raw :: out, state)
termination_by rest.length
decreasing_by all_goals exact Splitting.cut?_length_lt _found

/-- Consume bytes; return the completed records and the framer afterwards. -/
def Framer.feed (self : Framer) (data : Bytes) : List FramedRecord × Framer :=
  if data = [] then ([], self)
  else
    match separators self.mode with
    | none => ([clamp self.max data], self)
    | some sep =>
        let (out, overflow, tail) := feedLoop sep self.max self.overflow (self.buf ++ data)
        if !overflow && tail.length > self.max then
          (out ++ [{ payload := tail.take self.max, truncated := true }],
            { self with buf := [], overflow := true })
        else (out, { self with buf := tail, overflow })

/-- Emit any remaining buffered bytes as a final record. -/
def Framer.flush (self : Framer) : Option FramedRecord × Framer :=
  match self.mode with
  | .rawChunk => (none, self)
  | _ =>
      if self.overflow then (none, { self with buf := [], overflow := false })
      else if self.buf = [] then (none, self)
      else (some (clamp self.max self.buf), { self with buf := [] })

def Framer.reset (self : Framer) : Framer := { self with buf := [], overflow := false }

def Framer.feedAll (self : Framer) : List Bytes → List FramedRecord × Framer
  | [] => ([], self)
  | chunk :: chunks =>
      let (out, next) := self.feed chunk
      let (more, last) := next.feedAll chunks
      (out ++ more, last)

/-- Feed a sequence of chunks and flush at the end of the stream. -/
def Framer.frame (self : Framer) (chunks : List Bytes) : List FramedRecord × Framer :=
  let (out, next) := self.feedAll chunks
  let (last, final) := next.flush
  (out ++ last.toList, final)

def Framer.fresh (mode : FramingMode) (max : Nat) (max_pos : 0 < max) : Framer :=
  { mode, max, max_pos }

theorem Framer.init_ok_iff {mode : FramingMode} {maxRecordBytes : Int} {framer : Framer} :
    Framer.init mode maxRecordBytes = .ok framer ↔
      ∃ positive : 0 < maxRecordBytes.toNat,
        framer = Framer.fresh mode maxRecordBytes.toNat positive := by
  unfold Framer.init
  split
  · simp only [reduceCtorEq, false_iff, not_exists]
    omega
  · simp only [Except.ok.injEq]
    constructor
    · intro same
      obtain rfl := same
      exact ⟨by omega, rfl⟩
    · intro valid
      obtain ⟨_, rfl⟩ := valid
      rfl

/-- What the framer makes of one whole record `p`: `p[:max]`, flagged when longer. -/
def referenceRecord (max : Nat) (record : Bytes) : FramedRecord where
  payload := record.take max
  truncated := decide (record.length > max)

/-- The reference: split the whole stream and clamp every record. -/
def referenceFrame (sep : Splitting.Separator UInt8) (max : Nat) (stream : Bytes) :
    List FramedRecord :=
  (Splitting.records sep stream).map (referenceRecord max)

end TcpSim.Engine
