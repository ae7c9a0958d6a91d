import TcpSim.Lib.Utf8

/-! Text files in UTF-8: line breaks are written as the platform has them, and all of them are
read as `\n`. -/

set_option autoImplicit false

namespace TextFiles

/-- `os.linesep`. -/
inductive LineSeparator where
  | lf
  | crlf
  deriving DecidableEq, Repr

def LineSeparator.text : LineSeparator → List Char
  | .lf => ['\n']
  | .crlf => ['\r', '\n']

def writeBreaks (separator : LineSeparator) (text : List Char) : List Char :=
  text.flatMap fun character => if character = '\n' then separator.text else [character]

def universalNewlines : List Char → List Char
  | [] => []
  | '\r' :: '\n' :: rest => '\n' :: universalNewlines rest
  | '\r' :: rest => '\n' :: universalNewlines rest
  | character :: rest => character :: universalNewlines rest

/-- The bytes of `write_text(text, encoding="utf-8")`. -/
def write (separator : LineSeparator) (text : String) : List UInt8 :=
  Utf8.encode (writeBreaks separator text.toList)

/-- `read_text(encoding="utf-8")`; `none` is the `UnicodeDecodeError`. -/
def read (bytes : List UInt8) : Option String :=
  (Utf8.decode bytes).map fun text => String.ofList (universalNewlines text.toList)

theorem universalNewlines_cons {character : Char} (other : character ≠ '\r') (rest : List Char) :
    universalNewlines (character :: rest) = character :: universalNewlines rest := by
  rw [universalNewlines]
  · intro tail same
    exact absurd same other
  · exact other

/-- Carriage returns apart, which are read as line breaks, what is written is read back. -/
theorem universalNewlines_writeBreaks (separator : LineSeparator) {text : List Char}
    (noReturn : '\r' ∉ text) : universalNewlines (writeBreaks separator text) = text := by
  induction text with
  | nil => rfl
  | cons character rest ih =>
      obtain ⟨other, restNoReturn⟩ := List.ne_and_not_mem_of_not_mem_cons noReturn
      have later := ih restNoReturn
      unfold writeBreaks at later ⊢
      rw [List.flatMap_cons]
      by_cases isBreak : character = '\n'
      · rw [if_pos isBreak, isBreak]
        cases separator with
        | lf => exact (universalNewlines_cons (by decide) _).trans (congrArg _ later)
        | crlf => exact congrArg ('\n' :: ·) later
      · rw [if_neg isBreak]
        exact (universalNewlines_cons other.symm _).trans (congrArg _ later)

theorem read_write (separator : LineSeparator) {text : String} (noReturn : '\r' ∉ text.toList) :
    read (write separator text) = some text := by
  unfold read write
  have encoded := Utf8.decode_encode (String.ofList (writeBreaks separator text.toList))
  rw [String.toList_ofList] at encoded
  rw [encoded, Option.map_some, String.toList_ofList, universalNewlines_writeBreaks separator noReturn,
    String.ofList_toList]

end TextFiles
