import ShapeCheck.Decimal.Layout
import ShapeCheck.Input.Symbol

/-!
# Errors of reading JSON

Why a text is no JSON document, and the place that a message names: the line and the column of the
last byte that was read or looked at.
-/

namespace ShapeCheck.Json

open Input

/-- Why a text is no JSON document. -/
inductive ReadCause where
  | endInList
  | endInObject
  | endInString
  | endInValue
  | expectedColon
  | expectedListCommaOrEnd
  | expectedObjectCommaOrEnd
  | expectedIdent
  | expectedValue
  | invalidEscape
  | invalidNumber
  | numberOutOfRange
  | exponentOutOfRange
  | invalidCodePoint
  | controlCharacter
  | keyNotString
  | loneSurrogate
  | trailingComma
  | trailingCharacters
  | unexpectedEndOfEscape
  | tooDeep
  | keyNotFinite
  deriving DecidableEq, Repr

/-- The wording of a cause. -/
def ReadCause.message : ReadCause → String
  | .endInList => "EOF while parsing a list"
  | .endInObject => "EOF while parsing an object"
  | .endInString => "EOF while parsing a string"
  | .endInValue => "EOF while parsing a value"
  | .expectedColon => "expected `:`"
  | .expectedListCommaOrEnd => "expected `,` or `]`"
  | .expectedObjectCommaOrEnd => "expected `,` or `\x7d`"
  | .expectedIdent => "expected ident"
  | .expectedValue => "expected value"
  | .invalidEscape => "invalid escape"
  | .invalidNumber => "invalid number"
  | .numberOutOfRange => "number out of range"
  | .exponentOutOfRange => "number out of range"
  | .invalidCodePoint => "invalid unicode code point"
  | .controlCharacter => "control character (\\u0000-\\u001F) found while parsing a string"
  | .keyNotString => "key must be a string"
  | .loneSurrogate => "lone leading surrogate in hex escape"
  | .trailingComma => "trailing comma"
  | .trailingCharacters => "trailing characters"
  | .unexpectedEndOfEscape => "unexpected end of hex escape"
  | .tooDeep => "recursion limit exceeded"
  | .keyNotFinite => "float key must be finite (got NaN or +/-inf)"

/-- An error with the part of the text that had not been read yet, how many bytes of that part had
been looked at all the same, and how many bytes the place lies before all these, on the same line. -/
structure ReadError where
  cause : ReadCause
  rest : List Symbol
  touched : Nat := 0
  back : Nat := 0
  deriving DecidableEq, Repr

/-- How input is taken in: whole lines of text, or a stream in which the byte behind a number has
been taken when the number is judged. -/
inductive Source where
  | line
  | stream
  deriving DecidableEq, Repr

/-- A line and a column, counted in bytes. -/
structure Position where
  line : Nat := 1
  column : Nat := 0
  deriving DecidableEq, Repr

/-- The position behind one more symbol. -/
def Position.step (p : Position) (s : Symbol) : Position :=
  if s = .char '\n' then ⟨p.line + 1, 0⟩ else ⟨p.line, p.column + s.size⟩

/-- The position behind symbols. -/
def Position.steps (p : Position) (symbols : List Symbol) : Position := symbols.foldl .step p

/-- The position behind so many bytes of the text ahead, of which the last may be part of a
character. -/
def Position.touch (p : Position) : Nat → List Symbol → Position
  | 0, _ => p
  | _, [] => p
  | bytes + 1, s :: rest =>
    if s.size ≤ bytes + 1 then (p.step s).touch (bytes + 1 - s.size) rest
    else ⟨p.line, p.column + (bytes + 1)⟩
termination_by _ symbols => symbols.length

namespace ReadError

/-- How many bytes ahead of the text read an error counts. -/
def reach (e : ReadError) (source : Source) : Nat :=
  if e.cause = .numberOutOfRange ∧ source = .stream then 1 else e.touched

/-- The position that an error in a text names. -/
def position (e : ReadError) (source : Source) (text : List Symbol) : Position :=
  let behind :=
    (Position.steps {} (text.take (text.length - e.rest.length))).touch (e.reach source) e.rest
  ⟨behind.line, behind.column - e.back⟩

end ReadError

/-- What is wrong with a document, and where. -/
structure Fault where
  cause : ReadCause
  position : Position
  deriving DecidableEq, Repr

/-- The wording of a fault. -/
def Fault.message (f : Fault) : String :=
  f.cause.message ++ " at line " ++ toString f.position.line ++ " column " ++
    toString f.position.column

/-- The outcome of reading a part of a text: what was read and the rest. -/
abbrev Result (α : Type) := Except ReadError (α × List Symbol)

/-- The error of a byte that was looked at, or of the end. -/
def failAt {α : Type} (cause : ReadCause) (rest : List Symbol) : Except ReadError α :=
  .error ⟨cause, rest, 1, 0⟩

/-- The error of what was read last. -/
def failBehind {α : Type} (cause : ReadCause) (rest : List Symbol) : Except ReadError α :=
  .error ⟨cause, rest, 0, 0⟩

/-- The error of a place so many bytes before what was read last. -/
def failBefore {α : Type} (cause : ReadCause) (back : Nat) (rest : List Symbol) :
    Except ReadError α :=
  .error ⟨cause, rest, 0, back⟩

end ShapeCheck.Json
