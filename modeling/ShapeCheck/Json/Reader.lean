import ShapeCheck.Json.Number
import ShapeCheck.Value.Basic

/-!
# Reading JSON

`read` reads a whole text as one JSON document. Lists and objects nest at most 127 deep. A name that
an object repeats keeps its first place and takes its last value.
-/

namespace ShapeCheck.Json

open Input

/-- Whether a symbol may stand between the tokens of a document. -/
def isSpace (s : Symbol) : Bool :=
  s = .char ' ' || s = .char '\t' || s = .char '\n' || s = .char '\r'

/-- A text without the space at its front. -/
def skipSpace (text : List Symbol) : List Symbol := text.dropWhile isSpace

/-- The outcome of reading a part of a text, as another type. -/
def Result.as {α β : Type} (f : α → β) : Result α → Result β :=
  Except.map fun (a, rest) => (f a, rest)

/-- Reads the rest of a word that stands for a value. -/
def readWord (value : Value) : List Char → List Symbol → Result Value
  | [], text => .ok (value, text)
  | _ :: _, [] => failBehind .endInValue []
  | c :: word, s :: rest =>
    if s = .char c then readWord value word rest else failAt .expectedIdent (s :: rest)

/-- The value of a hexadecimal digit. -/
def hexDigit? : Symbol → Option Nat
  | .char c =>
    if c.isDigit then some (c.toNat - '0'.toNat)
    else if 'a' ≤ c ∧ c ≤ 'f' then some (c.toNat - 'a'.toNat + 10)
    else if 'A' ≤ c ∧ c ≤ 'F' then some (c.toNat - 'A'.toNat + 10)
    else none
  | .stray _ => none

/-- The number that four hexadecimal digits write. -/
def hexValue? (a b c d : Symbol) : Option Nat := do
  let a ← hexDigit? a
  let b ← hexDigit? b
  let c ← hexDigit? c
  let d ← hexDigit? d
  return ((a * 16 + b) * 16 + c) * 16 + d

/-- The number of bytes of symbols. -/
def byteCount (text : List Symbol) : Nat := (text.map Symbol.size).foldr (· + ·) 0

/-- Reads the four bytes of an escaped code. -/
def readCode (text : List Symbol) : Result Nat :=
  match text with
  | a :: b :: c :: d :: rest =>
    match hexValue? a b c d with
    | some n => .ok (n, rest)
    | none => .error { cause := .invalidEscape, rest := text, touched := 4 }
  | _ =>
    if byteCount text < 4 then failBehind .endInString []
    else .error { cause := .invalidEscape, rest := text, touched := 4 }

theorem length_readCode {text rest : List Symbol} {n : Nat} (h : readCode text = .ok (n, rest)) :
    rest.length < text.length := by
  unfold readCode at h
  split at h
  · split at h
    · cases h; simp; omega
    · cases h
  · split at h <;> cases h

/-- Reads the second half of a pair of codes whose first half has been read. -/
def readSecondHalf (first : Nat) (text : List Symbol) : Result Char :=
  match text with
  | [] => failBehind .endInString []
  | .char '\\' :: [] => failBehind .endInString []
  | .char '\\' :: .char 'u' :: rest =>
    match readCode rest with
    | .error e => .error e
    | .ok (second, rest) =>
      if 0xDC00 ≤ second ∧ second ≤ 0xDFFF then
        .ok (Char.ofNat ((first - 0xD800) * 0x400 + (second - 0xDC00) + 0x10000), rest)
      else failBehind .loneSurrogate rest
  | .char '\\' :: rest => failAt .unexpectedEndOfEscape rest
  | rest => failAt .unexpectedEndOfEscape rest

/-- Reads the character of an escaped code, or of a pair of them. -/
def readCodes (text : List Symbol) : Result Char :=
  match readCode text with
  | .error e => .error e
  | .ok (n, rest) =>
    if 0xDC00 ≤ n ∧ n ≤ 0xDFFF then failBehind .loneSurrogate rest
    else if 0xD800 ≤ n ∧ n ≤ 0xDBFF then readSecondHalf n rest
    else .ok (Char.ofNat n, rest)

/-- The character that a letter stands for behind a backslash. -/
def escaped? (c : Char) : Option Char :=
  match c with
  | '"' => some '"'
  | '\\' => some '\\'
  | '/' => some '/'
  | 'b' => some '\x08'
  | 'f' => some '\x0c'
  | 'n' => some '\n'
  | 'r' => some '\r'
  | 't' => some '\t'
  | _ => none

/-- Reads what follows a backslash. -/
def readEscape (text : List Symbol) : Result Char :=
  match text with
  | [] => failBehind .endInString []
  | .char 'u' :: rest => readCodes rest
  | .char c :: rest =>
    match escaped? c with
    | some d => .ok (d, rest)
    | none => failAt .invalidEscape text
  | .stray _ :: _ => failAt .invalidEscape text

theorem length_readSecondHalf {first : Nat} {text rest : List Symbol} {c : Char}
    (h : readSecondHalf first text = .ok (c, rest)) : rest.length < text.length := by
  unfold readSecondHalf at h
  split at h
  · cases h
  · cases h
  · split at h
    · cases h
    · rename_i more _ _ _ hcode
      have := length_readCode hcode
      split at h
      · injection h with h
        injection h with _ h
        subst h
        simp
        omega
      · cases h
  · cases h
  · cases h

theorem length_readCodes {text rest : List Symbol} {c : Char}
    (h : readCodes text = .ok (c, rest)) : rest.length < text.length := by
  unfold readCodes at h
  match hcode : readCode text with
  | .error e => rw [hcode] at h; cases h
  | .ok (n, more) =>
    have := length_readCode hcode
    simp only [hcode] at h
    split at h
    · cases h
    · split at h
      · exact Nat.lt_trans (length_readSecondHalf h) this
      · injection h with h
        injection h with _ h
        exact h ▸ this

theorem length_readEscape {text rest : List Symbol} {c : Char}
    (h : readEscape text = .ok (c, rest)) : rest.length < text.length := by
  unfold readEscape at h
  split at h
  · cases h
  · have := length_readCodes h; simp; omega
  · split at h
    · cases h; simp
    · cases h
  · cases h

/-- Reads what a string says, from behind its opening quote on. -/
def readSymbols (text : List Symbol) : Result (List Symbol) :=
  match text with
  | [] => failBehind .endInString []
  | .char '"' :: rest => .ok ([], rest)
  | .char '\\' :: rest =>
    match h : readEscape rest with
    | .error e => .error e
    | .ok (c, more) =>
      have : more.length < rest.length := length_readEscape h
      (readSymbols more).as (.char c :: ·)
  | .char c :: rest =>
    if c.toNat < 0x20 then failAt .controlCharacter text
    else (readSymbols rest).as (.char c :: ·)
  | .stray b :: rest => (readSymbols rest).as (.stray b :: ·)
termination_by text.length

/-- Reads a string behind its opening quote. A byte that belongs to no character is an error once the
string has come to its end. Its place is found by going back from there over what the string says, of
which an escaped character has fewer bytes than its escape. -/
def readString (text : List Symbol) : Result (List Char) :=
  match readSymbols text with
  | .error e => .error e
  | .ok (symbols, rest) =>
    match chars? symbols with
    | some chars => .ok (chars, rest)
    | none => failBefore .invalidCodePoint (byteCount (symbols.dropWhile (·.isChar))) rest

/-- Reads the items of a list from an item on, each by `read`. There are at most `bound` items. -/
def readItems (read : List Symbol → Result Value) : Nat → List Symbol → Result (List Value)
  | 0, text => failAt .endInList text
  | bound + 1, text =>
    match read text with
    | .error e => .error e
    | .ok (item, rest) =>
      match skipSpace rest with
      | [] => failAt .endInList []
      | .char ']' :: more => .ok ([item], more)
      | .char ',' :: more =>
        match skipSpace more with
        | .char ']' :: more => failAt .trailingComma (.char ']' :: more)
        | next => (readItems read bound next).as (item :: ·)
      | more => failAt .expectedListCommaOrEnd more

/-- Reads a list behind its opening bracket. -/
def readList (read : List Symbol → Result Value) (bound : Nat) (text : List Symbol) :
    Result (List Value) :=
  match skipSpace text with
  | [] => failAt .endInList []
  | .char ']' :: rest => .ok ([], rest)
  | rest => readItems read bound rest

/-- Reads a colon and the value behind it. -/
def readMember (read : List Symbol → Result Value) (text : List Symbol) : Result Value :=
  match skipSpace text with
  | [] => failAt .endInObject []
  | .char ':' :: rest => read rest
  | rest => failAt .expectedColon rest

/-- Reads the properties of an object from behind the opening quote of a name on. There are at most
`bound` properties. -/
def readProperties (read : List Symbol → Result Value) :
    Nat → List Symbol → Result (List (String × Value))
  | 0, text => failAt .endInObject text
  | bound + 1, text =>
    match readString text with
    | .error e => .error e
    | .ok (name, rest) =>
      match readMember read rest with
      | .error e => .error e
      | .ok (value, rest) =>
        match skipSpace rest with
        | [] => failAt .endInObject []
        | .char '\x7d' :: more => .ok ([(String.ofList name, value)], more)
        | .char ',' :: more =>
          match skipSpace more with
          | [] => failAt .endInValue []
          | .char '"' :: next =>
            (readProperties read bound next).as ((String.ofList name, value) :: ·)
          | .char '\x7d' :: more => failAt .trailingComma (.char '\x7d' :: more)
          | more => failAt .keyNotString more
        | more => failAt .expectedObjectCommaOrEnd more

/-- Reads an object behind its opening brace. -/
def readObject (read : List Symbol → Result Value) (bound : Nat) (text : List Symbol) :
    Result (List (String × Value)) :=
  match skipSpace text with
  | [] => failAt .endInObject []
  | .char '\x7d' :: rest => .ok ([], rest)
  | .char '"' :: rest => readProperties read bound rest
  | rest => failAt .keyNotString rest

/-- Reads a value in which lists and objects may nest so deep, and have at most `bound` parts. -/
def readValue (bound depth : Nat) (text : List Symbol) : Result Value :=
  match skipSpace text with
  | [] => failAt .endInValue []
  | .char 'n' :: rest => readWord .null ['u', 'l', 'l'] rest
  | .char 't' :: rest => readWord (.bool true) ['r', 'u', 'e'] rest
  | .char 'f' :: rest => readWord (.bool false) ['a', 'l', 's', 'e'] rest
  | .char '-' :: rest => (readNumber true rest).as .number
  | .char '"' :: rest => (readString rest).as fun s => .string (String.ofList s)
  | .char '[' :: rest =>
    match depth with
    | 0 => failAt .tooDeep (.char '[' :: rest)
    | depth + 1 => (readList (readValue bound depth) bound rest).as .array
  | .char '\x7b' :: rest =>
    match depth with
    | 0 => failAt .tooDeep (.char '\x7b' :: rest)
    | depth + 1 =>
      (readObject (readValue bound depth) bound rest).as fun ps => .object (Object.ofList ps)
  | s :: rest =>
    if (digit? s).isSome then (readNumber false (s :: rest)).as .number
    else failAt .expectedValue (s :: rest)

/-- How deep lists and objects of a document may nest. -/
def nestingLimit : Nat := 127

/-- Reads a whole text as one document. No list has more items than the text has symbols. -/
def read (text : List Symbol) : Except ReadError Value :=
  match readValue text.length nestingLimit text with
  | .error e => .error e
  | .ok (value, rest) =>
    match skipSpace rest with
    | [] => .ok value
    | rest => failAt .trailingCharacters rest

/-- Reads a whole text as one document; an error names its place (`read_json`). -/
def readDocument (source : Source) (text : List Symbol) : Except Fault Value :=
  (read text).mapError fun e => ⟨e.cause, e.position source text⟩

end ShapeCheck.Json
