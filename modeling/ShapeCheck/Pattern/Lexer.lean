import ShapeCheck.Decimal.Reader
import ShapeCheck.Pattern.Syntax
import ShapeCheck.Text.Blank
import ShapeCheck.Text.Search
import ShapeCheck.Unicode.Alphanumeric

/-!
# Escapes, counts and names in patterns

The readers of the parts of a pattern that hold no other patterns. Each takes the rest of the text
and gives what it read with the rest behind it; none means that the pattern is not valid. In
verbose patterns blanks and comments are skipped between most characters.
-/

namespace ShapeCheck.Pattern

open Unicode

/-- A part that was read, and the rest of the text. -/
abbrev Read (α : Type) := Option (α × List Char)

/-- The rest behind a comment, which ends with its line. -/
def skipComment : List Char → List Char
  | [] => []
  | c :: rest => if c = '\n' then rest else skipComment rest

theorem length_skipComment_le (text : List Char) : (skipComment text).length ≤ text.length := by
  induction text with
  | nil => simp [skipComment]
  | cons c rest ih =>
    unfold skipComment
    split
    · simp
    · simp only [List.length_cons]; omega

/-- The rest behind blanks and comments. -/
def skipBlank : List Char → List Char
  | [] => []
  | c :: rest =>
    if Text.isBlank c then skipBlank rest
    else if c = '#' then skipBlank (skipComment rest)
    else c :: rest
termination_by text => text.length
decreasing_by
  · simp
  · have := length_skipComment_le rest
    simp only [List.length_cons]; omega

/-- The rest behind blanks and comments if the pattern is verbose. -/
def skip (verbose : Bool) (text : List Char) : List Char :=
  if verbose then skipBlank text else text

/-- The rest behind one character and what may be skipped after it; none at the end. -/
def advance? (verbose : Bool) (rest : List Char) : Option (List Char) :=
  match skip verbose rest with
  | [] => none
  | text => some text

/-- Whether a character has a meaning of its own in patterns. -/
def isMeta (c : Char) : Bool := "\\.+*?()|[]\x7b\x7d^$#&-~".toList.contains c

/-- Whether a backslash may stand before a character that it does not change. -/
def isEscapable (c : Char) : Bool :=
  isMeta c || (c.toNat < 128 && !c.isAlphanum && c != '<' && c != '>')

/-- The character that a code point stands for, unless it is half of a surrogate pair or too
great. -/
def charOfCode? (n : Nat) : Option Char :=
  if n < 0xD800 ∨ (0xDFFF < n ∧ n < 0x110000) then some (Char.ofNat n) else none

/-- Whether a character is a hexadecimal digit. -/
def isHexDigit (c : Char) : Bool :=
  c.isDigit || ('a' ≤ c && c ≤ 'f') || ('A' ≤ c && c ≤ 'F')

/-- The value of a hexadecimal digit. -/
def hexValue (c : Char) : Nat :=
  if c.isDigit then c.toNat - '0'.toNat else (toLowerAscii c).toNat - 'a'.toNat + 10

/-- The number that hexadecimal digits write. -/
def ofHexDigits (digits : List Char) : Nat := digits.foldl (fun n c => n * 16 + hexValue c) 0

/-- Reads a fixed number of hexadecimal digits; more characters may be skipped between them. -/
def readHexDigits (verbose : Bool) : Nat → List Char → Read (List Char)
  | 0, text => some ([], text)
  | n + 1, text =>
    match text with
    | [] => none
    | c :: rest =>
      if isHexDigit c then
        let rest := skip verbose rest
        (readHexDigits verbose n rest).map fun (digits, rest) => (c :: digits, rest)
      else none

/-- Reads the hexadecimal digits up to a closing brace. -/
def readHexBrace (verbose : Bool) : Nat → List Char → Read (List Char)
  | 0, _ => none
  | fuel + 1, text =>
    match skip verbose text with
    | [] => none
    | c :: rest =>
      if c = '\x7d' then some ([], skip verbose rest)
      else if isHexDigit c then
        (readHexBrace verbose fuel rest).map fun (digits, rest) => (c :: digits, rest)
      else none

/-- Reads a character by its code: `kind` is the letter behind the backslash. -/
def readHex (verbose : Bool) (kind : Char) (rest : List Char) : Read Literal :=
  match advance? verbose rest with
  | none => none
  | some ('\x7b' :: rest) =>
    match readHexBrace verbose (rest.length + 1) rest with
    | some (digits, rest) =>
      if digits.isEmpty then none
      else (charOfCode? (ofHexDigits digits)).map fun c => (⟨c, false⟩, rest)
    | none => none
  | some rest =>
    let count := if kind = 'x' then 2 else if kind = 'u' then 4 else 8
    match readHexDigits verbose count rest with
    | some (digits, rest) =>
      (charOfCode? (ofHexDigits digits)).map fun c => (⟨c, kind == 'x'⟩, rest)
    | none => none

/-- Reads what stands between the braces of a property. -/
def readPropertyBrace (verbose : Bool) : Nat → List Char → Read (List Char)
  | 0, _ => none
  | fuel + 1, text =>
    match skip verbose text with
    | [] => none
    | c :: rest =>
      if c = '\x7d' then some ([], rest)
      else (readPropertyBrace verbose fuel rest).map fun (name, rest) => (c :: name, rest)

/-- The name before an unequal sign and the value behind it. -/
def cutUnequal? : List Char → Option (List Char × List Char)
  | [] => none
  | '!' :: '=' :: rest => some ([], rest)
  | c :: rest => (cutUnequal? rest).map fun (front, back) => (c :: front, back)

/-- What the text between braces asks for, and whether it is denied. -/
def PropertyQuery.ofText (text : List Char) : PropertyQuery × Bool :=
  match cutUnequal? text with
  | some (property, wanted) => (.value property wanted, true)
  | none =>
    match Text.cutAt? ':' text with
    | some (property, wanted) => (.value property wanted, false)
    | none =>
      match Text.cutAt? '=' text with
      | some (property, wanted) => (.value property wanted, false)
      | none => (.name text, false)

/-- Reads a property behind its letter: one character, or a query between braces. -/
def readProperty (verbose : Bool) (rest : List Char) : Read (PropertyQuery × Bool) :=
  match advance? verbose rest with
  | none => none
  | some [] => none
  | some ('\x7b' :: rest) =>
    (readPropertyBrace verbose (rest.length + 1) rest).map fun (text, rest) =>
      (PropertyQuery.ofText text, rest)
  | some (c :: rest) =>
    if c = '\\' then none else some ((.name [c], false), skip verbose rest)

/-- Reads the letters and hyphens of a special word boundary. -/
def readBoundaryName (verbose : Bool) : Nat → List Char → List Char × List Char
  | 0, text => ([], text)
  | fuel + 1, text =>
    match text with
    | c :: rest =>
      if c.isAlpha || c == '-' then
        let (name, rest) := readBoundaryName verbose fuel (skip verbose rest)
        (c :: name, rest)
      else ([], text)
    | [] => ([], [])

/-- Reads what may follow the escape for a word boundary: a name between braces. Braces that do not
begin with a letter or a hyphen are left for a count. -/
def readBoundary (verbose : Bool) (text : List Char) : Read Assertion :=
  match text with
  | '\x7b' :: rest =>
    match advance? verbose rest with
    | none => none
    | some body =>
      let (name, rest) := readBoundaryName verbose (body.length + 1) body
      if name.isEmpty then some (.wordBoundary, text)
      else
        match rest with
        | '\x7d' :: rest =>
          let kind : Option Assertion :=
            match String.ofList name with
            | "start" => some .wordStart
            | "end" => some .wordEnd
            | "start-half" => some .wordStartHalf
            | "end-half" => some .wordEndHalf
            | _ => none
          kind.map (·, rest)
        | _ => none
  | _ => some (.wordBoundary, text)

/-- A character, a condition or a class behind a backslash. -/
inductive Escape where
  | literal (l : Literal)
  | assertion (a : Assertion)
  | named (c : NamedClass) (negated : Bool)

/-- The letters that stand for a control character. -/
def controlEscapes : List (Char × Nat) :=
  [('a', 7), ('f', 12), ('t', 9), ('n', 10), ('r', 13), ('v', 11)]

/-- The letters that stand for a condition. -/
def assertionEscapes : List (Char × Assertion) :=
  [('A', .startText), ('z', .endText), ('B', .notWordBoundary), ('<', .wordStart),
   ('>', .wordEnd)]

/-- The letters that stand for a class, with whether it is denied. -/
def classEscapes : List (Char × ShortClass × Bool) :=
  [('d', .digit, false), ('D', .digit, true), ('s', .space, false), ('S', .space, true),
   ('w', .word, false), ('W', .word, true)]

/-- Reads what stands behind a backslash. -/
def readEscape (verbose : Bool) : List Char → Read Escape
  | [] => none
  | c :: rest =>
    if c.isDigit then none
    else if c = 'x' ∨ c = 'u' ∨ c = 'U' then
      (readHex verbose c rest).map fun (l, rest) => (.literal l, rest)
    else if c = 'p' ∨ c = 'P' then
      (readProperty verbose rest).map fun ((q, unequal), rest) =>
        (.named (.property q) ((c == 'P') != unequal), rest)
    else if c = 'b' then
      (readBoundary verbose rest).map fun (a, rest) => (.assertion a, rest)
    else
      match classEscapes.lookup c, assertionEscapes.lookup c, controlEscapes.lookup c with
      | some (k, negated), _, _ => some (.named (.short k) negated, rest)
      | none, some a, _ => some (.assertion a, rest)
      | none, none, some code => some (.literal ⟨Char.ofNat code, false⟩, rest)
      | none, none, none =>
        if isEscapable c then some (.literal ⟨c, false⟩, rest) else none

/-- Reads a decimal number between blanks; it is below `2 ^ 32`. -/
def readDecimal (verbose : Bool) (text : List Char) : Read Nat :=
  let text := text.dropWhile Text.isBlank
  let (digits, rest) := digitsOf verbose (text.length + 1) text
  if digits.isEmpty then none
  else
    let n := Decimal.ofDigits digits
    if n < Nat.pow 2 32 then some (n, skipBlanks verbose (rest.length + 1) rest) else none
where
  /-- The digits at the front; more characters may be skipped between them. -/
  digitsOf (verbose : Bool) : Nat → List Char → List Char × List Char
    | 0, text => ([], text)
    | fuel + 1, text =>
      match text with
      | c :: rest =>
        if c.isDigit then
          let (digits, rest) := digitsOf verbose fuel (skip verbose rest)
          (c :: digits, rest)
        else ([], text)
      | [] => ([], [])
  /-- The rest behind blanks. -/
  skipBlanks (verbose : Bool) : Nat → List Char → List Char
    | 0, text => text
    | fuel + 1, text =>
      match text with
      | c :: rest => if Text.isBlank c then skipBlanks verbose fuel (skip verbose rest) else text
      | [] => []

/-- The number of times that a count allows, from the text behind its opening brace. -/
def readCount (verbose : Bool) (rest : List Char) : Read (Nat × Option Nat) :=
  match advance? verbose rest with
  | none => none
  | some text =>
    match readDecimal verbose text with
    | none => none
    | some (low, rest) =>
      match rest with
      | '\x7d' :: rest => some ((low, some low), rest)
      | ',' :: rest =>
        match advance? verbose rest with
        | none => none
        | some ('\x7d' :: rest) => some ((low, none), rest)
        | some text =>
          match readDecimal verbose text with
          | some (high, '\x7d' :: rest) =>
            if low ≤ high then some ((low, some high), rest) else none
          | _ => none
      | _ => none

/-- Whether a character can stand in the name of a group, at its beginning or later. -/
def isNameChar (c : Char) (first : Bool) : Bool :=
  c == '_' || isAlphabetic c ||
    (!first && (c == '.' || c == '[' || c == ']' || isAlphanumeric c))

/-- Reads the name of a group up to its closing angle. -/
def readGroupName (text : List Char) : Read (List Char) :=
  match Text.cutAt? '>' text with
  | none => none
  | some (name, rest) =>
    match name with
    | [] => none
    | c :: more =>
      if isNameChar c true && more.all (isNameChar · false) then some (name, rest) else none

/-- The letters of flags. -/
def flagLetters : List (Char × Flag) :=
  [('i', .ignoreCase), ('m', .multiLine), ('s', .dotAll), ('U', .swapGreed), ('u', .unicode),
   ('R', .crlf), ('x', .verbose)]

/-- Reads flags up to a closing parenthesis or a colon, which is given as well. A minus sign denies
the flags behind it; it comes once at most and not at the end, and no flag comes twice. -/
def readFlags (seen : FlagSettings) (value : Bool) (afterMinus : Bool) :
    List Char → Read (FlagSettings × Char)
  | [] => none
  | c :: rest =>
    if c = ')' ∨ c = ':' then
      if afterMinus then none else some ((seen.reverse, c), rest)
    else if c = '-' then
      if value then readFlags seen false true rest else none
    else
      match flagLetters.lookup c with
      | some flag =>
        if seen.any (·.1 == flag) then none else readFlags ((flag, value) :: seen) value false rest
      | none => none

end ShapeCheck.Pattern
