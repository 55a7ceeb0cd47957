import ShapeCheck.Yaml.Gap

/-!
# Quoted scalars

A scalar in single quotes writes a single quote twice; one in double quotes knows escapes. Both are
folded over lines, and neither may run over a line that divides documents.
-/

namespace ShapeCheck.Yaml

/-- A quoted scalar that has been read: its text, and the number of characters that it takes up
with the closing quote. -/
structure QuotedText where
  text : List Char
  size : Nat
  deriving Repr

namespace QuotedText

/-- The scalar with more text, which takes up so many characters, before it. -/
def cons (text : List Char) (size : Nat) (q : QuotedText) : QuotedText :=
  ⟨text ++ q.text, q.size + size⟩

end QuotedText

/-- Reads on in a scalar in single quotes after a gap. -/
def readSingle (gap : Gap) (column : Nat) : List Char → Option QuotedText
  | [] => none
  | c :: rest =>
    if column = 0 && isDivider (c :: rest) then none
    else if isBlank c then (readSingle (gap.addBlank c) (column + 1) rest).map (.cons [] 1)
    else if isBreak c then (readSingle (gap.addBreak c) 0 rest).map (.cons [] 1)
    else if c = '\'' then
      match rest with
      | '\'' :: more => (readSingle .none (column + 2) more).map (.cons (gap.join ++ ['\'']) 2)
      | _ => some ⟨gap.join, 1⟩
    else (readSingle .none (column + 1) rest).map (.cons (gap.join ++ [c]) 1)

/-- The value of a hexadecimal digit. -/
def hexValue? (c : Char) : Option Nat :=
  if c.isDigit then some (c.toNat - '0'.toNat)
  else if 'a' ≤ c ∧ c ≤ 'f' then some (c.toNat - 'a'.toNat + 10)
  else if 'A' ≤ c ∧ c ≤ 'F' then some (c.toNat - 'A'.toNat + 10)
  else none

/-- The character whose code hexadecimal digits write. -/
def codeOf? (digits : List Char) : Option Char := do
  let values ← digits.mapM hexValue?
  let n := values.foldl (fun n d => n * 16 + d) 0
  if n < 0xD800 ∨ (0xDFFF < n ∧ n ≤ 0x10FFFF) then some (Char.ofNat n) else none

/-- The number of digits of an escaped code. -/
def codeLength? (c : Char) : Option Nat :=
  match c with
  | 'x' => some 2
  | 'u' => some 4
  | 'U' => some 8
  | _ => none

/-- The character that a letter stands for behind a backslash. -/
def escapedChar? (c : Char) : Option Char :=
  match c with
  | '0' => some '\x00'
  | 'a' => some '\x07'
  | 'b' => some '\x08'
  | 't' => some '\t'
  | '\t' => some '\t'
  | 'n' => some '\n'
  | 'v' => some '\x0b'
  | 'f' => some '\x0c'
  | 'r' => some '\r'
  | 'e' => some '\x1b'
  | ' ' => some ' '
  | '"' => some '"'
  | '/' => some '/'
  | '\\' => some '\\'
  | 'N' => some '\u0085'
  | '_' => some '\u00a0'
  | 'L' => some '\u2028'
  | 'P' => some '\u2029'
  | _ => none

/-- The character of an escape, and how many characters behind the backslash it takes up. -/
def escape? : List Char → Option (Char × Nat)
  | [] => none
  | c :: rest =>
    match codeLength? c with
    | some size =>
      let digits := rest.take size
      if digits.length = size then (codeOf? digits).map (·, size + 1) else none
    | none => (escapedChar? c).map (·, 1)

/-- Reads on in a scalar in double quotes after a gap. -/
def readDouble (gap : Gap) (column : Nat) : List Char → Option QuotedText
  | [] => none
  | c :: rest =>
    if column = 0 && isDivider (c :: rest) then none
    else if isBlank c then (readDouble (gap.addBlank c) (column + 1) rest).map (.cons [] 1)
    else if isBreak c then (readDouble (gap.addBreak c) 0 rest).map (.cons [] 1)
    else if c = '"' then some ⟨gap.join, 1⟩
    else if c = '\\' then
      if !rest.isEmpty && atLineEnd rest then
        (readDouble (.breaks none []) 0 (rest.drop 1)).map (.cons gap.join 2)
      else
        match escape? rest with
        | none => none
        | some (d, size) =>
          (readDouble .none (column + size + 1) (rest.drop size)).map
            (.cons (gap.join ++ [d]) (size + 1))
    else (readDouble .none (column + 1) rest).map (.cons (gap.join ++ [c]) 1)
termination_by text => text.length

end ShapeCheck.Yaml
