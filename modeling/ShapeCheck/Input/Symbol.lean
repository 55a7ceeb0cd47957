/-!
# Input as symbols

Input is a sequence of bytes that should be UTF-8. `decode` reads it as symbols: the characters, and
the bytes that are part of none.
-/

namespace ShapeCheck.Input

/-- A character of the input, or a byte that belongs to no character. -/
inductive Symbol where
  | char (c : Char)
  | stray (b : UInt8)
  deriving DecidableEq, Repr

/-- The symbols of a text. -/
def ofChars (text : List Char) : List Symbol := text.map .char

/-- The six bits of a byte that continues a character. -/
def continuation? (b : UInt8) : Option Nat :=
  if 0x80 ≤ b.toNat ∧ b.toNat < 0xC0 then some (b.toNat - 0x80) else none

/-- The character of a code that is not half of a surrogate pair, from `least` on. -/
def codeFrom? (least n : Nat) : Option Char :=
  if least ≤ n ∧ (n < 0xD800 ∨ (0xDFFF < n ∧ n < 0x110000)) then some (Char.ofNat n) else none

/-- The character of two bytes. -/
def twoBytes? (a b : UInt8) : Option Char :=
  if 0xC0 ≤ a.toNat ∧ a.toNat < 0xE0 then
    (continuation? b).bind fun y => codeFrom? 0x80 ((a.toNat - 0xC0) * 64 + y)
  else none

/-- The character of three bytes. -/
def threeBytes? (a b c : UInt8) : Option Char :=
  if 0xE0 ≤ a.toNat ∧ a.toNat < 0xF0 then
    (continuation? b).bind fun y => (continuation? c).bind fun z =>
      codeFrom? 0x800 (((a.toNat - 0xE0) * 64 + y) * 64 + z)
  else none

/-- The character of four bytes. -/
def fourBytes? (a b c d : UInt8) : Option Char :=
  if 0xF0 ≤ a.toNat ∧ a.toNat < 0xF8 then
    (continuation? b).bind fun x => (continuation? c).bind fun y => (continuation? d).bind fun z =>
      codeFrom? 0x10000 ((((a.toNat - 0xF0) * 64 + x) * 64 + y) * 64 + z)
  else none

/-- The character that begins with a byte, and how many of the bytes that follow belong to it. -/
def character? (a : UInt8) (rest : List UInt8) : Option (Char × Nat) :=
  if a.toNat < 0x80 then some (Char.ofNat a.toNat, 0)
  else
    match rest with
    | [] => none
    | [b] => (twoBytes? a b).map (·, 1)
    | [b, c] => ((twoBytes? a b).map (·, 1)).or ((threeBytes? a b c).map (·, 2))
    | b :: c :: d :: _ =>
      ((twoBytes? a b).map (·, 1)).or
        (((threeBytes? a b c).map (·, 2)).or ((fourBytes? a b c d).map (·, 3)))

/-- The symbols of a sequence of bytes. -/
def decode : List UInt8 → List Symbol
  | [] => []
  | a :: rest =>
    match character? a rest with
    | some (c, more) => .char c :: decode (rest.drop more)
    | none => .stray a :: decode rest
termination_by bytes => bytes.length

/-- The number of bytes of a symbol. -/
def Symbol.size : Symbol → Nat
  | .char c => c.utf8Size
  | .stray _ => 1

/-- Whether a symbol is a character. -/
def Symbol.isChar : Symbol → Bool
  | .char _ => true
  | .stray _ => false

/-- The characters of symbols without stray bytes. -/
def chars? : List Symbol → Option (List Char)
  | [] => some []
  | .char c :: rest => (chars? rest).map (c :: ·)
  | .stray _ :: _ => none

end ShapeCheck.Input
