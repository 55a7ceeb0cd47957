import ShapeCheck.Unicode.CodeSet

/-!
# Characters as bytes

The bytes of a character, and the sequences of ranges of bytes that cover a range of characters: each
sequence stands for the characters whose bytes lie in its ranges one by one.
-/

namespace ShapeCheck.Pattern

open Unicode

/-- A range of bytes. -/
abbrev ByteRange := Nat × Nat

/-- The bytes of a code point, first byte first. -/
def encodeCode (code : Nat) : List Nat :=
  if code < 0x80 then [code]
  else if code < 0x800 then [0xC0 + code / 64, 0x80 + code % 64]
  else if code < 0x10000 then
    [0xE0 + code / 4096, 0x80 + code / 64 % 64, 0x80 + code % 64]
  else
    [0xF0 + code / 262144, 0x80 + code / 4096 % 64, 0x80 + code / 64 % 64, 0x80 + code % 64]

/-- The bytes of a text. -/
def encodeText (text : List Char) : List Nat := text.flatMap fun c => encodeCode c.toNat

/-- Cuts a range of code points at the first code point that needs more bytes than the first, or
leaves out the halves of surrogate pairs. -/
def cutByLength? (low high : Nat) : Option ((Nat × Nat) × (Nat × Nat)) :=
  if low < 0xE000 ∧ 0xD7FF < high then some ((low, 0xD7FF), (0xE000, high))
  else if low ≤ 0x7F ∧ 0x7F < high then some ((low, 0x7F), (0x80, high))
  else if low ≤ 0x7FF ∧ 0x7FF < high then some ((low, 0x7FF), (0x800, high))
  else if low ≤ 0xFFFF ∧ 0xFFFF < high then some ((low, 0xFFFF), (0x10000, high))
  else none

/-- Cuts a range of code points of one length so that the last `6 · i` bits of the first part run
through one full or the only block. -/
def cutByBlock? (low high : Nat) (i : Nat) : Option ((Nat × Nat) × (Nat × Nat)) :=
  let m := Nat.pow 2 (6 * i)
  if low / m ≠ high / m then
    if low % m ≠ 0 then
      let last := (low / m + 1) * m - 1
      some ((low, last), (last + 1, high))
    else if high % m ≠ m - 1 then
      let first := high / m * m
      some ((low, first - 1), (first, high))
    else none
  else none

/-- The first cut that a range of code points needs before its bytes form one product of ranges. -/
def cutRange? (low high : Nat) : Option ((Nat × Nat) × (Nat × Nat)) :=
  match cutByLength? low high with
  | some cut => some cut
  | none =>
    if high < 0x80 then none
    else cutByBlock? low high 1 <|> cutByBlock? low high 2 <|> cutByBlock? low high 3

/-- The products of byte ranges that cover a list of ranges of code points, in order. -/
def byteSequences : Nat → List (Nat × Nat) → List (List ByteRange)
  | 0, _ => []
  | _ + 1, [] => []
  | fuel + 1, (low, high) :: rest =>
    if high < low then byteSequences fuel rest
    else
      match cutRange? low high with
      | some (a, b) => byteSequences fuel (a :: b :: rest)
      | none => (encodeCode low).zip (encodeCode high) :: byteSequences fuel rest

/-- The sequences of a set of characters. A range is cut at most thirty times. -/
def setSequences (s : CodeSet) : List (List ByteRange) :=
  byteSequences (64 * s.ranges.length + 1) s.ranges

end ShapeCheck.Pattern
