/-!
# Places in a YAML text

A cursor is the text that is left and the place reached. Lines end at a line feed, a line separator
or a paragraph separator; `unifyBreaks` turns every other line end into a line feed beforehand.
-/

namespace ShapeCheck.Yaml

/-- Turns carriage returns, alone or before a line feed, and next-line characters into line
feeds. -/
def unifyBreaks : List Char → List Char
  | [] => []
  | '\r' :: '\n' :: rest => '\n' :: unifyBreaks rest
  | '\r' :: rest => '\n' :: unifyBreaks rest
  | c :: rest => (if c.toNat = 0x85 then '\n' else c) :: unifyBreaks rest

/-- Whether a character may stand in a text. -/
def isAllowed (c : Char) : Bool :=
  let n := c.toNat
  n = 9 || n = 10 || n = 13 || (0x20 ≤ n && n ≤ 0x7E) || n = 0x85 || (0xA0 ≤ n && n ≤ 0xFFFD) ||
    0x10000 ≤ n

/-- Whether a character ends a line. -/
def isBreak (c : Char) : Bool := c = '\n' || c.toNat = 0x2028 || c.toNat = 0x2029

/-- Whether a character is a space or a tab. -/
def isBlank (c : Char) : Bool := c = ' ' || c = '\t'

/-- Whether a text is at an end, a line end or a blank. -/
def atGap : List Char → Bool
  | [] => true
  | c :: _ => isBlank c || isBreak c

/-- Whether a text is at its end or a line end. -/
def atLineEnd : List Char → Bool
  | [] => true
  | c :: _ => isBreak c

/-- Whether a character may stand in the name of an anchor or a handle. -/
def isNameChar (c : Char) : Bool := c.isAlphanum || c = '_' || c = '-'

/-- Whether a line begins with three of a character and a gap. -/
def startsWithThree (mark : Char) (line : List Char) : Bool :=
  line.take 3 = [mark, mark, mark] && atGap (line.drop 3)

/-- Whether a line divides documents. -/
def isDivider (line : List Char) : Bool := startsWithThree '-' line || startsWithThree '.' line

/-- A place in a text: what is left, and the counts of the bytes before it, of the lines before it, and
of the characters before it on its line. -/
structure Cursor where
  rest : List Char
  index : Nat := 0
  line : Nat := 0
  column : Nat := 0
  deriving Repr

namespace Cursor

/-- The place behind the next character. -/
def next (c : Cursor) : Cursor :=
  match c.rest with
  | [] => c
  | x :: rest =>
    if isBreak x then ⟨rest, c.index + x.utf8Size, c.line + 1, 0⟩
    else ⟨rest, c.index + x.utf8Size, c.line, c.column + 1⟩

/-- The place so many characters ahead. -/
def skip (c : Cursor) : Nat → Cursor
  | 0 => c
  | n + 1 => c.next.skip n

/-- The place behind the next characters that pass a test. -/
def skipWhile (c : Cursor) (test : Char → Bool) : Cursor :=
  c.skip (c.rest.takeWhile test).length

/-- The place at the end of the line. -/
def skipLine (c : Cursor) : Cursor := c.skipWhile fun x => !isBreak x

/-- The place behind a line end, if there is one. -/
def skipBreak (c : Cursor) : Cursor :=
  match c.rest with
  | x :: _ => if isBreak x then c.next else c
  | [] => c

theorem length_rest_next (c : Cursor) : c.next.rest.length = c.rest.length - 1 := by
  unfold next
  split
  · simp_all
  · split <;> simp_all

theorem length_rest_skip (c : Cursor) (n : Nat) :
    (c.skip n).rest.length = c.rest.length - n := by
  induction n generalizing c with
  | zero => rfl
  | succ n ih => rw [skip, ih, length_rest_next]; omega

theorem length_rest_skipBreak_le (c : Cursor) : c.skipBreak.rest.length ≤ c.rest.length := by
  have := length_rest_next c
  unfold skipBreak
  split
  · split
    · omega
    · exact Nat.le_refl _
  · exact Nat.le_refl _

end Cursor

end ShapeCheck.Yaml
