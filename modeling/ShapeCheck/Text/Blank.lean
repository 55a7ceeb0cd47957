/-!
# Blank characters and trimming

A character is blank when it has the Unicode property White_Space. Texts are trimmed at both ends.
-/

namespace ShapeCheck.Text

/-- The code points of the characters with the property White_Space. -/
def isBlankCode (n : Nat) : Bool :=
  (9 ≤ n && n ≤ 13) || n == 0x20 || n == 0x85 || n == 0xA0 || n == 0x1680 ||
    (0x2000 ≤ n && n ≤ 0x200A) || n == 0x2028 || n == 0x2029 || n == 0x202F || n == 0x205F ||
    n == 0x3000

/-- Whether a character is blank. -/
def isBlank (c : Char) : Bool := isBlankCode c.toNat

/-- A text without the blanks at its front. -/
def trimStart (text : List Char) : List Char := text.dropWhile isBlank

/-- A text without the blanks at its end. -/
def trimEnd (text : List Char) : List Char := (text.reverse.dropWhile isBlank).reverse

/-- A text without the blanks at either end. -/
def trim (text : List Char) : List Char := trimEnd (trimStart text)

end ShapeCheck.Text
