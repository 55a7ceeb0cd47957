import ShapeCheck.Yaml.Cursor

/-!
# Gaps in folded text

In a scalar that is written over several lines, blanks between words stay, and a line end becomes a
space; of several line ends the first falls away and the others stay.
-/

namespace ShapeCheck.Yaml

/-- What has been passed since the last word: blanks on one line, or line ends, of which the first
may have been escaped. -/
inductive Gap where
  | blanks (text : List Char)
  | breaks (first : Option Char) (more : List Char)
  deriving Repr

namespace Gap

/-- No gap. -/
def none : Gap := .blanks []

/-- Whether a line has ended. -/
def isBroken : Gap → Bool
  | .blanks _ => false
  | .breaks _ _ => true

/-- A gap with one more blank. Blanks at the front of a line do not count. -/
def addBlank (c : Char) : Gap → Gap
  | .blanks text => .blanks (text ++ [c])
  | .breaks first more => .breaks first more

/-- A gap with one more line end. Blanks before the first line end do not count. -/
def addBreak (c : Char) : Gap → Gap
  | .blanks _ => .breaks (some c) []
  | .breaks first more => .breaks first (more ++ [c])

/-- The text that stands for a gap. -/
def join : Gap → List Char
  | .blanks text => text
  | .breaks (some '\n') [] => [' ']
  | .breaks (some '\n') more => more
  | .breaks first more => first.toList ++ more

end Gap

end ShapeCheck.Yaml
