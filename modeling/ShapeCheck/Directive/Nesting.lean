/-!
# Places outside parentheses

A text is cut only where no parenthesis is open. The nesting depth counts opening parentheses less
closing ones and never falls below zero, so that a stray closing parenthesis has no effect.
-/

namespace ShapeCheck.Directive

/-- The nesting depth behind a character. -/
def deepen (depth : Nat) (c : Char) : Nat :=
  if c = '(' then depth + 1 else if c = ')' then depth - 1 else depth

/-- Whether a character is a place to cut: the mark itself, no parenthesis, and nothing open. -/
def isCut (mark : Char) (depth : Nat) (c : Char) : Bool :=
  c == mark && c != '(' && c != ')' && depth == 0

/-- The parts between the cuts of a text that begins at a nesting depth. -/
def splitFrom (mark : Char) (depth : Nat) : List Char → List (List Char)
  | [] => [[]]
  | c :: text =>
    if isCut mark depth c then [] :: splitFrom mark 0 text
    else (splitFrom mark (deepen depth c) text).modifyHead (c :: ·)

/-- The parts of a text between the marks outside parentheses (`split_top_level`). -/
def splitTopLevel (mark : Char) (text : List Char) : List (List Char) := splitFrom mark 0 text

/-- The text before and after the first cut, for a text that begins at a nesting depth. -/
def cutFrom? (mark : Char) (depth : Nat) : List Char → Option (List Char × List Char)
  | [] => none
  | c :: text =>
    if isCut mark depth c then some ([], text)
    else (cutFrom? mark (deepen depth c) text).map fun (front, back) => (c :: front, back)

/-- The text before and after the first mark outside parentheses (`find_top_level`). -/
def cutTopLevel? (mark : Char) (text : List Char) : Option (List Char × List Char) :=
  cutFrom? mark 0 text

end ShapeCheck.Directive
