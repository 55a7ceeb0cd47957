import ShapeCheck.Yaml.Gap

/-!
# Plain scalars

A scalar without quotes ends at a colon before a gap, at a comment, at a line that is indented too
little or divides documents, and inside brackets at a comma or a bracket.
-/

namespace ShapeCheck.Yaml

/-- A scalar that has been read: its text, the number of characters it takes up with the gap behind
it, and whether a line end is among these. -/
structure PlainText where
  text : List Char
  size : Nat
  broken : Bool
  deriving Repr

namespace PlainText

/-- The scalar with more text, which takes up one character, before it. -/
def cons (text : List Char) (p : PlainText) : PlainText := ⟨text ++ p.text, p.size + 1, p.broken⟩

end PlainText

/-- Whether a character has a meaning of its own inside brackets. -/
def isFlowMark (c : Char) : Bool := c = ',' || c = '[' || c = ']' || c = '{' || c = '}'

/-- Whether a colon, which ends no scalar, must not stand before a text inside brackets. -/
def refusesColon : List Char → Bool
  | [] => false
  | c :: _ => isFlowMark c || c = '?'

/-- Reads on in a plain scalar after a gap. `indent` is the least column of its lines, `column` the
present one, `fresh` says whether the last character belonged to the gap. -/
def readPlain (flow : Bool) (indent : Nat) (gap : Gap) (fresh : Bool) (column : Nat) :
    List Char → Option PlainText
  | [] => some ⟨[], 0, gap.isBroken⟩
  | c :: rest =>
    if isBlank c then
      if gap.isBroken && c = '\t' && column < indent then none
      else (readPlain flow indent (gap.addBlank c) true (column + 1) rest).map (.cons [])
    else if isBreak c then
      (readPlain flow indent (gap.addBreak c) true 0 rest).map (.cons [])
    else if fresh && ((!flow && column < indent) || c = '#' ||
        (column = 0 && isDivider (c :: rest))) then
      some ⟨[], 0, gap.isBroken⟩
    else if flow && c = ':' && refusesColon rest then none
    else if (c = ':' && atGap rest) || (flow && isFlowMark c) then some ⟨[], 0, gap.isBroken⟩
    else (readPlain flow indent .none false (column + 1) rest).map (.cons (gap.join ++ [c]))

end ShapeCheck.Yaml
