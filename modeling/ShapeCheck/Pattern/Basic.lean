import ShapeCheck.Pattern.Meaning
import ShapeCheck.Pattern.Parser
import ShapeCheck.Pattern.Size

/-!
# Patterns

A pattern is the text of a regular expression. `compile?` reads it and refuses what is not
well-formed, has no meaning or is too large; `test?` looks for a match in a text.
-/

namespace ShapeCheck.Pattern

/-- The plan of a pattern that is well-formed and has a meaning. -/
def plan? (source : List Char) : Option Plan :=
  (Syntax.parse? source).bind fun e => (e.plan? {}).map Prod.fst

/-- The expression of a valid pattern. -/
def compile? (source : List Char) : Option Expr :=
  (plan? source).bind fun e => if e.isTooLarge then none else some e.expr

/-- Whether texts can be matched with a pattern by an automaton that is in one state at a time. Where
words begin and end among all characters cannot be told by one that reads bytes. Size does not
matter. -/
def isMatchable (source : List Char) : Bool :=
  (plan? source).any fun e => !e.looksAtWords

/-- Whether a match of a pattern is found in a text; none if the pattern is not valid. -/
def test? (source text : String) : Option Bool :=
  (compile? source.toList).map fun e => e.found text.toList

end ShapeCheck.Pattern
