import ShapeCheck.Pattern.CharClass

/-!
# The form of patterns

The syntax tree of a pattern as it is written, before its flags are applied.
-/

namespace ShapeCheck.Pattern

/-- What a flag switches. -/
inductive Flag where
  | ignoreCase
  | multiLine
  | dotAll
  | swapGreed
  | unicode
  | crlf
  | verbose
  deriving DecidableEq, Repr

/-- Flags with the values that a group of them gives. -/
abbrev FlagSettings := List (Flag × Bool)

/-- A character with whether it is written as a byte, by two hexadecimal digits. -/
structure Literal where
  char : Char
  isByte : Bool := false
  deriving DecidableEq, Repr

/-- A condition on the place between two characters. -/
inductive Assertion where
  | startLine
  | endLine
  | startText
  | endText
  | wordBoundary
  | notWordBoundary
  | wordStart
  | wordEnd
  | wordStartHalf
  | wordEndHalf
  deriving DecidableEq, Repr

/-- What stands behind the escape for a property. -/
inductive PropertyQuery where
  | name (name : List Char)
  | value (property value : List Char)
  deriving DecidableEq, Repr

/-- A class that has a name. -/
inductive NamedClass where
  | short (k : ShortClass)
  | bracket (codes : Unicode.CodeSet)
  | property (q : PropertyQuery)
  deriving DecidableEq, Repr

/-- An operator between sets in brackets. -/
inductive SetOperator where
  | inter
  | diff
  | symmDiff
  deriving DecidableEq, Repr

/-- A set of characters in brackets. -/
inductive SetExpr where
  | literal (l : Literal)
  | range (low high : Literal)
  | named (c : NamedClass) (negated : Bool)
  | union (items : List SetExpr)
  | bracketed (s : SetExpr) (negated : Bool)
  | operation (op : SetOperator) (a b : SetExpr)

/-- How a group begins. -/
inductive GroupKind where
  | capture
  | flags (settings : FlagSettings)
  deriving DecidableEq, Repr

/-- A pattern as it is written. -/
inductive Syntax where
  | empty
  | flags (settings : FlagSettings)
  | literal (l : Literal)
  | dot
  | assertion (a : Assertion)
  | named (c : NamedClass) (negated : Bool)
  | bracketed (s : SetExpr) (negated : Bool)
  | repetition (e : Syntax) (min : Nat) (max : Option Nat) (greedy : Bool)
  | group (kind : GroupKind) (e : Syntax)
  | alternation (es : List Syntax)
  | concat (es : List Syntax)

mutual

/-- How deeply sets in brackets are nested. -/
def SetExpr.height : SetExpr → Nat
  | .literal _ => 0
  | .range _ _ => 0
  | .named _ _ => 0
  | .union items => if items.length < 2 then setsHeight items else setsHeight items + 1
  | .bracketed s _ => s.height + 1
  | .operation _ a b => max a.height b.height + 1

/-- The height of the highest set of a list. -/
def setsHeight : List SetExpr → Nat
  | [] => 0
  | s :: rest => max s.height (setsHeight rest)

end

mutual

/-- How deeply a pattern is nested. -/
def Syntax.height : Syntax → Nat
  | .empty => 0
  | .flags _ => 0
  | .literal _ => 0
  | .dot => 0
  | .assertion _ => 0
  | .named _ _ => 0
  | .bracketed s _ => s.height + 1
  | .repetition e _ _ _ => e.height + 1
  | .group _ e => e.height + 1
  | .alternation es => syntaxesHeight es + 1
  | .concat es => syntaxesHeight es + 1

/-- The height of the highest pattern of a list. -/
def syntaxesHeight : List Syntax → Nat
  | [] => 0
  | e :: rest => max e.height (syntaxesHeight rest)

end

end ShapeCheck.Pattern
