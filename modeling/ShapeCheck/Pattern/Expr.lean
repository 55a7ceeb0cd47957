import ShapeCheck.Pattern.CharClass

/-!
# Regular expressions

Expressions over sets of characters and conditions on places, and when a text holds a match. An
expression goes over a text one character at a time: `Expr.next` gives the expressions of which one
has to match what is left.
-/

namespace ShapeCheck.Pattern

open Unicode

/-- A condition on a place, given by the characters before and after it. -/
inductive Look where
  | start
  | finish
  | lineStart
  | lineEnd
  | crlfStart
  | crlfEnd
  | boundary (unicode : Bool)
  | notBoundary (unicode : Bool)
  | wordStart (unicode : Bool)
  | wordEnd (unicode : Bool)
  | wordStartHalf (unicode : Bool)
  | wordEndHalf (unicode : Bool)
  deriving DecidableEq, Repr

/-- Whether a condition tells the characters of words in all scripts from others. -/
def Look.isUnicode : Look → Bool
  | .boundary unicode => unicode
  | .notBoundary unicode => unicode
  | .wordStart unicode => unicode
  | .wordEnd unicode => unicode
  | .wordStartHalf unicode => unicode
  | .wordEndHalf unicode => unicode
  | _ => false

/-- Whether a neighbour of a place is a word character. -/
def isWordAt (unicode : Bool) (c : Option Char) : Bool :=
  match c with
  | some c => (if unicode then wordChars else asciiWordChars).contains c
  | none => false

/-- Whether a condition holds between two neighbours, of which none is the end of the text. -/
def Look.holds (before after : Option Char) : Look → Bool
  | .start => before.isNone
  | .finish => after.isNone
  | .lineStart => before.isNone || before == some '\n'
  | .lineEnd => after.isNone || after == some '\n'
  | .crlfStart => before.isNone || before == some '\n' || (before == some '\r' && after != some '\n')
  | .crlfEnd => after.isNone || after == some '\r' || (after == some '\n' && before != some '\r')
  | .boundary unicode => isWordAt unicode before != isWordAt unicode after
  | .notBoundary unicode => isWordAt unicode before == isWordAt unicode after
  | .wordStart unicode => !isWordAt unicode before && isWordAt unicode after
  | .wordEnd unicode => isWordAt unicode before && !isWordAt unicode after
  | .wordStartHalf unicode => !isWordAt unicode before
  | .wordEndHalf unicode => !isWordAt unicode after

/-- A regular expression. -/
inductive Expr where
  | empty
  | set (codes : CodeSet)
  | look (l : Look)
  | cat (a b : Expr)
  | alt (a b : Expr)
  | times (e : Expr) (min : Nat) (max : Option Nat)
  deriving DecidableEq

namespace Expr

/-- One expression behind another; the empty one is left out. -/
def followedBy (a b : Expr) : Expr :=
  match a with
  | .empty => b
  | a => if b = .empty then a else .cat a b

/-- Whether an expression matches the empty text at a place. -/
def nullable (before after : Option Char) : Expr → Bool
  | .empty => true
  | .set _ => false
  | .look l => l.holds before after
  | .cat a b => a.nullable before after && b.nullable before after
  | .alt a b => a.nullable before after || b.nullable before after
  | .times e min _ => min == 0 || e.nullable before after

/-- What may be left of an expression behind the character `c`. Where the repeated part matches the
empty text, repetitions that have to be made may all be empty. -/
def next (before : Option Char) (c : Char) : Expr → List Expr
  | .empty => []
  | .set codes => if codes.contains c then [.empty] else []
  | .look _ => []
  | .cat a b =>
    (a.next before c).map (·.followedBy b) ++
      (if a.nullable before (some c) then b.next before c else [])
  | .alt a b => a.next before c ++ b.next before c
  | .times e min max =>
    if max = some 0 then []
    else
      let left := if e.nullable before (some c) then 0 else min - 1
      (e.next before c).map (·.followedBy (.times e left (max.map (· - 1))))

/-- Whether a match that one of the `begun` expressions is left of, or a new one of `e`, is found in
the rest of a text. -/
def findFrom (e : Expr) (begun : List Expr) (before : Option Char) : List Char → Bool
  | [] => (e :: begun).any (·.nullable before none)
  | c :: rest =>
    (e :: begun).any (·.nullable before (some c)) ||
      findFrom e ((e :: begun).flatMap (·.next before c)).eraseDups (some c) rest

/-- Whether an expression matches somewhere in a text. -/
def found (e : Expr) (text : List Char) : Bool := e.findFrom [] none text

end Expr

end ShapeCheck.Pattern
