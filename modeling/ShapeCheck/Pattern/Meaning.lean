import ShapeCheck.Pattern.Plan.Simple
import ShapeCheck.Pattern.Syntax

/-!
# The meaning of patterns

A pattern as written becomes a plan once its flags are applied. Flags set in the middle of a group
hold to its end, across alternatives. Without the flag for Unicode classes cover
ASCII, and what would reach beyond it is refused.
-/

namespace ShapeCheck.Pattern

open Unicode

/-- The flags that bear on the meaning of a pattern. -/
structure Flags where
  ignoreCase : Bool := false
  multiLine : Bool := false
  dotAll : Bool := false
  unicode : Bool := true
  crlf : Bool := false
  swapGreed : Bool := false
  deriving DecidableEq, Repr

/-- Sets one flag. -/
def Flags.set (f : Flags) (setting : Flag × Bool) : Flags :=
  match setting with
  | (.ignoreCase, b) => { f with ignoreCase := b }
  | (.multiLine, b) => { f with multiLine := b }
  | (.dotAll, b) => { f with dotAll := b }
  | (.unicode, b) => { f with unicode := b }
  | (.crlf, b) => { f with crlf := b }
  | (.swapGreed, b) => { f with swapGreed := b }
  | (.verbose, _) => f

/-- Sets flags in order. -/
def Flags.setAll (f : Flags) (settings : FlagSettings) : Flags := settings.foldl Flags.set f

/-- The complement of a set among the characters that the flags admit. -/
def Flags.compl (f : Flags) (s : CodeSet) : CodeSet :=
  if f.unicode then s.compl else (CodeSet.ofRange 0 0xFF).diff s

/-- A set with the other cases of its members, if case is ignored. -/
def Flags.fold (f : Flags) (s : CodeSet) : CodeSet :=
  if f.ignoreCase then (if f.unicode then Pattern.ignoreCase s else ignoreAsciiCase s) else s

/-- A set, denied or not, if the flags admit it: without Unicode it must not leave ASCII. -/
def Flags.admit? (f : Flags) (s : CodeSet) (negated : Bool) : Option CodeSet :=
  let s := if negated then f.compl s else s
  if f.unicode || s.isAscii then some s else none

/-- The character of a literal. Without Unicode a byte beyond ASCII is refused. -/
def Flags.char? (f : Flags) (l : Literal) : Option Char :=
  if !f.unicode && l.isByte && 0x7F < l.char.toNat then none else some l.char

/-- The character of a literal inside brackets. Without Unicode it has to be ASCII. -/
def Flags.setChar? (f : Flags) (l : Literal) : Option Char :=
  if !f.unicode && 0x7F < l.char.toNat then none else some l.char

/-- The members of a class with a name. -/
def NamedClass.codes? (f : Flags) (c : NamedClass) (negated : Bool) : Option CodeSet :=
  match c with
  | .short k => f.admit? (k.codes f.unicode) negated
  | .bracket codes => f.admit? (f.fold codes) negated
  | .property q =>
    if !f.unicode then none
    else
      let codes :=
        match q with
        | .name name => ofName? name
        | .value key wanted => ofValue? key wanted
      codes.bind fun s => f.admit? (f.fold s) negated

/-- Two sets with an operator between them. -/
def SetOperator.apply : SetOperator → CodeSet → CodeSet → CodeSet
  | .inter, a, b => a.inter b
  | .diff, a, b => a.diff b
  | .symmDiff, a, b => a.symmDiff b

mutual

/-- The members of a set in brackets before it is denied and before case is ignored in it as a
whole. -/
def SetExpr.codes? (f : Flags) : SetExpr → Option CodeSet
  | .literal l => (f.setChar? l).map fun c => .ofRange c.toNat c.toNat
  | .range low high =>
    match f.setChar? low, f.setChar? high with
    | some a, some b => some (.ofRange a.toNat b.toNat)
    | _, _ => none
  | .named c negated => c.codes? f negated
  | .union items => unionCodes? f items
  | .bracketed s negated => (s.codes? f).bind fun codes => f.admit? (f.fold codes) negated
  | .operation op a b =>
    match a.codes? f, b.codes? f with
    | some left, some right => some (op.apply (f.fold left) (f.fold right))
    | _, _ => none

/-- The members of some set of a list. -/
def unionCodes? (f : Flags) : List SetExpr → Option CodeSet
  | [] => some .empty
  | s :: rest =>
    match s.codes? f, unionCodes? f rest with
    | some a, some b => some (a.union b)
    | _, _ => none

end

/-- The condition that an assertion states. -/
def Assertion.look (f : Flags) : Assertion → Look
  | .startLine => if f.multiLine then (if f.crlf then .crlfStart else .lineStart) else .start
  | .endLine => if f.multiLine then (if f.crlf then .crlfEnd else .lineEnd) else .finish
  | .startText => .start
  | .endText => .finish
  | .wordBoundary => .boundary f.unicode
  | .notWordBoundary => .notBoundary f.unicode
  | .wordStart => .wordStart f.unicode
  | .wordEnd => .wordEnd f.unicode
  | .wordStartHalf => .wordStartHalf f.unicode
  | .wordEndHalf => .wordEndHalf f.unicode

/-- The characters that a dot stands for. -/
def Flags.dot? (f : Flags) : Option CodeSet :=
  if !f.unicode then none
  else if f.dotAll then some .full
  else if f.crlf then some ((CodeSet.ofRange 10 10).union (.ofRange 13 13)).compl
  else some (CodeSet.ofRange 10 10).compl

mutual

/-- The plan of a pattern under flags, with the flags that hold behind it. -/
def Syntax.plan? (f : Flags) : Syntax → Option (Plan × Flags)
  | .empty => some (.empty, f)
  | .flags settings => some (.empty, f.setAll settings)
  | .literal l => (f.char? l).map fun c => (.ofSet (f.fold (.ofRange c.toNat c.toNat)), f)
  | .dot => f.dot?.map fun codes => (.ofSet codes, f)
  | .assertion a => some (.look (a.look f), f)
  | .named c negated => (c.codes? f negated).map fun codes => (.ofSet codes, f)
  | .bracketed s negated =>
    ((s.codes? f).bind fun codes => f.admit? (f.fold codes) negated).map fun codes =>
      (.ofSet codes, f)
  | .repetition e min max greedy =>
    (e.plan? f).map fun (x, f) => (x.repetition min max (greedy != f.swapGreed), f)
  | .group .capture e => (e.plan? f).map fun (x, _) => (.capture x, f)
  | .group (.flags settings) e => (e.plan? (f.setAll settings)).map fun (x, _) => (x, f)
  | .alternation es => (plans? f es).map fun (xs, f) => (.oneOf xs, f)
  | .concat es => (plans? f es).map fun (xs, f) => (.sequence xs, f)

/-- The plans of patterns one behind the other. -/
def plans? (f : Flags) : List Syntax → Option (List Plan × Flags)
  | [] => some ([], f)
  | e :: rest =>
    match e.plan? f with
    | none => none
    | some (x, f) => (plans? f rest).map fun (xs, f) => (x :: xs, f)

end

end ShapeCheck.Pattern
