import ShapeCheck.Pattern.Expr

/-!
# Plans

A plan is a pattern whose flags have been applied. `Plan.expr` is its regular expression; what a plan
asks of a text and of the places at its borders is read off the plan as well.
-/

namespace ShapeCheck.Pattern

open Unicode

/-- A pattern whose flags have been applied. A group that captures is kept, other groups are not. -/
inductive Plan where
  | empty
  | literal (text : List Char)
  | set (codes : CodeSet)
  | look (l : Look)
  | repeated (e : Plan) (min : Nat) (max : Option Nat) (greedy : Bool)
  | capture (e : Plan)
  | concat (es : List Plan)
  | choice (es : List Plan)

namespace Plan

/-- The text of a plan that is one. -/
def text? : Plan → Option (List Char)
  | .literal text => some text
  | _ => none

mutual

/-- Whether two plans are the same. Groups that capture are different, wherever they stand. -/
def same : Plan → Plan → Bool
  | .empty, .empty => true
  | .literal s, .literal t => s == t
  | .set s, .set t => s == t
  | .look k, .look l => k == l
  | .repeated e min max greedy, .repeated e' min' max' greedy' =>
    min == min' && max == max' && greedy == greedy' && same e e'
  | .concat es, .concat es' => sameAll es es'
  | .choice es, .choice es' => sameAll es es'
  | _, _ => false

/-- Whether the plans of two lists are the same one by one. -/
def sameAll : List Plan → List Plan → Bool
  | [], [] => true
  | e :: es, e' :: es' => same e e' && sameAll es es'
  | _, _ => false

end

mutual

/-- Whether a plan matches the empty text and nothing else. -/
def isBlank : Plan → Bool
  | .empty => true
  | .literal _ => false
  | .set _ => false
  | .look _ => true
  | .repeated e _ max _ => max.isSome && e.isBlank
  | .capture e => e.isBlank
  | .concat es => areBlank es
  | .choice es => areBlank es

/-- Whether all plans of a list match the empty text and nothing else. -/
def areBlank : List Plan → Bool
  | [] => true
  | e :: rest => e.isBlank && areBlank rest

end

mutual

/-- Whether a plan has a condition on the words of all scripts around a place. -/
def looksAtWords : Plan → Bool
  | .empty => false
  | .literal _ => false
  | .set _ => false
  | .look l => l.isUnicode
  | .repeated e _ _ _ => e.looksAtWords
  | .capture e => e.looksAtWords
  | .concat es => lookAtWords es
  | .choice es => lookAtWords es

/-- Whether some plan of a list has a condition on the words of all scripts. -/
def lookAtWords : List Plan → Bool
  | [] => false
  | e :: rest => e.looksAtWords || lookAtWords rest

end

/-- What a plan asks of a text that it matches: at least one character, perhaps none, or something
that no text has. -/
inductive Need where
  | nothing
  | something
  | impossible
  deriving DecidableEq, Repr

/-- What two plans in sequence ask. -/
def Need.both : Need → Need → Need
  | .impossible, _ => .impossible
  | _, .impossible => .impossible
  | .nothing, .nothing => .nothing
  | _, _ => .something

/-- What one of two plans asks. What is impossible for one is taken to be so for both. -/
def Need.either : Need → Need → Need
  | .impossible, _ => .impossible
  | _, .impossible => .impossible
  | .something, .something => .something
  | _, _ => .nothing

mutual

/-- What a plan asks of a text. -/
def need : Plan → Need
  | .empty => .nothing
  | .literal _ => .something
  | .set codes => if codes.charRanges.isEmpty then .impossible else .something
  | .look _ => .nothing
  | .repeated e min _ _ =>
    match e.need with
    | .something => if min = 0 then .nothing else .something
    | other => other
  | .capture e => e.need
  | .concat es => needOfAll es
  | .choice es => needOfSome es

/-- What plans in sequence ask of a text. -/
def needOfAll : List Plan → Need
  | [] => .nothing
  | e :: rest => e.need.both (needOfAll rest)

/-- What alternatives ask of a text. -/
def needOfSome : List Plan → Need
  | [] => .something
  | e :: rest => e.need.either (needOfSome rest)

end

/-- Whether a sequence demands something of the place that it borders on. Each part says whether it
does itself, and whether it is blank, so that the next part may do so as well. -/
def bordersDemand : List (Bool × Bool) → Bool
  | [] => false
  | (demand, blank) :: rest => demand || (blank && bordersDemand rest)

mutual

/-- Whether a plan matches only behind a place where a condition holds, or before one if `backward`
is set. -/
def demands (l : Look) (backward : Bool) : Plan → Bool
  | .empty => false
  | .literal _ => false
  | .set _ => false
  | .look k => k == l
  | .repeated e min _ _ => min != 0 && e.demands l backward
  | .capture e => e.demands l backward
  | .concat es =>
    let parts := demandsOf l backward es
    bordersDemand (if backward then parts.reverse else parts)
  | .choice es => (demandsOf l backward es).all (·.1)

/-- For each plan of a list, whether it demands a condition, and whether it is blank. -/
def demandsOf (l : Look) (backward : Bool) : List Plan → List (Bool × Bool)
  | [] => []
  | e :: rest => (e.demands l backward, e.isBlank) :: demandsOf l backward rest

end

mutual

/-- The regular expression of a plan. -/
def expr : Plan → Expr
  | .empty => .empty
  | .literal text => text.foldr (fun c e => (Expr.set (.ofRange c.toNat c.toNat)).followedBy e) .empty
  | .set codes => .set codes
  | .look l => .look l
  | .repeated e min max _ => .times e.expr min max
  | .capture e => e.expr
  | .concat es => exprOfAll es
  | .choice es => exprOfSome es

/-- The regular expression of plans in sequence. -/
def exprOfAll : List Plan → Expr
  | [] => .empty
  | e :: rest => e.expr.followedBy (exprOfAll rest)

/-- The regular expression of alternatives. -/
def exprOfSome : List Plan → Expr
  | [] => .set .empty
  | [e] => e.expr
  | e :: rest => .alt e.expr (exprOfSome rest)

end

end Plan

end ShapeCheck.Pattern
