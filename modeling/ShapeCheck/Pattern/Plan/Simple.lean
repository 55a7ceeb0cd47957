import ShapeCheck.Pattern.Plan

/-!
# Simple plans

Plans are put together by functions that keep them small: neighbouring characters are one text,
sequences and alternatives do not lie directly within their like, alternatives of single characters
or of sets are one set, and a beginning that all alternatives share stands before them.
-/

namespace ShapeCheck.Pattern

open Unicode

namespace Plan

/-- The plan of a set. One character is a text. -/
def ofSet (codes : CodeSet) : Plan :=
  match codes.charRanges with
  | [] => .set .empty
  | [(low, high)] => if low = high then .literal [Char.ofNat low] else .set codes
  | _ => .set codes

/-- The parts of a plan as a sequence. -/
def parts : Plan → List Plan
  | .empty => []
  | .concat es => es
  | e => [e]

/-- The parts of a sequence with neighbouring texts joined. -/
def joinTexts : List Plan → List Plan
  | [] => []
  | .literal s :: rest =>
    match joinTexts rest with
    | .literal t :: more => .literal (s ++ t) :: more
    | more => .literal s :: more
  | e :: rest => e :: joinTexts rest

/-- Plans in sequence. -/
def sequence (es : List Plan) : Plan :=
  match joinTexts (es.flatMap parts) with
  | [] => .empty
  | [e] => e
  | es => .concat es

/-- A repetition. What matches only the empty text is repeated once at most. -/
def repetition (e : Plan) (min : Nat) (max : Option Nat) (greedy : Bool) : Plan :=
  let (min, max) :=
    if e.isBlank then (Nat.min min 1, some (Nat.min (max.getD 1) 1)) else (min, max)
  if max = some 0 then .empty
  else if min = 1 ∧ max = some 1 then e
  else .repeated e min max greedy

/-- The alternatives of a plan. -/
def alternatives : Plan → List Plan
  | .choice es => es
  | e => [e]

/-- The character of a text that has one only. -/
def single? : Plan → Option CodeSet
  | .literal [c] => some (.ofRange c.toNat c.toNat)
  | _ => none

/-- The members of a set. -/
def set? : Plan → Option CodeSet
  | .set codes => some codes
  | _ => none

/-- The set that alternatives come to if all are single characters or all are sets. -/
def merged? (es : List Plan) : Option CodeSet :=
  (es.mapM single? <|> es.mapM set?).map CodeSet.unionAll

/-- The parts of a plan that is a sequence. -/
def sequence? : Plan → Option (List Plan)
  | .concat es => some es
  | _ => none

/-- The number of parts that two sequences share at their beginnings. -/
def sharedSize : List Plan → List Plan → Nat
  | e :: es, e' :: es' => if e.same e' then sharedSize es es' + 1 else 0
  | _, _ => 0

/-- The beginning that alternatives share, if all are sequences, and what is left of each. -/
def sharedStart? (es : List Plan) : Option (List Plan × List (List Plan)) := do
  let sequences ← es.mapM sequence?
  match sequences with
  | [] => none
  | first :: rest =>
    let size := rest.foldl (fun n other => Nat.min n (sharedSize first other)) first.length
    if size = 0 then none else some (first.take size, sequences.map (·.drop size))

/-- Alternatives. Beginnings that are shared are taken out at most so many times. -/
def choiceWithin : Nat → List Plan → Plan
  | fuel, es =>
    match es.flatMap alternatives with
    | [] => .set .empty
    | [e] => e
    | es =>
      match merged? es with
      | some codes => ofSet codes
      | none =>
        match fuel, sharedStart? es with
        | fuel + 1, some (start, rests) =>
          sequence (start ++ [choiceWithin fuel (rests.map sequence)])
        | _, _ => .choice es

mutual

/-- The number of plans within a plan, itself included. -/
def weight : Plan → Nat
  | .empty => 1
  | .literal _ => 1
  | .set _ => 1
  | .look _ => 1
  | .repeated e _ _ _ => e.weight + 1
  | .capture e => e.weight + 1
  | .concat es => weights es + 1
  | .choice es => weights es + 1

/-- The number of plans within the plans of a list. -/
def weights : List Plan → Nat
  | [] => 0
  | e :: rest => e.weight + weights rest

end

/-- Alternatives. A beginning is taken out of sequences that lie within the alternatives, so this
happens less often than there are plans within them. -/
def oneOf (es : List Plan) : Plan := choiceWithin (weights es) es

end Plan

end ShapeCheck.Pattern
