import ShapeCheck.Pattern.Plan
import ShapeCheck.Pattern.SetBuilder

/-!
# The size of patterns

A pattern is refused when one of two automata of it takes too much room: the one that reads forward
and notes where groups begin and end, and the one that reads backward and notes nothing.
-/

namespace ShapeCheck.Pattern

open Building

namespace Plan

mutual

/-- Builds the automaton of a plan. Groups are noted only when reading forward. -/
def build (backward : Bool) : Plan → Part
  | .empty => blank
  | .literal text => do
    plainStates (encodeText text).length
    return false
  | .set codes => charSet backward codes
  | .look _ => blank
  | .repeated e min max _ => Building.repetition (e.build backward) (e.need == .something) min max
  | .capture e =>
    if backward then e.build backward
    else do
      let _ ← state 0
      leave (← e.build backward)
      blank
  | .concat es =>
    let parts := buildAll backward es
    Building.sequence (if backward then parts.reverse else parts)
  | .choice es =>
    match es.mapM text? with
    | some texts =>
      literals (texts.map fun text =>
        if backward then (encodeText text).reverse else encodeText text)
    | none => Building.choice (buildAll backward es)

/-- Builds the automata of plans. -/
def buildAll (backward : Bool) : List Plan → List Part
  | [] => []
  | e :: rest => e.build backward :: buildAll backward rest

end

/-- Builds the whole automaton: what passes over the text around a match, unless the match has to
stand at the border of the text, then the plan between two notes if groups are noted, and the state
of a match. -/
def buildWhole (backward : Bool) (e : Plan) : Building Unit := do
  if e.demands (if backward then .finish else .start) backward then
    let _ ← state 0
  else
    let _ ← state (2 * branchRoom)
    let _ ← state 0
    let _ ← state rangeRoom
  leave (← (Plan.capture e).build backward)
  let _ ← state 0

/-- Whether an automaton of a plan takes more room than is allowed. -/
def isTooLarge (e : Plan) : Bool :=
  ((e.buildWhole false).run {}).isNone || ((e.buildWhole true).run {}).isNone

end Plan

end ShapeCheck.Pattern
