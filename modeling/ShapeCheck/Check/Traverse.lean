import ShapeCheck.Check.Outcome
import ShapeCheck.Selection.Indices
import ShapeCheck.Value.Basic

/-!
# Going through arrays

`traverse` checks the selected elements of an array one after the other and stops at the first
violation. The sampler's state passes from the selection to the elements and from each element to
the next.
-/

namespace ShapeCheck

open Log

variable {σ : Type}

/-- A check of values that may draw from a sampler. -/
abbrev ElementCheck (σ : Type) := Value → σ → Outcome σ

/-- Checks elements in order up to the first violation. Each comes with its place, which the event
of a violation tells. -/
def checkInOrder (check : ElementCheck σ) : List (Nat × Value) → σ → Outcome σ
  | [], s => .pass s
  | (index, item) :: rest, s =>
    let o := check item s
    match o.verdict with
    | .ok _ => (checkInOrder check rest o.state).after o.events
    | .error violation =>
      { o with events := o.events ++ [.elementViolation index violation.kind] }

/-- The elements at given places, with their places. -/
def elementsAt (items : List Value) (places : List Nat) : List (Nat × Value) :=
  places.filterMap fun i => items[i]?.map (i, ·)

/-- Checks the elements that a mode selects (`traverse`). -/
def traverse (sampler : Sampler σ) (check : ElementCheck σ) (items : List Value) (mode : Mode)
    (first second : Option String) (s : σ) : Outcome σ :=
  let (places, s) := selectIndices sampler items.length mode first second s
  (checkInOrder check (elementsAt items places) s).after
    [.elementTraversal mode items.length places.length]

end ShapeCheck
