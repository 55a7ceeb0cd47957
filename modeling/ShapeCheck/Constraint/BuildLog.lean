import ShapeCheck.Constraint.Build
import ShapeCheck.Log.Event

/-!
# Events of building

What is reported while a block of directives is parsed: each directive that is not understood, the
directive that clears the constraint, and each constraint that is built, those for elements before
the one that holds them.
-/

namespace ShapeCheck

open Log

/-- How the events of parsing a block for a type are found. -/
abbrev BlockEvents := ValueType → List Char → List Event

/-- The events of the blocks for elements, in order. -/
def ElementBlock.events (nested : BlockEvents) (b : ElementBlock) : List Event :=
  if b.valueType = .none then [.unrecognizedDirective (String.ofList b.text) .none]
  else nested b.valueType b.rest

/-- Whether rules for a type understand a directive, which is the same for all of them. -/
def Rules.understand (t : ValueType) (k : Keyword) (negated : Bool) (d : Directive) : Bool :=
  (Rules.initial? t).any fun first => (Rules.adopt (fun _ _ => none) first k negated d).understood

/-- The events of one directive that does not clear the constraint. -/
def Directive.events (nested : BlockEvents) (t : ValueType) (d : Directive) : List Event :=
  match Keyword.ofName? d.name with
  | some (.note, _) => []
  | some (k, implied) =>
    if !Rules.understand t k (d.negated != implied) d then
      [.unrecognizedDirective (String.ofList d.text) t]
    else if t = .array ∧ k = .each then
      (ElementBlock.ofArgument (d.argumentText?.getD [])).flatMap (·.events nested)
    else []
  | none => [.unrecognizedDirective (String.ofList d.text) t]

/-- The events of a list of directives up to the one that clears the constraint; `built` ends a
list without such a one. -/
def directiveEvents (nested : BlockEvents) (t : ValueType) (built : List Event) :
    List Directive → List Event
  | [] => built
  | d :: ds =>
    if d.clears then [.noConstraint t]
    else d.events nested t ++ directiveEvents nested t built ds

/-- The events of parsing a block for a type. -/
def parseEvents (t : ValueType) (block : List Char) : List Event :=
  match parse t block with
  | none => []
  | some c =>
    directiveEvents
      (fun t rest => if rest.length < block.length then parseEvents t rest else [])
      t [.constraintBuilt c.describe] (Directive.tokenize block)
termination_by block.length

end ShapeCheck
