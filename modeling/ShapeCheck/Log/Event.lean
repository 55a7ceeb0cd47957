import ShapeCheck.Selection.Mode
import ShapeCheck.Value.Type

/-!
# Log events

What the library reports about its work while it builds constraints, goes through arrays and checks
values. An event has a level, a target that names its origin, and fields.
-/

namespace ShapeCheck.Log

/-- The levels of events, from the gravest to the most detailed. -/
inductive Level where
  | error
  | warn
  | info
  | debug
  | trace
  deriving DecidableEq, Repr

namespace Level

/-- The name under which a level is shown. -/
def name : Level → String
  | .error => "ERROR"
  | .warn => "WARN"
  | .info => "INFO"
  | .debug => "DEBUG"
  | .trace => "TRACE"

/-- The rank of a level: one for the gravest, five for the most detailed. -/
def rank : Level → Nat
  | .error => 1
  | .warn => 2
  | .info => 3
  | .debug => 4
  | .trace => 5

end Level

/-- The value of a field. -/
inductive Field where
  | text (s : String)
  | count (n : Nat)
  deriving DecidableEq, Repr

/-- One reported fact. -/
inductive Event where
  | constraintBuilt (description : String)
  | unrecognizedDirective (directive : String) (valueType : ValueType)
  | noConstraint (valueType : ValueType)
  | elementTraversal (mode : Mode) (length selected : Nat)
  | elementViolation (index : Nat) (kind : String)
  | violation (kind message : String)
  deriving DecidableEq, Repr

namespace Event

/-- The level of an event. -/
def level : Event → Level
  | .constraintBuilt _ => .trace
  | _ => .debug

/-- The name of an event. -/
def name : Event → String
  | .constraintBuilt _ => "constraint_built"
  | .unrecognizedDirective _ _ => "unrecognized_directive"
  | .noConstraint _ => "no_constraint"
  | .elementTraversal _ _ _ => "element_traversal"
  | .elementViolation _ _ => "violation"
  | .violation _ _ => "violation"

/-- The origin of an event. -/
def target : Event → String
  | .constraintBuilt _ => "shapeq::engine::build"
  | .unrecognizedDirective _ _ => "shapeq::engine::build"
  | .noConstraint _ => "shapeq::engine::build"
  | .elementTraversal _ _ _ => "shapeq::engine::traverse"
  | .elementViolation _ _ => "shapeq::engine::traverse"
  | .violation _ _ => "shapeq::engine::validate"

/-- The fields of an event besides its name. -/
def details : Event → List (String × Field)
  | .constraintBuilt description => [("constraint", .text description)]
  | .unrecognizedDirective directive t =>
    [("directive", .text directive), ("value_type", .text t.name)]
  | .noConstraint t => [("value_type", .text t.name)]
  | .elementTraversal mode length selected =>
    [("mode", .text mode.name), ("len", .count length), ("selected", .count selected)]
  | .elementViolation index kind => [("index", .count index), ("kind", .text kind)]
  | .violation kind message => [("kind", .text kind), ("message", .text message)]

/-- All fields of an event. -/
def fields (e : Event) : List (String × Field) := ("event", .text e.name) :: e.details

end Event

end ShapeCheck.Log
