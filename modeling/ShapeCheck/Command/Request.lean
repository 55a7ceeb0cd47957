import ShapeCheck.Input.Error

/-!
# Requests

What a command is asked to do.
-/

namespace ShapeCheck.Command

open Input

/-- A request to check every value of an input (`CheckCommandArgs`). -/
structure CheckRequest where
  constraint : String
  /-- The type that the values are declared to have; else each has its own. -/
  declared : Option String := none
  /-- The file that holds the input. -/
  path : Option String := none
  format : Option Format := none
  seed : Option UInt64 := none
  label : Option String := none
  deriving DecidableEq, Repr

/-- A request to describe a constraint (`DescribeCommandArgs`). -/
structure DescribeRequest where
  declared : String
  constraint : String
  deriving DecidableEq, Repr

/-- What is asked for. -/
inductive Request where
  | check (request : CheckRequest)
  | describe (request : DescribeRequest)
  | version
  | help
  deriving DecidableEq, Repr

end ShapeCheck.Command
