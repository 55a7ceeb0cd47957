import ShapeCheck.Check.Checker

/-!
# Reports

The report on a list of values: how many were checked, and which failed for what reason.
-/

namespace ShapeCheck

/-- A value that failed: its place and the violation (`CheckFailure`). -/
structure Failure where
  index : Nat
  violation : Violation

/-- Where a failed value stands in the input. -/
def Failure.path (f : Failure) : String := "$[" ++ toString f.index ++ "]"

/-- The report on a list of values (`CheckReport`). -/
structure Report where
  label : Option String
  seed : Option UInt64
  checkedCount : Nat
  failures : List Failure

namespace Report

/-- Whether no value failed. -/
def matched (r : Report) : Bool := r.failures.isEmpty

/-- The number of values that failed. -/
def failureCount (r : Report) : Nat := r.failures.length

end Report

namespace Checker

/-- The failure of a value at a place, if it fails. -/
def failure? (k : Checker) (declared : Option String) (text : String) (index : Nat) (v : Value) :
    Option Failure :=
  match (k.run v declared text).verdict with
  | .ok _ => none
  | .error violation => some ⟨index, violation⟩

/-- The failures of values whose places are counted from `start`. -/
def failuresFrom (k : Checker) (declared : Option String) (text : String) (start : Nat) :
    List Value → List Failure
  | [] => []
  | v :: rest =>
    (k.failure? declared text start v).toList ++ k.failuresFrom declared text (start + 1) rest

/-- Checks a list of values (`check_values`). -/
def report (k : Checker) (values : List Value) (text : String) (declared : Option String)
    (label : Option String) : Report where
  label := label
  seed := k.seed
  checkedCount := values.length
  failures := k.failuresFrom declared text 0 values

/-- The events of checking a list of values. -/
def reportEvents (k : Checker) (values : List Value) (text : String) (declared : Option String) :
    List Log.Event :=
  values.flatMap fun v => (k.run v declared text).events

end Checker

end ShapeCheck
