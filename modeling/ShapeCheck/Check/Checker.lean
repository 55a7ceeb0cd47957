import ShapeCheck.Check.Basic
import ShapeCheck.Constraint.BuildLog
import ShapeCheck.Sampling.Seeded

/-!
# Checkers

`checkText` parses a constraint for the type of a value, or for a declared one, and checks the value
against it. A `Checker` does so with a generator that starts anew for every value.
-/

namespace ShapeCheck

open Log Sampling

variable {σ : Type}

/-- The event of a violation that ends a check. -/
def Verdict.events : Verdict → List Event
  | .ok _ => []
  | .error violation => [.violation violation.kind violation.message]

/-- Checks a value against the constraint that a text writes for a type (`check_typed`). Where the
text builds nothing every value passes. -/
def checkText (sampler : Sampler σ) (v : Value) (t : ValueType) (text : String) (s : σ) :
    Outcome σ :=
  match parse t text.toList with
  | none => .pass s
  | some c =>
    let o := c.test sampler v s
    { o with events := parseEvents t text.toList ++ o.events ++ o.verdict.events }

/-- Checks a value against a constraint for its own type (`check_with`). -/
def checkWith (sampler : Sampler σ) (v : Value) (text : String) (s : σ) : Outcome σ :=
  checkText sampler v (.of v) text s

/-- A way to check values one by one (`Validator`). -/
structure Checker where
  /-- The seed from which random places are drawn anew for each value. -/
  seed : Option UInt64 := none
  /-- What stands in for the seed where none is given. -/
  entropy : UInt64 := 0

namespace Checker

/-- The generator for each value. -/
def generator (k : Checker) : Generator := .ofSeed (k.seed.getD k.entropy)

/-- The outcome of checking a value as one of a declared type, or else of its own (`run`). -/
def run (k : Checker) (v : Value) (declared : Option String) (text : String) : Outcome Generator :=
  let t := match declared with
    | some name => .ofName name.toList
    | none => ValueType.of v
  checkText seeded v t text k.generator

/-- Checks a value against a constraint for its own type (`Validator::check`). -/
def check (k : Checker) (v : Value) (text : String) : Verdict := (k.run v none text).verdict

/-- Checks a value against a constraint for a declared type (`check_as`). -/
def checkAs (k : Checker) (v : Value) (declared text : String) : Verdict :=
  (k.run v (some declared) text).verdict

/-- The message of a check, empty on success (`Validator::validate`). -/
def validate (k : Checker) (v : Value) (text : String) : String :=
  match k.check v text with
  | .ok _ => ""
  | .error violation => violation.message

end Checker

end ShapeCheck
