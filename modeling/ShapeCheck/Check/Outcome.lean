import ShapeCheck.Check.Violation
import ShapeCheck.Log.Event

/-!
# Outcomes

What a check leaves behind: its verdict, the state of the sampler after it, and the events it
reported.
-/

namespace ShapeCheck

/-- Nothing is wrong, or this is. -/
abbrev Verdict := Except Violation Unit

/-- The first verdict that something is wrong, in the order given. -/
def Verdict.first : List Verdict → Verdict
  | [] => .ok ()
  | .ok _ :: rest => first rest
  | .error violation :: _ => .error violation

/-- The verdict that a violation is wrong unless a test holds. -/
def Verdict.unless (holds : Bool) (violation : Violation) : Verdict :=
  if holds then .ok () else .error violation

theorem Verdict.eq_of_unless {holds : Bool} {violation blamed : Violation}
    (h : Verdict.unless holds blamed = .error violation) : violation = blamed := by
  cases holds with
  | true => cases h
  | false => exact (Except.error.inj h).symm

/-- Only the type of a value is tested. -/
def Verdict.ofType (expected : ValueType) (v : Value) : Verdict :=
  .unless (ValueType.of v == expected) (.basicType expected (ValueType.of v))

/-- What a check leaves behind. -/
structure Outcome (σ : Type) where
  verdict : Verdict
  state : σ
  events : List Log.Event := []

namespace Outcome

variable {σ : Type}

/-- The outcome of a check that asks no sampler. -/
def of (verdict : Verdict) (s : σ) : Outcome σ := { verdict, state := s }

/-- The outcome of a check of the type alone. -/
def ofType (expected : ValueType) (v : Value) (s : σ) : Outcome σ := of (.ofType expected v) s

/-- Nothing is wrong and nothing was done. -/
def pass (s : σ) : Outcome σ := of (.ok ()) s

/-- An outcome with events reported before it. -/
def after (o : Outcome σ) (events : List Log.Event) : Outcome σ :=
  { o with events := events ++ o.events }

end Outcome

end ShapeCheck
