import ShapeCheck.Check.Rules
import ShapeCheck.Check.Traverse

/-!
# Checking values

`Constraint.test` checks a value against a constraint. A value of another type breaks it at once;
elements of arrays are checked against the constraint for their own type, if there is one.
-/

namespace ShapeCheck

variable {σ : Type}

mutual

/-- Checks a value against a constraint (`evaluate::test`). -/
def Constraint.test (sampler : Sampler σ) : Constraint → Value → σ → Outcome σ
  | ⟨rules, _, _⟩, v, s => testRules sampler rules v s

/-- Checks a value against rules. -/
def testRules (sampler : Sampler σ) : Rules Constraint → Value → σ → Outcome σ
  | .boolean, v, s => .ofType .boolean v s
  | .regex, v, s => .ofType .regex v s
  | .number r, v, s =>
    match v with
    | .number x => .of (r.test x) s
    | _ => .ofType .number v s
  | .string r, v, s =>
    match v with
    | .string text => .of (r.test text) s
    | _ => .ofType .string v s
  | .object r, v, s =>
    match v with
    | .object o => .of (r.test o) s
    | _ => .ofType .object v s
  | .array r, v, s =>
    match v with
    | .array items => testArray sampler r items s
    | _ => .ofType .array v s

/-- Checks the items of an array against rules (`array::test`). Elements are looked at if there are
constraints for them or a mode, which is all of them where none is given. -/
def testArray (sampler : Sampler σ) : ArrayRules Constraint → List Value → σ → Outcome σ
  | ⟨minLength, maxLength, contains, elements, mode, first, second⟩, items, s =>
    let r : ArrayRules Constraint := ⟨minLength, maxLength, contains, elements, mode, first, second⟩
    match r.testOwn items with
    | .error violation => .of (.error violation) s
    | .ok _ =>
      if r.hasElementChecks then
        traverse sampler (testElement sampler elements) items (mode.getD .all) first second s
      else .pass s

/-- Checks an element against the constraint for its type. -/
def testElement (sampler : Sampler σ) : ByType Constraint → Value → σ → Outcome σ
  | ⟨number, string, boolean, object, array, regex⟩, v, s =>
    match ValueType.of v with
    | .none => .pass s
    | .number => testEntry sampler number v s
    | .string => testEntry sampler string v s
    | .boolean => testEntry sampler boolean v s
    | .object => testEntry sampler object v s
    | .array => testEntry sampler array v s
    | .regex => testEntry sampler regex v s

/-- Checks a value against the constraint of an entry, if there is one. -/
def testEntry (sampler : Sampler σ) : Option Constraint → Value → σ → Outcome σ
  | none, _, s => .pass s
  | some c, v, s => c.test sampler v s

end

end ShapeCheck
