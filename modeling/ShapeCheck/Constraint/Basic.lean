import ShapeCheck.Selection.Mode
import ShapeCheck.Value.Type

/-!
# Constraints

A constraint is a record of rules for the values of one type, with a note and the first directive
that was not understood. The type of a constraint is that of its rules, so the two cannot differ.
Rules of arrays hold at most one constraint for the elements of each type.
-/

namespace ShapeCheck

/-- A rule that can ask for something, forbid something, or both. -/
structure TwoSided (α : Type) where
  wanted : Option α := none
  unwanted : Option α := none
  deriving DecidableEq, Repr

/-- Sets the side that a polarity names. -/
def TwoSided.set {α : Type} (r : TwoSided α) (negated : Bool) (x : α) : TwoSided α :=
  if negated then { r with unwanted := some x } else { r with wanted := some x }

/-- Rules for numbers. -/
structure NumberRules where
  integer : Bool := false
  positive : Bool := false
  negative : Bool := false
  notZero : Bool := false
  min : Option Float := none
  max : Option Float := none
  maxExclusive : Option Float := none

/-- Rules for texts. -/
structure StringRules where
  minLength : Option Nat := none
  maxLength : Option Nat := none
  startsWith : TwoSided String := {}
  endsWith : TwoSided String := {}
  contains : TwoSided String := {}
  pattern : TwoSided String := {}
  deriving DecidableEq, Repr

/-- Rules for objects. -/
structure ObjectRules where
  empty : Bool := false
  notEmpty : Bool := false
  required : List String := []
  forbidden : List String := []
  notNested : Bool := false
  noPrototype : Bool := false
  canSerialize : Bool := false
  noFalseyProps : Bool := false
  noTruthyProps : Bool := false
  instanceOf : TwoSided String := {}
  deriving DecidableEq, Repr

/-- At most one entry for each type that elements with rules can have (`element_constraints`). -/
structure ByType (α : Type) where
  number : Option α := none
  string : Option α := none
  boolean : Option α := none
  object : Option α := none
  array : Option α := none
  regex : Option α := none

namespace ByType

variable {α : Type}

/-- The entry for a type. -/
def get? (m : ByType α) : ValueType → Option α
  | .none => none
  | .number => m.number
  | .string => m.string
  | .boolean => m.boolean
  | .object => m.object
  | .array => m.array
  | .regex => m.regex

/-- Sets the entry for a type; there is none to set for the type of null. -/
def set (m : ByType α) (t : ValueType) (a : α) : ByType α :=
  match t with
  | .none => m
  | .number => { m with number := some a }
  | .string => { m with string := some a }
  | .boolean => { m with boolean := some a }
  | .object => { m with object := some a }
  | .array => { m with array := some a }
  | .regex => { m with regex := some a }

theorem get?_set (m : ByType α) (t u : ValueType) (a : α) :
    (m.set t a).get? u = if u = t ∧ t ≠ .none then some a else m.get? u := by
  cases t <;> cases u <;> rfl

/-- The types that can have an entry, in the order in which entries are listed. -/
def types : List ValueType := [.number, .string, .boolean, .object, .array, .regex]

/-- The entries with their types. -/
def toList (m : ByType α) : List (ValueType × α) :=
  types.filterMap fun t => (m.get? t).map (t, ·)

/-- Whether there is no entry. -/
def isEmpty (m : ByType α) : Bool := m.toList.isEmpty

end ByType

/-- Rules for arrays, over the constraints `α` of elements. -/
structure ArrayRules (α : Type) where
  minLength : Option Nat := none
  maxLength : Option Nat := none
  contains : TwoSided Value := {}
  elements : ByType α := {}
  mode : Option Mode := none
  /-- The first parameter of the mode, as written. -/
  first : Option String := none
  /-- The second parameter of the mode, as written. -/
  second : Option String := none

/-- Whether an array has elements to check (`has_element_checks`). -/
def ArrayRules.hasElementChecks {α : Type} (r : ArrayRules α) : Bool :=
  !r.elements.isEmpty || r.mode.isSome

/-- The rules for values of one type; truth values and regular expressions have no rules. -/
inductive Rules (α : Type) where
  | boolean
  | regex
  | number (r : NumberRules)
  | string (r : StringRules)
  | object (r : ObjectRules)
  | array (r : ArrayRules α)

namespace Rules

variable {α : Type}

/-- The type of the values that rules are for. -/
def valueType : Rules α → ValueType
  | .boolean => .boolean
  | .regex => .regex
  | .number _ => .number
  | .string _ => .string
  | .object _ => .object
  | .array _ => .array

/-- The rules for a type that ask for nothing; null has no rules (`Rules::for_type`). -/
def initial? : ValueType → Option (Rules α)
  | .none => none
  | .boolean => some .boolean
  | .regex => some .regex
  | .number => some (.number {})
  | .string => some (.string {})
  | .object => some (.object {})
  | .array => some (.array {})

theorem valueType_of_initial? {t : ValueType} {r : Rules α} (h : initial? t = some r) :
    r.valueType = t := by
  cases t with
  | none => cases h
  | _ => cases h; rfl

end Rules

/-- What values of one type have to satisfy. The representation takes over two invariants. The type
is read off the rules: no `value_type` stands beside them that could differ from theirs, and rules
that are empty for want of any (`Rules::Base`) are still those of truth values or of regular
expressions. The constraints for elements are a record with one place for each type (`ByType`), so
there is none for the type of null, which no block for elements can name. -/
structure Constraint where
  rules : Rules Constraint
  note : Option String := none
  /-- The first directive that was not understood. -/
  badName : Option String := none

namespace Constraint

/-- The type of the values that a constraint is for. -/
def valueType (c : Constraint) : ValueType := c.rules.valueType

/-- The constraint for a type that asks for nothing (`Constraint::new`). -/
def initial? (t : ValueType) : Option Constraint := (Rules.initial? t).map ({ rules := · })

theorem rules_of_initial? {t : ValueType} {first : Constraint} (h : initial? t = some first) :
    Rules.initial? t = some first.rules := by
  obtain ⟨r, hr, rfl⟩ := Option.map_eq_some_iff.mp h
  exact hr

theorem valueType_of_initial? {t : ValueType} {first : Constraint} (h : initial? t = some first) :
    first.valueType = t :=
  Rules.valueType_of_initial? (rules_of_initial? h)

end Constraint

end ShapeCheck
