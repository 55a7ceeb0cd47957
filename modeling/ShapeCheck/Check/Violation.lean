import ShapeCheck.Json.Writer
import ShapeCheck.Value.Display
import ShapeCheck.Value.Type

/-!
# Violations

Why a value does not satisfy a constraint. `Violation.kind` is the class of a cause and
`Violation.message` its wording.
-/

namespace ShapeCheck

/-- A bound on numbers. -/
inductive NumberBound where
  | min
  | max
  | maxExclusive
  deriving DecidableEq, Repr

namespace NumberBound

/-- The directive that sets a bound. -/
def directive : NumberBound → String
  | .min => "min"
  | .max => "max"
  | .maxExclusive => "maxx"

/-- On which side of a bound a value lies that it excludes. -/
def direction : NumberBound → String
  | .min => "below the minimum"
  | .max => "above the maximum"
  | .maxExclusive => "not below the exclusive maximum"

end NumberBound

/-- A bound on lengths. -/
inductive LengthBound where
  | min
  | max
  deriving DecidableEq, Repr

namespace LengthBound

/-- The directive that sets a bound. -/
def directive : LengthBound → String
  | .min => "minLength"
  | .max => "maxLength"

/-- On which side of a bound a length lies that it excludes. -/
def direction : LengthBound → String
  | .min => "below the minimum"
  | .max => "above the maximum"

end LengthBound

/-- How a text can stand to another one. -/
inductive TextRelation where
  | startsWith
  | endsWith
  | contains
  deriving DecidableEq, Repr

namespace TextRelation

/-- The directive that asks for a relation. -/
def directive : TextRelation → String
  | .startsWith => "startsWith"
  | .endsWith => "endsWith"
  | .contains => "contains"

/-- The relation as a statement about a text. -/
def holds : TextRelation → String
  | .startsWith => "starts with"
  | .endsWith => "ends with"
  | .contains => "contains"

/-- The denial of a relation. -/
def fails : TextRelation → String
  | .startsWith => "does not start with"
  | .endsWith => "does not end with"
  | .contains => "does not contain"

end TextRelation

/-- The directives that cannot both hold. -/
inductive Conflict where
  | sign
  | text (relation : TextRelation)
  | pattern
  | items
  | emptiness
  | property (name : String)
  deriving DecidableEq, Repr

namespace Conflict

/-- The two sides of a conflict. -/
def sides : Conflict → String × String
  | .sign => ("positive", "negative")
  | .text relation => (relation.directive, "!" ++ relation.directive)
  | .pattern => ("match", "!match")
  | .items => ("contains", "!contains")
  | .emptiness => ("empty", "!empty")
  | .property name => ("hasProperties(" ++ name ++ ")", "!hasProperties(" ++ name ++ ")")

end Conflict

/-- A rule that a value of the right type breaks, with what there is to say about it. -/
inductive BrokenRule where
  | text (relation : TextRelation) (wanted : Bool) (subject operand : String)
  | noMatch (subject pattern : String)
  | unwantedMatch (subject pattern : String)
  | invalidPattern (pattern : String)
  | missingItem (item : Value)
  | unwantedItem (item : Value)
  | notEmpty (size : Nat)
  | empty
  | missingProperty (name : String)
  | unwantedProperty (name : String)
  | nested (name : String)
  | derived (className : String)
  | noJson (cause : Json.WriteError)
  | falseyProperty (name : String) (value : Value)
  | truthyProperty (name : String) (value : Value)
  | otherClass (className wanted : String)
  | unwantedClass (className : String)

namespace BrokenRule

/-- The directive that states a rule. For an unwanted relation between texts it is that of the
relation. -/
def directive : BrokenRule → String
  | .text relation _ _ _ => relation.directive
  | .noMatch _ _ => "match"
  | .unwantedMatch _ _ => "!match"
  | .invalidPattern _ => "match"
  | .missingItem _ => "contains"
  | .unwantedItem _ => "!contains"
  | .notEmpty _ => "empty"
  | .empty => "!empty"
  | .missingProperty _ => "hasProperties"
  | .unwantedProperty _ => "!hasProperties"
  | .nested _ => "notNested"
  | .derived _ => "noPrototype"
  | .noJson _ => "canSerialize"
  | .falseyProperty _ _ => "noFalseyProps"
  | .truthyProperty _ _ => "noTruthyProps"
  | .otherClass _ _ => "instanceOf"
  | .unwantedClass _ => "!instanceOf"

/-- What is wrong. A pattern that cannot be compiled is only named: the account that the pattern
engine gives of the error, which follows in the message, is left out. -/
def reason : BrokenRule → String
  | .text relation wanted subject operand =>
    Text.quote subject ++ " " ++ (if wanted then relation.fails else relation.holds) ++ " " ++
      Text.quote operand
  | .noMatch subject pattern => Text.quote subject ++ " does not match /" ++ pattern ++ "/"
  | .unwantedMatch subject pattern => Text.quote subject ++ " matches /" ++ pattern ++ "/"
  | .invalidPattern pattern => "invalid pattern /" ++ pattern ++ "/"
  | .missingItem item => "array does not contain " ++ item.display
  | .unwantedItem item => "array contains " ++ item.display
  | .notEmpty size => "object has " ++ toString size ++ " own properties"
  | .empty => "object has no own properties"
  | .missingProperty name => "missing property `" ++ name ++ "`"
  | .unwantedProperty name => "forbidden property `" ++ name ++ "` is present"
  | .nested name => "property `" ++ name ++ "` is a nested object"
  | .derived className => "object derives from `" ++ className ++ "`"
  | .noJson cause => "object cannot be serialized: " ++ cause.message
  | .falseyProperty name value => "property `" ++ name ++ "` is falsey (" ++ value.display ++ ")"
  | .truthyProperty name value => "property `" ++ name ++ "` is truthy (" ++ value.display ++ ")"
  | .otherClass className wanted =>
    "object is an instance of `" ++ className ++ "`, not `" ++ wanted ++ "`"
  | .unwantedClass className => "object is an instance of `" ++ className ++ "`"

end BrokenRule

/-- Why a value does not satisfy a constraint. -/
inductive Violation where
  | basicType (expected actual : ValueType)
  | numberRange (bound : NumberBound) (actual limit : Float)
  | lengthRange (bound : LengthBound) (actual limit : Nat)
  | notInteger (x : Float)
  | notPositive (x : Float)
  | notNegative (x : Float)
  | zero
  | conflict (c : Conflict)
  | rule (r : BrokenRule)

namespace Violation

/-- The class of a violation (`Violation::kind`). -/
def kind : Violation → String
  | .basicType _ _ => "basic_type"
  | .numberRange _ _ _ => "range"
  | .lengthRange _ _ _ => "range"
  | .notInteger _ => "integer"
  | .notPositive _ => "positive"
  | .notNegative _ => "negative"
  | .zero => "zero_not_allowed"
  | .conflict _ => "directive_conflict"
  | .rule _ => "rule"

/-- A length in a message, shown as the nearest double. -/
def shownLength (n : Nat) : String := Decimal.display (Float.ofNat n)

/-- A violation in words (`Violation::fmt`). -/
def message : Violation → String
  | .basicType expected actual =>
    "expected type " ++ expected.name ++ " but found " ++ actual.name
  | .numberRange bound actual limit =>
    "value " ++ Decimal.display actual ++ " is " ++ bound.direction ++ " (" ++ bound.directive ++
      "=" ++ Decimal.display limit ++ ")"
  | .lengthRange bound actual limit =>
    "length " ++ shownLength actual ++ " is " ++ bound.direction ++ " (" ++ bound.directive ++
      "=" ++ shownLength limit ++ ")"
  | .notInteger x => Decimal.display x ++ " is not an integer"
  | .notPositive x => Decimal.display x ++ " is not positive"
  | .notNegative x => Decimal.display x ++ " is not negative"
  | .zero => "zero is not allowed"
  | .conflict c => "conflicting directives `" ++ c.sides.1 ++ "` and `" ++ c.sides.2 ++ "`"
  | .rule r => r.directive ++ " failed: " ++ r.reason

end Violation

end ShapeCheck
