import ShapeCheck.Constraint.Basic
import ShapeCheck.Value.Display

/-!
# Constraints as text

`Constraint.directives` writes the rules of a constraint as the directives that lead to them, and
`Constraint.describe` adds the type, the note and the directive that was not understood.
-/

namespace ShapeCheck

/-- The directive of a flag that is set (`flag`). -/
def flagText (enabled : Bool) (name : String) : List String :=
  if enabled then [name] else []

/-- The directive of a bound or text that is given (`keyed`). -/
def keyedText (name : String) (shown : Option String) : List String :=
  match shown with
  | some text => [name ++ "=" ++ text]
  | none => []

/-- The directives of both sides of a rule, the unwanted one negated. -/
def twoSidedText (name : String) (r : TwoSided String) : List String :=
  keyedText name r.wanted ++ keyedText ("!" ++ name) r.unwanted

/-- The directive of a list of names that is not empty. -/
def namesText (name : String) (names : List String) : List String :=
  if names.isEmpty then [] else [name ++ "(" ++ ",".intercalate names ++ ")"]

/-- A length as text. -/
def lengthText (n : Nat) : String := String.ofList (Decimal.natDigits n)

namespace NumberRules

/-- The directives of rules for numbers. -/
def directives (r : NumberRules) : List String :=
  flagText r.integer "integer" ++ flagText r.notZero "notZero" ++
    flagText r.positive "positive" ++ flagText r.negative "negative" ++
    keyedText "min" (r.min.map Decimal.display) ++ keyedText "max" (r.max.map Decimal.display) ++
    keyedText "maxx" (r.maxExclusive.map Decimal.display)

end NumberRules

namespace StringRules

/-- The directives of rules for texts. -/
def directives (r : StringRules) : List String :=
  keyedText "minLength" (r.minLength.map lengthText) ++
    keyedText "maxLength" (r.maxLength.map lengthText) ++
    twoSidedText "startsWith" r.startsWith ++ twoSidedText "endsWith" r.endsWith ++
    twoSidedText "contains" r.contains ++ twoSidedText "match" r.pattern

end StringRules

namespace ObjectRules

/-- The directives of rules for objects. -/
def directives (r : ObjectRules) : List String :=
  flagText r.empty "empty" ++ flagText r.notEmpty "!empty" ++
    namesText "hasProperties" r.required ++ namesText "!hasProperties" r.forbidden ++
    flagText r.notNested "notNested" ++ flagText r.noPrototype "noPrototype" ++
    flagText r.canSerialize "canSerialize" ++ flagText r.noFalseyProps "noFalseyProps" ++
    flagText r.noTruthyProps "noTruthyProps" ++ twoSidedText "instanceOf" r.instanceOf

end ObjectRules

/-- The directive of a mode with the parameters that are given. -/
def modeText (mode : Option Mode) (first second : Option String) : List String :=
  match mode with
  | none => []
  | some m =>
    let params := first.toList ++ second.toList
    if params.isEmpty then ["checkType=" ++ m.name]
    else ["checkType=" ++ m.name ++ "(" ++ ",".intercalate params ++ ")"]

/-- The directive of the constraints for elements, each already written as one block. -/
def eachText (blocks : List String) : List String :=
  if blocks.isEmpty then [] else ["each(" ++ "|".intercalate blocks ++ ")"]

mutual

/-- The directives of the rules of a constraint (`directives`). -/
def Constraint.directives : Constraint → List String
  | ⟨rules, _, _⟩ => rulesDirectives rules

/-- The directives of rules. -/
def rulesDirectives : Rules Constraint → List String
  | .boolean => []
  | .regex => []
  | .number r => r.directives
  | .string r => r.directives
  | .object r => r.directives
  | .array r => arrayDirectives r

/-- The directives of rules for arrays. -/
def arrayDirectives : ArrayRules Constraint → List String
  | ⟨minLength, maxLength, contains, elements, mode, first, second⟩ =>
    keyedText "minLength" (minLength.map lengthText) ++
      keyedText "maxLength" (maxLength.map lengthText) ++
      twoSidedText "contains" ⟨contains.wanted.map Value.display,
        contains.unwanted.map Value.display⟩ ++
      eachText (elementBlocks elements) ++ modeText mode first second

/-- The blocks of the constraints for elements. -/
def elementBlocks : ByType Constraint → List String
  | ⟨number, string, boolean, object, array, regex⟩ =>
    elementBlock .number number ++ elementBlock .string string ++
      elementBlock .boolean boolean ++ elementBlock .object object ++
      elementBlock .array array ++ elementBlock .regex regex

/-- The block of the constraint for elements of a type: the name of the type, then directives. -/
def elementBlock (t : ValueType) : Option Constraint → List String
  | none => []
  | some c => [",".intercalate (t.name :: c.directives)]

end

/-- A constraint in words (`Constraint::fmt`). -/
def Constraint.describe (c : Constraint) : String :=
  let directives := c.directives
  c.valueType.name ++ ": " ++
    (if directives.isEmpty then "any" else ", ".intercalate directives) ++
    (match c.note with
      | some note => " (note: " ++ note ++ ")"
      | none => "") ++
    (match c.badName with
      | some name => " (unrecognized directive `" ++ name ++ "`)"
      | none => "")

end ShapeCheck
