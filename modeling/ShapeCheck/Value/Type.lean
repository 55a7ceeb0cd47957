import ShapeCheck.Text.Blank
import ShapeCheck.Text.Search
import ShapeCheck.Unicode.LetterCase
import ShapeCheck.Value.Basic

/-!
# Types of values

The seven types that values have, and the names under which they are declared. A name that is none
of the known ones is that of an array type if it says so, else that of a class of objects.
-/

namespace ShapeCheck

/-- The type of a value. -/
inductive ValueType where
  | none
  | number
  | string
  | boolean
  | object
  | array
  | regex
  deriving DecidableEq, Repr

namespace ValueType

/-- The name under which a type is shown (`ValueType::as_str`). -/
def name : ValueType → String
  | .none => "none"
  | .number => "number"
  | .string => "string"
  | .boolean => "boolean"
  | .object => "object"
  | .array => "array"
  | .regex => "regex"

/-- The type of a value (`ValueType::of`). -/
def of : Value → ValueType
  | .null => .none
  | .bool _ => .boolean
  | .number _ => .number
  | .string _ => .string
  | .array _ => .array
  | .object _ => .object
  | .regex _ => .regex

/-- The type that a trimmed name in lower case declares. -/
def ofFolded (name : List Char) : ValueType :=
  let spelled := String.ofList name
  if spelled = "none" ∨ spelled = "null" ∨ spelled = "undefined" then .none
  else if spelled = "number" then .number
  else if spelled = "string" then .string
  else if spelled = "boolean" ∨ spelled = "bool" then .boolean
  else if spelled = "object" then .object
  else if spelled = "array" then .array
  else if spelled = "regex" ∨ spelled = "regexp" then .regex
  else if Text.occursIn ['[', ']'] name || Text.occursIn "array".toList name then .array
  else .object

/-- The type that a name declares; case within ASCII and blanks at the ends do not matter
(`ValueType::from_name`). -/
def ofName (name : List Char) : ValueType :=
  ofFolded ((Text.trim name).map Unicode.toLowerAscii)

end ValueType

end ShapeCheck
