import ShapeCheck.Decimal.Layout
import ShapeCheck.Text.Quoted
import ShapeCheck.Value.Basic

/-!
# Values in messages

The text of a value as messages and descriptions show it: quoted texts, numbers without exponents,
objects with the name of their class unless it is the plain one.
-/

namespace ShapeCheck.Value

mutual

/-- A value as a message shows it (`Value::fmt`). -/
def display : Value → String
  | .null => "null"
  | .bool flag => if flag then "true" else "false"
  | .number x => Decimal.display x
  | .string s => Text.quote s
  | .array items => "[" ++ ",".intercalate (displayItems items) ++ "]"
  | .object o => displayObject o
  | .regex source => "/" ++ source ++ "/"

/-- The items of an array as a message shows them. -/
def displayItems : List Value → List String
  | [] => []
  | v :: rest => display v :: displayItems rest

/-- An object as a message shows it. -/
def displayObject : Object Value → String
  | ⟨className, properties⟩ =>
    (if className = plainClass then "" else className ++ " ") ++
      "\x7b" ++ ",".intercalate (displayProperties properties) ++ "\x7d"

/-- The properties of an object as a message shows them. -/
def displayProperties : List (String × Value) → List String
  | [] => []
  | (key, v) :: rest => (Text.quote key ++ ":" ++ display v) :: displayProperties rest

end

end ShapeCheck.Value
