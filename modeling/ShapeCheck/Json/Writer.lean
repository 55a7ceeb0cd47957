import ShapeCheck.Decimal.Layout
import ShapeCheck.Text.Quoted
import ShapeCheck.Value.Basic

/-!
# Writing JSON

The compact JSON text of a value. Numbers are always written as doubles. Regular expressions and
numbers that are not finite have no JSON text: the first of them in the order of writing is the
cause of failure.
-/

namespace ShapeCheck.Json

/-- Why a value has no JSON text. -/
inductive WriteError where
  | nonFinite (x : Float)
  | regex (source : String)

/-- The wording of a cause. -/
def WriteError.message : WriteError → String
  | .nonFinite x => "non-finite number " ++ Decimal.display x ++ " has no structural form"
  | .regex source => "regex /" ++ source ++ "/ has no structural form"

/-- One character as it stands in a JSON string. -/
def escapeChar (c : Char) : List Char :=
  if c = '"' then ['\\', '"']
  else if c = '\\' then ['\\', '\\']
  else if c = '\n' then ['\\', 'n']
  else if c = '\r' then ['\\', 'r']
  else if c = '\t' then ['\\', 't']
  else if c.toNat = 8 then ['\\', 'b']
  else if c.toNat = 12 then ['\\', 'f']
  else if c.toNat < 32 then
    ['\\', 'u', '0', '0', Nat.digitChar (c.toNat / 16), Nat.digitChar (c.toNat % 16)]
  else [c]

/-- A JSON string. -/
def writeString (s : String) : List Char :=
  '"' :: s.toList.flatMap escapeChar ++ ['"']

/-- A JSON number. -/
def writeNumber (x : Float) : List Char := (Decimal.write .document x).toList

/-- Members between brackets, with commas between them. -/
def enclose (opening closing : Char) (members : List (List Char)) : List Char :=
  opening :: [','].intercalate members ++ [closing]

mutual

/-- The JSON text of a value (`serialize`). -/
def write : Value → Except WriteError (List Char)
  | .null => .ok "null".toList
  | .bool flag => .ok (if flag then "true".toList else "false".toList)
  | .number x => if x.isFinite then .ok (writeNumber x) else .error (.nonFinite x)
  | .string s => .ok (writeString s)
  | .array items => (writeItems items).map (enclose '[' ']')
  | .object o => writeObject o
  | .regex source => .error (.regex source)

/-- The JSON texts of the items of an array. -/
def writeItems : List Value → Except WriteError (List (List Char))
  | [] => .ok []
  | v :: rest =>
    match write v with
    | .error e => .error e
    | .ok text => (writeItems rest).map (text :: ·)

/-- The JSON text of an object. -/
def writeObject : Object Value → Except WriteError (List Char)
  | ⟨_, properties⟩ => (writeProperties properties).map (enclose '\x7b' '\x7d')

/-- The JSON texts of the properties of an object. -/
def writeProperties : List (String × Value) → Except WriteError (List (List Char))
  | [] => .ok []
  | (key, v) :: rest =>
    match write v with
    | .error e => .error e
    | .ok text => (writeProperties rest).map ((writeString key ++ ':' :: text) :: ·)

end

end ShapeCheck.Json
