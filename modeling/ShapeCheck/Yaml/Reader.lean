import ShapeCheck.Decimal.Layout
import ShapeCheck.Input.Error
import ShapeCheck.Value.Basic
import ShapeCheck.Yaml.Node.Content
import ShapeCheck.Yaml.Node.Parser

/-!
# Reading YAML

`read` reads a text with at most one document as a value. The names of an object's properties are
the keys of a mapping in words; numbers that are not finite become null. A tag of the document's own
makes an object with the tag as its only name.
-/

namespace ShapeCheck.Yaml

open Input

/-- The name that a key is in an object, or why it can be none. -/
def keyName : Tree → Except Json.ReadCause String
  | .bool b => .ok (if b then "true" else "false")
  | .whole n => .ok (toString n)
  | .real x => if x.isFinite then .ok (Decimal.write .document x) else .error .keyNotFinite
  | .text s => .ok s
  | .null => .error .keyNotString
  | .list _ => .error .keyNotString
  | .pairs _ => .error .keyNotString
  | .tagged _ _ => .error .keyNotString

mutual

/-- The value of a tree. -/
def value : Tree → Except Json.ReadCause Value
  | .null => .ok .null
  | .bool b => .ok (.bool b)
  | .whole n => .ok (.number (Float.ofInt n))
  | .real x => .ok (if x.isFinite then .number x else .null)
  | .text s => .ok (.string s)
  | .list items => (valueItems items).map .array
  | .pairs entries => (valueEntries entries).map fun ps => .object (Object.ofList ps)
  | .tagged tag content => (value content).map fun v => .object (Object.ofList [(tag, v)])

/-- The values of a list of trees. -/
def valueItems : List Tree → Except Json.ReadCause (List Value)
  | [] => .ok []
  | t :: rest => do
    let v ← value t
    return v :: (← valueItems rest)

/-- The properties of a list of pairs. -/
def valueEntries : List (Tree × Tree) → Except Json.ReadCause (List (String × Value))
  | [] => .ok []
  | (k, t) :: rest => do
    let name ← keyName k
    let v ← value t
    return (name, v) :: (← valueEntries rest)

end

/-- The content of a text with at most one document; a text without one is null. -/
def tree? (text : List Char) : Option Tree := do
  if text.all isAllowed then
    match ← document? text with
    | some document => document.content?
    | none => some .null
  else none

/-- Reads a text (`read_yaml`). -/
def read (text : List Symbol) : Except InputError Value :=
  match (chars? text).bind tree? with
  | none => .error .yaml
  | some tree => (value tree).mapError .key

end ShapeCheck.Yaml
