import ShapeCheck.Json.Writer

/-!
# Produced documents

Documents that are produced and not checked: flags, counts, texts, lists, and records whose fields
keep their order.
-/

namespace ShapeCheck.Json

/-- A produced document. -/
inductive Output where
  | null
  | flag (b : Bool)
  | count (n : Nat)
  | text (s : String)
  | list (items : List Output)
  | record (fields : List (String × Output))
  deriving Repr

namespace Output

/-- A text, or null. -/
def ofText? (s : Option String) : Output :=
  match s with
  | some s => .text s
  | none => .null

mutual

/-- The document on one line. -/
def compact : Output → List Char
  | .null => "null".toList
  | .flag b => if b then "true".toList else "false".toList
  | .count n => Decimal.natDigits n
  | .text s => writeString s
  | .list items => enclose '[' ']' (compactItems items)
  | .record fields => enclose '\x7b' '\x7d' (compactFields fields)

/-- The items of a list on one line. -/
def compactItems : List Output → List (List Char)
  | [] => []
  | item :: rest => compact item :: compactItems rest

/-- The fields of a record on one line. -/
def compactFields : List (String × Output) → List (List Char)
  | [] => []
  | (name, field) :: rest => (writeString name ++ ':' :: compact field) :: compactFields rest

end

/-- The document as a line of text. -/
def line (o : Output) : String := String.ofList o.compact

end Output

end ShapeCheck.Json
