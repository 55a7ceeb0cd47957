import ShapeCheck.Decimal.Reader
import ShapeCheck.Text.Blank
import ShapeCheck.Text.Search
import ShapeCheck.Value.Basic

/-!
# Literals

A literal is the text of one value inside a constraint: a quoted text, one of three words, a finite
number, or else the text itself.
-/

namespace ShapeCheck

/-- The value that a text writes (`from_literal`). -/
def Value.ofLiteral (raw : List Char) : Value :=
  let text := Text.trim raw
  match Text.unquote? text with
  | some inner => .string (String.ofList inner)
  | none =>
    if text = "true".toList then .bool true
    else if text = "false".toList then .bool false
    else if text = "null".toList then .null
    else
      match (Decimal.readFloat? text).filter Float.isFinite with
      | some x => .number x
      | none => .string (String.ofList text)

end ShapeCheck
