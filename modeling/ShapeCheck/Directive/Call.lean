import ShapeCheck.Decimal.Layout
import ShapeCheck.Decimal.Reader
import ShapeCheck.Directive.Nesting
import ShapeCheck.Text.Blank
import ShapeCheck.Text.Search

/-!
# Calls and their arguments

A call is a name with an argument in parentheses. The argument is a list if it has a comma, a
number if it reads as a finite one, else a text.
-/

namespace ShapeCheck.Directive

open ShapeCheck.Text

/-- What stands between the parentheses of a call. -/
inductive Argument where
  | list (items : List (List Char))
  | number (x : Float)
  | text (t : List Char)

namespace Argument

/-- The parts of a text between the commas outside parentheses, trimmed and unquoted. -/
def splitItems (text : List Char) : List (List Char) :=
  (splitTopLevel ',' text).map fun item => stripQuotes (trim item)

/-- The argument that a text writes (`Argument::parse`). -/
def parse (raw : List Char) : Argument :=
  let text := stripQuotes (trim raw)
  if text.contains ',' then .list (splitItems text)
  else
    match (Decimal.readFloat? text).filter Float.isFinite with
    | some x => .number x
    | none => .text text

/-- The non-empty items of an argument; a number is the one item that shows it (`items`). -/
def items : Argument → List (List Char)
  | .list items => items.filter fun item => !item.isEmpty
  | .number x => [(Decimal.display x).toList]
  | .text t => if t.isEmpty then [] else [t]

end Argument

/-- A name with an argument in parentheses. -/
structure Call where
  name : List Char
  /-- The text between the parentheses, trimmed and unquoted. -/
  raw : List Char
  argument : Argument

namespace Call

/-- The call that a text writes: it ends in a closing parenthesis, and a name stands before the
first opening one (`Call::parse`). -/
def parse? (text : List Char) : Option Call :=
  let text := trim text
  if text.getLast? = some ')' then
    match cutAt? '(' text with
    | none => none
    | some (front, back) =>
      let name := trim front
      if name.isEmpty then none
      else
        let raw := stripQuotes (trim back.dropLast)
        some ⟨name, raw, .parse raw⟩
  else none

/-- The parameters of a call: none for a blank argument, else the parts between commas, empty ones
included (`params`). -/
def params (c : Call) : List (List Char) :=
  if (trim c.raw).isEmpty then [] else Argument.splitItems c.raw

end Call

end ShapeCheck.Directive
