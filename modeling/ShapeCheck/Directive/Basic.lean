import ShapeCheck.Directive.Call

/-!
# Directives

A constraint is written as a block of directives between commas. A directive is a keyword, a
keyword with a value behind an equals sign, or a call, and may be negated by an exclamation mark.

`tokenize` sets the commas inside parentheses aside before it cuts a block at its commas: they
stand as unit separators until the block is cut, and every unit separator reads as a comma after.
-/

namespace ShapeCheck

open ShapeCheck.Text

/-- One parsed directive. -/
structure Directive where
  /-- The directive as written, without blanks at the ends and without the exclamation mark. -/
  text : List Char
  negated : Bool
  name : List Char
  value : Option (List Char)
  call : Option Directive.Call

namespace Directive

/-- The exclamation mark at the front of a trimmed directive, and what follows it. -/
def splitBang : List Char → Bool × List Char
  | '!' :: rest => (true, trimStart rest)
  | text => (false, text)

/-- The directive that a text writes; a blank text writes none (`Directive::parse`). -/
def parse? (raw : List Char) : Option Directive :=
  let (negated, text) := splitBang (trim raw)
  if text.isEmpty then none
  else
    let (head, value) :=
      match cutTopLevel? '=' text with
      | some (front, back) => (trim front, some (trim back))
      | none => (text, none)
    match Call.parse? head with
    | some call => some ⟨text, negated, call.name, value, some call⟩
    | none => some ⟨text, negated, head, value, none⟩

/-- The argument as one text: the unquoted value, or else what the call holds (`argument_text`). -/
def argumentText? (d : Directive) : Option (List Char) :=
  match d.value with
  | some value => some (stripQuotes value)
  | none => d.call.map (·.raw)

/-- The value as written, or else what the call holds. -/
def rawArgument? (d : Directive) : Option (List Char) :=
  d.value <|> d.call.map (·.raw)

/-- The argument as items: those of the call, or else those of the value (`argument_items`). -/
def argumentItems (d : Directive) : List (List Char) :=
  match d.call, d.value with
  | some call, _ => call.argument.items
  | none, some value => (Argument.parse value).items
  | none, none => []

/-- The character that stands for a comma inside parentheses while a block is cut
(`COMMA_SENTINEL`). -/
def unitSeparator : Char := Char.ofNat 0x1f

/-- A text with a unit separator for every comma inside parentheses, from a nesting depth on
(`protect_commas`). -/
def setAside (depth : Nat) : List Char → List Char
  | [] => []
  | c :: text =>
    (if c = ',' ∧ 0 < depth then unitSeparator else c) :: setAside (deepen depth c) text

/-- A text with a comma for every unit separator. -/
def restore (text : List Char) : List Char :=
  text.map fun c => if c = unitSeparator then ',' else c

/-- The directives of a block, which may be quoted as a whole (`tokenize`). -/
def tokenize (block : List Char) : List Directive :=
  let inner := stripQuotes (trim block)
  if (trim inner).isEmpty then []
  else ((setAside 0 inner).splitOn ',').filterMap fun token => parse? (restore token)

end Directive

end ShapeCheck
