/-!
# Places of a text in another

Beginning, end and occurrence of one list of characters in another, and the cut at the first place
of a character.
-/

namespace ShapeCheck.Text

/-- Whether `needle` stands anywhere in `text`. -/
def occursIn (needle : List Char) : List Char → Bool
  | [] => needle.isEmpty
  | c :: text => needle.isPrefixOf (c :: text) || occursIn needle text

/-- The parts of a text before and after the first `mark`. -/
def cutAt? (mark : Char) : List Char → Option (List Char × List Char)
  | [] => none
  | c :: text =>
    if c = mark then some ([], text)
    else (cutAt? mark text).map fun (front, back) => (c :: front, back)

/-- A text without the quotes around it, if it begins and ends with the same quote (`unquote`). -/
def unquote? (text : List Char) : Option (List Char) :=
  match text with
  | q :: c :: rest =>
    if (q = '"' ∨ q = '\'') ∧ (c :: rest).getLast? = some q then some (c :: rest).dropLast
    else none
  | _ => none

/-- A text without the quotes around it, or as it is (`strip_quotes`). -/
def stripQuotes (text : List Char) : List Char := (unquote? text).getD text

end ShapeCheck.Text
