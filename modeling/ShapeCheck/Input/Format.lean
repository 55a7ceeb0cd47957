import ShapeCheck.Unicode.LetterCase

/-!
# Document formats

The formats of input, their names, and the format that the extension of a path stands for.
-/

namespace ShapeCheck.Input

/-- A format of checked input: one document, or one document a line. -/
inductive Format where
  | json
  | yaml
  | jsonl
  deriving DecidableEq, Repr

namespace Format

/-- The name of a format. -/
def name : Format → String
  | .json => "json"
  | .yaml => "yaml"
  | .jsonl => "jsonl"

/-- A text with the ASCII letters in lower case. -/
def lowered (text : String) : String := String.ofList (text.toList.map Unicode.toLowerAscii)

/-- The format of a name in any letter case. -/
def ofName? (text : String) : Option Format :=
  match lowered text with
  | "json" => some .json
  | "yaml" => some .yaml
  | "yml" => some .yaml
  | "jsonl" => some .jsonl
  | "ndjson" => some .jsonl
  | _ => none

end Format

/-- The last name of a path. Slashes and single dots at the end do not count; a path that ends in a
step upwards names no file. -/
def fileName? (path : List Char) : Option (List Char) :=
  let names := (path.splitOn '/').reverse.dropWhile fun name => name.isEmpty || name == ['.']
  match names with
  | [] => none
  | name :: _ => if name = ['.', '.'] then none else some name

/-- What follows the last dot of a name that has something before it. -/
def extension? (path : List Char) : Option (List Char) := do
  let name ← fileName? path
  let ending := (name.reverse.takeWhile (· ≠ '.')).reverse
  if ending.length + 1 < name.length then some ending else none

/-- The format that the extension of a path stands for (`from_extension`). -/
def Format.ofPath? (path : String) : Option Format :=
  (extension? path.toList).bind fun ending => ofName? (String.ofList ending)

end ShapeCheck.Input
