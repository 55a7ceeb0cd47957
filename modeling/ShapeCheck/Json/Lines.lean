import ShapeCheck.Input.Error
import ShapeCheck.Json.Reader
import ShapeCheck.Text.Blank

/-!
# One JSON document a line

Each line that is not blank holds one document. Blanks around it do not count. The first line that
cannot be read makes the error.
-/

namespace ShapeCheck.Json

open Input

/-- Reads the documents of lines of which the first has the given number. -/
def readLines (number : Nat) : List (List Symbol) → Except InputError (List Value)
  | [] => .ok []
  | line :: rest =>
    match chars? line with
    | none => .error .notText
    | some chars =>
      let text := Text.trim chars
      if text.isEmpty then readLines (number + 1) rest
      else
        match readDocument .line (ofChars text) with
        | .error fault => .error (.line number fault)
        | .ok value => (readLines (number + 1) rest).map (value :: ·)

/-- Reads the documents of a text, one a line (`read_jsonl`). -/
def readDocuments (text : List Symbol) : Except InputError (List Value) :=
  readLines 1 (text.splitOn (.char '\n'))

end ShapeCheck.Json
