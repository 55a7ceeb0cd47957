import ShapeCheck.Json.Lines
import ShapeCheck.Yaml.Reader

/-!
# Reading input

The values that input holds. A list at the top of a document stands for its items.
-/

namespace ShapeCheck.Input

/-- The values that a document stands for (`split_top_level`). -/
def topItems : Value → List Value
  | .array items => items
  | v => [v]

/-- Reads the values of input of a format (`read_values`). -/
def readValues (format : Format) (bytes : List UInt8) : Except InputError (List Value) :=
  let text := decode bytes
  match format with
  | .json => ((Json.readDocument .stream text).mapError .json).map topItems
  | .yaml => (Yaml.read text).map topItems
  | .jsonl => Json.readDocuments text

end ShapeCheck.Input
