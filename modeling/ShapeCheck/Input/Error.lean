import ShapeCheck.Input.Format
import ShapeCheck.Json.ReadError

/-!
# Errors of input

What can be wrong with input and its format, and the wording.
-/

namespace ShapeCheck.Input

/-- Why input cannot be read (`IoError`). -/
inductive InputError where
  /-- No format has this name. -/
  | unsupportedFormat (name : String)
  /-- The extension of this path stands for no format. -/
  | unsupportedExtension (path : String)
  /-- The text is no JSON document. -/
  | json (fault : Json.Fault)
  /-- A key of a YAML mapping can be no name. -/
  | key (cause : Json.ReadCause)
  /-- The text is no YAML document. -/
  | yaml
  /-- The line of this number is no JSON document. -/
  | line (number : Nat) (fault : Json.Fault)
  /-- A line holds bytes that are no text. -/
  | notText
  deriving DecidableEq, Repr

namespace InputError

/-- The kind of an error. -/
def kind : InputError → String
  | .unsupportedFormat _ => "unsupported_format"
  | .unsupportedExtension _ => "unsupported_path_extension"
  | .json _ => "json_parse"
  | .key _ => "json_parse"
  | .yaml => "yaml_parse"
  | .line _ _ => "jsonl_line"
  | .notText => "io"

/-- The wording of an error. For a text that is no YAML document it ends where the YAML reader's own
account of the error would follow, which is left out. -/
def message : InputError → String
  | .unsupportedFormat name => "unsupported format: " ++ name
  | .unsupportedExtension path =>
    "unsupported input file extension: " ++ path ++ "; pass --from"
  | .json fault => "json parse error: " ++ fault.message
  | .key cause => "json parse error: " ++ cause.message
  | .yaml => "yaml parse error"
  | .line number fault => "jsonl line " ++ toString number ++ ": " ++ fault.message
  | .notText => "io error: stream did not contain valid UTF-8"

end InputError

/-- The format of a name, or an error with the name in lower case (`from_str`). -/
def Format.parse (text : String) : Except InputError Format :=
  match ofName? text with
  | some format => .ok format
  | none => .error (.unsupportedFormat (lowered text))

/-- The format to read: the one asked for, else that of the path, else JSON
(`resolve_input_format`). -/
def Format.resolve (asked : Option Format) (path : Option String) : Except InputError Format :=
  match asked, path with
  | some format, _ => .ok format
  | none, none => .ok .json
  | none, some path =>
    match ofPath? path with
    | some format => .ok format
    | none => .error (.unsupportedExtension path)

end ShapeCheck.Input
