import ShapeCheck.Yaml.Tag

/-!
# Tokens of YAML

What a text consists of, once line structure and indentation have been made explicit.
-/

namespace ShapeCheck.Yaml

/-- A token. -/
inductive Token where
  | version (major minor : Nat)
  | handle (name : List Char) (lead : List UInt8)
  | documentStart
  | documentEnd
  | sequenceStart
  | mappingStart
  | blockEnd
  | bracketOpen
  | bracketClose
  | braceOpen
  | braceClose
  | item
  | comma
  | key
  | value
  | alias (name : List Char)
  | anchor (name : List Char)
  | tag (tag : TagText)
  | scalar (text : List Char) (plain : Bool)
  deriving DecidableEq, Repr

end ShapeCheck.Yaml
