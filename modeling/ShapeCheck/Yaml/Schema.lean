import ShapeCheck.Decimal.Reader
import ShapeCheck.Yaml.Tag
import ShapeCheck.Yaml.Tree

/-!
# What scalars mean

A plain scalar may stand for null, a flag or a number; everything else is text. Whole numbers may be
written with the bases 2, 8, 10 and 16. A tag may ask for one of these.
-/

namespace ShapeCheck.Yaml.Schema

/-- The texts that stand for null. -/
def isNull (s : String) : Bool := s = "null" || s = "Null" || s = "NULL" || s = "~"

/-- The flag that a text stands for. -/
def flag? (s : String) : Option Bool :=
  if s = "true" || s = "True" || s = "TRUE" then some true
  else if s = "false" || s = "False" || s = "FALSE" then some false
  else none

/-- The number that digits of a base write. -/
def digits? (base : Nat) (digits : List Char) : Option Nat := do
  let values ← digits.mapM hexValue?
  if values.isEmpty || values.any (base ≤ ·) then none
  else some (values.foldl (fun n d => n * base + d) 0)

/-- Whether a text consists of digits with a superfluous zero at their front. -/
def hasLeadingZero (text : List Char) : Bool :=
  let body := match text with
    | '-' :: rest => rest
    | '+' :: rest => rest
    | text => text
  1 < body.length && body.head? = some '0' && body.all Char.isDigit

/-- The number that digits write, with a base in front of them or none. -/
def magnitude? (text : List Char) : Option Nat :=
  match text with
  | '0' :: 'x' :: digits => digits? 16 digits
  | '0' :: 'o' :: digits => digits? 8 digits
  | '0' :: 'b' :: digits => digits? 2 digits
  | digits => if hasLeadingZero digits then none else digits? 10 digits

/-- The whole number that a text writes. -/
def whole? (text : List Char) : Option Int :=
  match text with
  | '+' :: rest => (magnitude? rest).map (Int.ofNat ·)
  | '-' :: rest => (magnitude? rest).map fun n => -(n : Int)
  | rest => (magnitude? rest).map (Int.ofNat ·)

/-- How a whole number fits the words for it: those of 64 bits, those of 128 bits only, or none. -/
inductive Fit where
  | narrow
  | wide
  | none
  deriving DecidableEq, Repr

/-- How a whole number fits: numbers below zero have a sign bit. -/
def fit (n : Int) : Fit :=
  if -(Int.pow 2 63) ≤ n ∧ n < Int.pow 2 64 then .narrow
  else if -(Int.pow 2 127) ≤ n ∧ n < Int.pow 2 128 then .wide
  else .none

/-- The names of the infinities and of not-a-number. -/
def special? (s : String) : Option Float :=
  match s with
  | ".inf" => some (1.0 / 0.0)
  | ".Inf" => some (1.0 / 0.0)
  | ".INF" => some (1.0 / 0.0)
  | "+.inf" => some (1.0 / 0.0)
  | "+.Inf" => some (1.0 / 0.0)
  | "+.INF" => some (1.0 / 0.0)
  | "-.inf" => some (-1.0 / 0.0)
  | "-.Inf" => some (-1.0 / 0.0)
  | "-.INF" => some (-1.0 / 0.0)
  | ".nan" => some (0.0 / 0.0)
  | ".NaN" => some (0.0 / 0.0)
  | ".NAN" => some (0.0 / 0.0)
  | _ => none

/-- The number that a text writes in decimal notation, if it is finite. -/
def decimal? (text : List Char) : Option Float := do
  let x ← Decimal.readFloat? text
  if x.isFinite then some x else none

/-- The number that a text writes. -/
def real? (s : String) : Option Float :=
  (special? s).or (decimal? s.toList)

/-- The whole number that a text writes: `none` if it writes none, `some none` if that is too
great. -/
def wholeTree? (s : String) : Option (Option Tree) :=
  match whole? s.toList with
  | none => none
  | some n =>
    match fit n with
    | .narrow => some (some (.whole n))
    | .wide => some none
    | .none => none

/-- What a plain scalar means; `none` if it is a number too great. -/
def plain? (s : String) : Option Tree :=
  if s.isEmpty || isNull s then some .null
  else
    match flag? s with
    | some b => some (.bool b)
    | none =>
      match wholeTree? s with
      | some t => t
      | none =>
        if hasLeadingZero s.toList then some (.text s)
        else
          match real? s with
          | some x => some (.real x)
          | none => some (.text s)

/-- The tag of a type that all documents know. -/
def sharedTag (name : String) : Tag := .ofAscii (Tag.sharedLead ++ name)

/-- What a scalar means under a tag that is not of the document itself. -/
def tagged? (tag : Tag) (s : String) : Option Tree :=
  if tag = sharedTag "bool" then (flag? s).map .bool
  else if tag = sharedTag "int" then (wholeTree? s).join
  else if tag = sharedTag "float" then (real? s).map .real
  else if tag = sharedTag "null" then if isNull s then some .null else none
  else some (.text s)

end ShapeCheck.Yaml.Schema
