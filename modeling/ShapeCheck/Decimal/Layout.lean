import ShapeCheck.Decimal.Shortest

/-!
# Written forms of doubles

A `Layout` fixes how the shortest digits of a double are set. `plain` is the form of messages and
descriptions, which never has an exponent; `document` is the form of numbers in JSON texts.
-/

namespace ShapeCheck.Decimal

/-- The choices that a written form of doubles makes. -/
structure Layout where
  /-- The decimal exponents of the leading digit that are written without an exponent part. -/
  positional : Int → Bool
  /-- Whether a whole number ends in `.0`. -/
  wholeMark : Bool
  /-- Which of two shortest decimals that are as near is taken. -/
  tie : Tie

/-- Every finite number is written by its digits alone. -/
def Layout.plain : Layout := ⟨fun _ => true, false, .up⟩

/-- Leading digits from `10 ^ -5` to `10 ^ 15` are written positionally, and a number always shows
that it is no integer. -/
def Layout.document : Layout := ⟨fun e => -5 ≤ e && e < 16, true, .even⟩

/-- The decimal digits of a natural number. -/
def natDigits (n : Nat) : List Char := Nat.toDigits 10 n

namespace Digits

/-- The decimal exponent of the leading digit. -/
def leadExponent (d : Digits) : Int := d.scale + ((natDigits d.digits).length : Int) - 1

/-- The digits with a point in its place and zeros where places are empty. -/
def positionalText (d : Digits) (wholeMark : Bool) : List Char :=
  let digits := natDigits d.digits
  if 0 ≤ d.scale then
    digits ++ List.replicate (if d.digits = 0 then 0 else d.scale.toNat) '0' ++
      (if wholeMark then ['.', '0'] else [])
  else
    let places := (-d.scale).toNat
    if places < digits.length then
      digits.take (digits.length - places) ++ '.' :: digits.drop (digits.length - places)
    else
      '0' :: '.' :: List.replicate (places - digits.length) '0' ++ digits

/-- One digit before the point and the power of ten with its sign. -/
def exponentText (d : Digits) : List Char :=
  let e := d.leadExponent
  let lead :=
    match natDigits d.digits with
    | [] => []
    | [c] => [c]
    | c :: rest => c :: '.' :: rest
  lead ++ 'e' :: (if 0 ≤ e then '+' else '-') :: natDigits e.natAbs

/-- The digits as a layout sets them. -/
def text (d : Digits) (layout : Layout) : List Char :=
  if layout.positional d.leadExponent then d.positionalText layout.wholeMark else d.exponentText

end Digits

/-- The written form of a double; infinities and NaN are named. -/
def write (layout : Layout) (x : Float) : String :=
  match Binary.ofFloat? x with
  | some b => String.ofList ((if b.negative then ['-'] else []) ++ (shortest layout.tie b).text layout)
  | none => if x.isNaN then "NaN" else if signBit x then "-inf" else "inf"

/-- The form of a double in messages and descriptions. -/
def display (x : Float) : String := write .plain x

end ShapeCheck.Decimal
