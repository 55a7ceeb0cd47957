import ShapeCheck.Unicode.LetterCase

/-!
# Reading decimal numbers

`readFloat?` reads the whole of a text as a double, rounded to nearest; `readLength?` reads it as a
count below `2 ^ 64`.
-/

namespace ShapeCheck.Decimal

open ShapeCheck.Unicode

/-- The value of an ASCII digit. -/
def digitValue (c : Char) : Nat := c.toNat - '0'.toNat

/-- The number that a list of digits writes. -/
def ofDigits (digits : List Char) : Nat :=
  digits.foldl (fun n c => n * 10 + digitValue c) 0

/-- The digits at the front of a text, and the rest. -/
def spanDigits (text : List Char) : List Char × List Char :=
  (text.takeWhile Char.isDigit, text.dropWhile Char.isDigit)

/-- The nearest double to `mantissa · 10 ^ exponent`. Exponents that leave the range of doubles
whatever the digits are cut before any power is taken. -/
def scaled (mantissa : Nat) (exponent : Int) : Float :=
  if mantissa = 0 then 0.0
  else
    let lead : Int := exponent + ((Nat.toDigits 10 mantissa).length : Int)
    if 310 < lead then 1.0 / 0.0
    else if lead < -330 then 0.0
    else if 0 ≤ exponent then Float.ofScientific mantissa false exponent.toNat
    else Float.ofScientific mantissa true (-exponent).toNat

/-- A sign at the front of a text: whether it is a minus, and the rest. -/
def splitSign : List Char → Bool × List Char
  | '-' :: rest => (true, rest)
  | '+' :: rest => (false, rest)
  | text => (false, text)

/-- The exponent part that ends a number: nothing, or `e` with an optional sign and digits. -/
def readExponent? : List Char → Option Int
  | [] => some 0
  | c :: rest =>
    if c = 'e' ∨ c = 'E' then
      let (negative, digits) := splitSign rest
      if digits.isEmpty || !digits.all Char.isDigit then none
      else some (if negative then -(ofDigits digits : Int) else ofDigits digits)
    else none

/-- An unsigned decimal number: digits with an optional point among, before or behind them, and an
optional exponent part. -/
def readUnsigned? (text : List Char) : Option Float :=
  let (whole, rest) := spanDigits text
  let (fraction, rest) :=
    match rest with
    | '.' :: rest => spanDigits rest
    | rest => ([], rest)
  if whole.isEmpty && fraction.isEmpty then none
  else (readExponent? rest).map fun e =>
    scaled (ofDigits (whole ++ fraction)) (e - (fraction.length : Int))

/-- A double: a number with an optional sign, or the name of an infinity or of NaN in any case. -/
def readFloat? (text : List Char) : Option Float :=
  let (negative, body) := splitSign text
  let name := String.ofList (body.map toLowerAscii)
  let magnitude :=
    if name = "inf" ∨ name = "infinity" then some (1.0 / 0.0)
    else if name = "nan" then some (0.0 / 0.0)
    else readUnsigned? body
  magnitude.map fun x => if negative then -x else x

/-- A count: digits with an optional plus sign, below `2 ^ 64`. -/
def readLength? (text : List Char) : Option Nat :=
  let digits :=
    match text with
    | '+' :: rest => rest
    | text => text
  if digits.isEmpty || !digits.all Char.isDigit then none
  else
    let n := ofDigits digits
    if n < Nat.pow 2 64 then some n else none

end ShapeCheck.Decimal
