/-!
# Doubles as scaled integers

Every finite double is `± mantissa · 2 ^ exponent` with a mantissa below `2 ^ 53`. `Binary.ofFloat?`
reads the three parts off the bits; the questions that need exact arithmetic are asked of the parts.
-/

namespace ShapeCheck.Decimal

/-- A finite double as `± mantissa · 2 ^ exponent`. -/
structure Binary where
  negative : Bool
  mantissa : Nat
  exponent : Int
  deriving DecidableEq, Repr

/-- Whether the sign bit of a double is set. -/
def signBit (x : Float) : Bool := x.toBits.toNat / Nat.pow 2 63 == 1

namespace Binary

/-- The parts of a finite double; infinities and NaN have none. -/
def ofFloat? (x : Float) : Option Binary :=
  let bits : Nat := x.toBits.toNat
  let fraction : Nat := bits % Nat.pow 2 52
  let biased : Nat := bits / Nat.pow 2 52 % 2048
  if biased = 2047 then none
  else if biased = 0 then some ⟨signBit x, fraction, -1074⟩
  else some ⟨signBit x, Nat.pow 2 52 + fraction, (biased : Int) - 1075⟩

/-- The greatest natural number that is not above the magnitude. -/
def floorMagnitude (b : Binary) : Nat :=
  if 0 ≤ b.exponent then b.mantissa * Nat.pow 2 b.exponent.toNat
  else b.mantissa / Nat.pow 2 (-b.exponent).toNat

/-- Whether the value has no fractional part. -/
def isWhole (b : Binary) : Bool :=
  0 ≤ b.exponent || b.mantissa % Nat.pow 2 (-b.exponent).toNat == 0

end Binary

/-- Whether a double is finite and has no fractional part. -/
def isWholeFloat (x : Float) : Bool :=
  match Binary.ofFloat? x with
  | some b => b.isWhole
  | none => false

end ShapeCheck.Decimal
