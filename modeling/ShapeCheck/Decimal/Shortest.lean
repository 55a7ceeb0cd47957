import ShapeCheck.Decimal.Binary

/-!
# Shortest decimal digits

The decimals that read back as a given double fill an interval around it. `shortest` finds the
coarsest grid of powers of ten that has a point in that interval, and of its points there the one
nearest to the double.
-/

namespace ShapeCheck.Decimal

/-- The decimal `digits · 10 ^ scale`. -/
structure Digits where
  digits : Nat
  scale : Int
  deriving DecidableEq, Repr

/-- The interval of reals that round to a positive double. All three numbers count units of
`2 ^ exponent`; the ends belong to the interval when `closed`. -/
structure RoundingInterval where
  low : Nat
  value : Nat
  high : Nat
  exponent : Int
  closed : Bool
  deriving DecidableEq, Repr

/-- Which of two decimals as short and as near is taken: the greater one, or the one with the even
last digit. -/
inductive Tie where
  | up
  | even
  deriving DecidableEq, Repr

/-- Whether a tie between a number and the next one goes to the former. -/
def Tie.staysAt (tie : Tie) (n : Nat) : Bool :=
  match tie with
  | .up => false
  | .even => n % 2 == 0

namespace RoundingInterval

/-- The interval of a double with a positive mantissa. Below a power of two the spacing halves. -/
def ofBinary (b : Binary) : RoundingInterval where
  low :=
    if b.mantissa = Nat.pow 2 52 ∧ b.exponent > -1074 then 4 * b.mantissa - 1
    else 4 * b.mantissa - 2
  value := 4 * b.mantissa
  high := 4 * b.mantissa + 2
  exponent := b.exponent - 2
  closed := b.mantissa % 2 == 0

/-- The factor that turns units of the interval into multiples of a common measure. -/
def unitFactor (r : RoundingInterval) (scale : Int) : Nat :=
  Nat.pow 2 r.exponent.toNat * Nat.pow 10 (-scale).toNat

/-- The factor that turns multiples of `10 ^ scale` into multiples of the same common measure. -/
def gridFactor (r : RoundingInterval) (scale : Int) : Nat :=
  Nat.pow 2 (-r.exponent).toNat * Nat.pow 10 scale.toNat

/-- Whether `n · 10 ^ scale` lies in the interval. -/
def contains (r : RoundingInterval) (scale : Int) (n : Nat) : Bool :=
  let unit := r.unitFactor scale
  let point := n * r.gridFactor scale
  if r.closed then r.low * unit ≤ point && point ≤ r.high * unit
  else r.low * unit < point && point < r.high * unit

/-- The grid point next to the value that lies in the interval, the nearer one of two. -/
def onGrid? (r : RoundingInterval) (tie : Tie) (scale : Int) : Option Nat :=
  let unit := r.unitFactor scale
  let grid := r.gridFactor scale
  let below := r.value * unit / grid
  let twice := 2 * (r.value * unit - below * grid)
  match r.contains scale below, r.contains scale (below + 1) with
  | true, true =>
    some (if twice < grid ∨ (twice = grid ∧ tie.staysAt below) then below else below + 1)
  | true, false => some below
  | false, true => some (below + 1)
  | false, false => none

/-- The first hit on ever finer grids; the last grid gives its point below the value. -/
def search (r : RoundingInterval) (tie : Tie) (scale : Int) : Nat → Digits
  | 0 => ⟨r.value * r.unitFactor scale / r.gridFactor scale, scale⟩
  | steps + 1 =>
    match r.onGrid? tie scale with
    | some n => ⟨n, scale⟩
    | none => r.search tie (scale - 1) steps

/-- A power of ten at least as great as the value: three tenths of the number of bits, and a bit
more. -/
def topScale (r : RoundingInterval) : Int :=
  let bits : Int := Nat.log2 r.value + 1 + r.exponent
  if 0 ≤ bits then bits * 302 / 1000 + 1 else bits * 301 / 1000 + 1

end RoundingInterval

/-- The shortest digits of a finite double without its sign; zero has the digit zero. -/
def shortest (tie : Tie) (b : Binary) : Digits :=
  if b.mantissa = 0 then ⟨0, 0⟩
  else
    let r := RoundingInterval.ofBinary b
    r.search tie r.topScale 24

end ShapeCheck.Decimal
