import ShapeCheck.Decimal.Reader
import ShapeCheck.Json.ReadError

/-!
# JSON numbers

Numbers are read with a significand of 64 bits: digits that do not fit any more are dropped, and
before the point each counts for a power of ten. The value is the significand, rounded, times or
divided by a power of ten.
-/

namespace ShapeCheck.Json

open Input

/-- The value of a symbol that is a digit. -/
def digit? : Symbol → Option Nat
  | .char c => if c.isDigit then some (Decimal.digitValue c) else none
  | .stray _ => none

/-- The greatest significand. -/
def significandLimit : Nat := Nat.pow 2 64 - 1

/-- Takes digits into a significand as long as it does not get too great: the new significand, the
number of digits taken, and the rest. -/
def accumulate (significand : Nat) : List Symbol → Nat × Nat × List Symbol
  | [] => (significand, 0, [])
  | s :: rest =>
    match digit? s with
    | none => (significand, 0, s :: rest)
    | some d =>
      if significandLimit < significand * 10 + d then (significand, 0, s :: rest)
      else
        let (final, count, rest) := accumulate (significand * 10 + d) rest
        (final, count + 1, rest)

/-- Skips digits: how many, and the rest. -/
def skipDigits : List Symbol → Nat × List Symbol
  | [] => (0, [])
  | s :: rest =>
    match digit? s with
    | none => (0, s :: rest)
    | some _ =>
      let (count, rest) := skipDigits rest
      (count + 1, rest)

/-- A double divided by a power of ten, by the greatest power that is a double as long as the rest
is greater. -/
def divideByPower (x : Float) (power : Nat) : Float :=
  if power ≤ 308 then x / Float.ofScientific 1 false power
  else if x == 0.0 then x
  else divideByPower (x / Float.ofScientific 1 false 308) (power - 308)
termination_by power
decreasing_by omega

/-- The value of a significand and a power of ten; none if it is no finite double. -/
def scale? (significand : Nat) (exponent : Int) : Option Float :=
  let x := Float.ofNat significand
  if 0 ≤ exponent then
    if 308 < exponent then (if x == 0.0 then some x else none)
    else
      let y := x * Float.ofScientific 1 false exponent.toNat
      if y.isFinite then some y else none
  else some (divideByPower x (-exponent).toNat)

/-- A double with a sign. -/
def withSign (negative : Bool) (x : Float) : Float := if negative then -x else x

/-- The value of a number that ends here. -/
def finishNumber (negative : Bool) (significand : Nat) (exponent : Int) (rest : List Symbol) :
    Result Float :=
  match scale? significand exponent with
  | some x => .ok (withSign negative x, rest)
  | none => failBehind .numberOutOfRange rest

/-- The digits of an exponent as a number, cut at `2 ^ 31`: the digits up to there and the rest. -/
def exponentDigits (n : Nat) : List Symbol → Except (List Symbol) Nat × List Symbol
  | [] => (.ok n, [])
  | s :: rest =>
    match digit? s with
    | none => (.ok n, s :: rest)
    | some d =>
      if Nat.pow 2 31 ≤ n * 10 + d then (.error rest, rest) else exponentDigits (n * 10 + d) rest

/-- Reads an exponent behind its letter. -/
def readExponent (negative : Bool) (significand : Nat) (exponent : Int) (rest : List Symbol) :
    Result Float :=
  let (minus, rest) :=
    match rest with
    | .char '+' :: rest => (false, rest)
    | .char '-' :: rest => (true, rest)
    | rest => (false, rest)
  match rest with
  | [] => failBehind .endInValue []
  | s :: rest =>
    match digit? s with
    | none => failAt .invalidNumber (s :: rest)
    | some d =>
      match exponentDigits d rest with
      | (.ok n, rest) =>
        finishNumber negative significand (if minus then exponent - n else exponent + n) rest
      | (.error rest, _) =>
        if significand ≠ 0 ∧ !minus then failBehind .exponentOutOfRange rest
        else .ok (withSign negative 0.0, (skipDigits rest).2)

/-- Reads what may follow the digits of a number: an exponent. -/
def readTail (negative : Bool) (significand : Nat) (exponent : Int) (rest : List Symbol) :
    Result Float :=
  match rest with
  | .char 'e' :: more => readExponent negative significand exponent more
  | .char 'E' :: more => readExponent negative significand exponent more
  | rest => finishNumber negative significand exponent rest

/-- Reads the digits behind the point. There has to be one. -/
def readFraction (negative : Bool) (significand : Nat) (exponent : Int) (rest : List Symbol) :
    Result Float :=
  let (final, count, more) := accumulate significand rest
  let (dropped, more) := skipDigits more
  if count = 0 ∧ dropped = 0 then
    match more with
    | [] => failAt .endInValue []
    | more => failAt .invalidNumber more
  else readTail negative final (exponent - count) more

/-- Reads a number behind its sign. -/
def readNumber (negative : Bool) (text : List Symbol) : Result Float :=
  match text with
  | [] => failBehind .endInValue []
  | s :: rest =>
    match digit? s with
    | none => failAt .invalidNumber (s :: rest)
    | some 0 =>
      match rest with
      | [] => finish 0 0 []
      | t :: more =>
        match digit? t with
        | some _ => failAt .invalidNumber (t :: more)
        | none => finish 0 0 (t :: more)
    | some d =>
      let (significand, _, more) := accumulate d rest
      let (dropped, more) := skipDigits more
      finish significand dropped more
where
  /-- Reads what may follow the whole part of a number. -/
  finish (significand dropped : Nat) (rest : List Symbol) : Result Float :=
    match rest with
    | .char '.' :: more => readFraction negative significand dropped more
    | rest => readTail negative significand dropped rest

end ShapeCheck.Json
