import ShapeCheck.Decimal.Binary
import ShapeCheck.Decimal.Reader
import ShapeCheck.Sampling.Sampler
import ShapeCheck.Selection.Mode

/-!
# Selected places

`selectIndices` turns a mode and its parameters into the places of an array that are checked. The
places come in ascending order, each once, and lie inside the array, whatever the sampler answers.
-/

namespace ShapeCheck

/-- The count that a parameter gives: a length, or the whole part of a positive number cut at the
greatest length, or else zero (`parameter`). -/
def parameter (raw : Option String) : Nat :=
  match raw with
  | none => 0
  | some raw =>
    let text := Text.trim raw.toList
    match Decimal.readLength? text with
    | some n => n
    | none =>
      match Decimal.readFloat? text with
      | some x =>
        if x > 0.0 then
          match Decimal.Binary.ofFloat? x with
          | some b => min b.floorMagnitude (Nat.pow 2 64 - 1)
          | none => 0
        else 0
      | none => 0

/-- The places from `start` below `length`, each `step` behind the one before; none for no step
(`stepped`). -/
def stepped (start length step : Nat) : List Nat :=
  if step = 0 then []
  else List.range' start ((length - start + step - 1) / step) step

/-- Puts a place into an ascending list unless it is there. -/
def insertPlace (i : Nat) : List Nat → List Nat
  | [] => [i]
  | j :: rest =>
    if i < j then i :: j :: rest
    else if i = j then j :: rest
    else j :: insertPlace i rest

/-- The places of a list that lie below `length`, in ascending order, each once. -/
def tidy (length : Nat) (places : List Nat) : List Nat :=
  (places.filter (· < length)).foldr insertPlace []

/-- At most `amount` places below `length` that the sampler gives, in ascending order (`pick`). -/
def pick {σ : Type} (sampler : Sampler σ) (length amount : Nat) (s : σ) : List Nat × σ :=
  let (drawn, s) := sampler.draw length amount s
  ((tidy length drawn).take (min amount length), s)

/-- The places below `length` that a mode selects with two parameters, and the sampler's state
after it. -/
def selectPlaces {σ : Type} (sampler : Sampler σ) (length : Nat) (mode : Mode) (first second : Nat)
    (s : σ) : List Nat × σ :=
  let head := min first length
  match mode with
  | .none => ([], s)
  | .all => (List.range length, s)
  | .first => (List.range head, s)
  | .last => (List.range' (length - head) head, s)
  | .step => (stepped 0 length first, s)
  | .random => pick sampler length first s
  | .firstThenLast =>
    let tail := max (length - second) head
    (List.range head ++ List.range' tail (length - tail), s)
  | .firstThenStep => (List.range head ++ stepped head length second, s)
  | .firstThenRandom =>
    let (offsets, s) := pick sampler (length - head) second s
    (List.range head ++ offsets.map (head + ·), s)

/-- The places below `length` that a mode selects with parameters as written (`select_indices`). -/
def selectIndices {σ : Type} (sampler : Sampler σ) (length : Nat) (mode : Mode)
    (first second : Option String) (s : σ) : List Nat × σ :=
  selectPlaces sampler length mode (parameter first) (parameter second) s

end ShapeCheck
