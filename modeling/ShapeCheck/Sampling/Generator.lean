/-!
# A generator of pseudo-random words

A generator gives the stream of 32-bit words of a ChaCha cipher with twelve rounds, whose key is
spread from a 64-bit seed.
-/

namespace ShapeCheck.Sampling

/-- A word rotated to the left. -/
def rotateLeft (x : UInt32) (places : UInt32) : UInt32 := (x <<< places) ||| (x >>> (32 - places))

/-- A word rotated to the right; a rotation by zero leaves it. -/
def rotateRight (x : UInt32) (places : UInt32) : UInt32 :=
  if places = 0 then x else (x >>> places) ||| (x <<< (32 - places))

/-- One step of the linear congruence that spreads a seed. -/
def spreadStep (state : UInt64) : UInt64 :=
  state * 6364136223846793005 + 11634580027462260723

/-- The word that a state of the spreading gives. -/
def spreadWord (state : UInt64) : UInt32 :=
  rotateRight (((state >>> 18) ^^^ state) >>> 27).toUInt32 (state >>> 59).toUInt32

/-- The next words of the spreading of a state. -/
def spreadWords (state : UInt64) : Nat → List UInt32
  | 0 => []
  | n + 1 => spreadWord (spreadStep state) :: spreadWords (spreadStep state) n

/-- Sixteen words: the state of the cipher. -/
abbrev Block := Array UInt32

/-- The word at a place of a block. -/
def wordAt (b : Block) (i : Nat) : UInt32 := b[i]?.getD 0

/-- The quarter round of the cipher on four places of a block. -/
def quarterRound (i j k l : Nat) (s : Block) : Block :=
  let a := wordAt s i
  let b := wordAt s j
  let c := wordAt s k
  let d := wordAt s l
  let a := a + b
  let d := rotateLeft (d ^^^ a) 16
  let c := c + d
  let b := rotateLeft (b ^^^ c) 12
  let a := a + b
  let d := rotateLeft (d ^^^ a) 8
  let c := c + d
  let b := rotateLeft (b ^^^ c) 7
  (((s.setIfInBounds i a).setIfInBounds j b).setIfInBounds k c).setIfInBounds l d

/-- Two rounds: the columns, then the diagonals. -/
def doubleRound (s : Block) : Block :=
  quarterRound 3 4 9 14 <| quarterRound 2 7 8 13 <| quarterRound 1 6 11 12 <|
  quarterRound 0 5 10 15 <| quarterRound 3 7 11 15 <| quarterRound 2 6 10 14 <|
  quarterRound 1 5 9 13 <| quarterRound 0 4 8 12 s

/-- Twelve rounds. -/
def rounds (s : Block) : Block :=
  doubleRound (doubleRound (doubleRound (doubleRound (doubleRound (doubleRound s)))))

/-- The words of the block that a key and a counter give. -/
def keyStream (key : List UInt32) (counter : Nat) : List UInt32 :=
  let constants : List UInt32 := [0x61707865, 0x3320646e, 0x79622d32, 0x6b206574]
  let position : List UInt32 := [counter.toUInt32, (counter / Nat.pow 2 32).toUInt32, 0, 0]
  let start : Block := (constants ++ key ++ position).toArray
  (start.zipWith (· + ·) (rounds start)).toList

/-- A generator: its key, the number of the next block, and the words left of the last one. -/
structure Generator where
  key : List UInt32
  counter : Nat := 0
  pending : List UInt32 := []
  deriving DecidableEq, Repr

namespace Generator

/-- The generator of a seed. -/
def ofSeed (seed : UInt64) : Generator := { key := spreadWords seed 8 }

/-- The next word. -/
def next (g : Generator) : UInt32 × Generator :=
  match g.pending with
  | w :: rest => (w, { g with pending := rest })
  | [] =>
    match keyStream g.key g.counter with
    | w :: rest => (w, { g with counter := g.counter + 1, pending := rest })
    | [] => (0, { g with counter := g.counter + 1 })

/-- A number from `low` to `high`. The product of a word and the size of the range is cut to its
high half; where the low half leaves a doubt, a second word settles the carry. -/
def range (g : Generator) (low high : Nat) : Nat × Generator :=
  let size := high - low + 1
  let (w, g) := g.next
  let product := w.toNat * size
  let result := product / Nat.pow 2 32
  let rest := product % Nat.pow 2 32
  if Nat.pow 2 32 - size < rest then
    let (w, g) := g.next
    let carry := w.toNat * size / Nat.pow 2 32
    (low + (if Nat.pow 2 32 ≤ rest + carry then result + 1 else result), g)
  else (low + result, g)

end Generator

end ShapeCheck.Sampling
