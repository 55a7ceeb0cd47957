import ShapeCheck.Sampling.Generator
import ShapeCheck.Sampling.Sampler

/-!
# Seeded sampling

`drawPlaces` draws different places below a length from a generator. Few places of many are drawn
by Floyd's method; otherwise the front of a list of all places is shuffled.
-/

namespace ShapeCheck.Sampling

/-- Swaps two items of an array. -/
def swapItems (a : Array Nat) (i j : Nat) : Array Nat :=
  match a[i]?, a[j]? with
  | some x, some y => (a.setIfInBounds i y).setIfInBounds j x
  | _, _ => a

/-- Swaps each of the next `steps` places from `i` on with a random one not before it. -/
def shuffleFront (length i : Nat) : Nat → Array Nat → Generator → Array Nat × Generator
  | 0, a, g => (a, g)
  | steps + 1, a, g =>
    let (j, g) := g.range i (length - 1)
    shuffleFront length (i + 1) steps (swapItems a i j) g

/-- Draws places by shuffling the front of the list of all places. -/
def drawInPlace (length amount : Nat) (g : Generator) : List Nat × Generator :=
  let (a, g) := shuffleFront length 0 amount (Array.range length) g
  (a.toList.take amount, g)

/-- Takes one more place into a drawn list: `pick`, or if that is there already, `top` in its stead
with `pick` at the end. -/
def addPick (drawn : List Nat) (pick top : Nat) : List Nat :=
  drawn.map (fun x => if x = pick then top else x) ++ [pick]

/-- Draws from `0` to each of the next `steps` tops. -/
def floydFrom (top : Nat) : Nat → List Nat → Generator → List Nat × Generator
  | 0, drawn, g => (drawn, g)
  | steps + 1, drawn, g =>
    let (pick, g) := g.range 0 top
    floydFrom (top + 1) steps (addPick drawn pick top) g

/-- Draws places by Floyd's method. -/
def drawFloyd (length amount : Nat) (g : Generator) : List Nat × Generator :=
  floydFrom (length - amount) amount [] g

/-- Whether so many places of so many are drawn in place. Below 163 places this is the choice of the
generator's library for every length. From 163 on it is that choice as long as there are fewer than
270 times as many places to draw from, or 330/9 times as many where there are 500000 and more.
Beyond, the library draws again and again until the places are different; that method is left out,
and they are drawn in place here too. -/
def prefersInPlace (length amount : Nat) : Bool :=
  163 ≤ amount || (11 < amount && 5 * length < (50 + 8 * amount) * amount)

/-- Draws `amount` different places below `length`, which is not less. -/
def drawPlaces (length amount : Nat) (g : Generator) : List Nat × Generator :=
  if prefersInPlace length amount then drawInPlace length amount g
  else drawFloyd length amount g

/-- The sampler that draws from a generator, never more places than there are (`RngSampler`). -/
def seeded : Sampler Generator where
  draw length amount g := drawPlaces length (min amount length) g

end ShapeCheck.Sampling
