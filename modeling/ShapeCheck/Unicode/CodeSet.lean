/-!
# Sets of code points

`CodeSet` keeps a set of code points as the ascending places where membership changes, so that a
code point belongs exactly when an odd number of places is not above it.
-/

namespace ShapeCheck.Unicode

/-- A set of code points. -/
structure CodeSet where
  /-- The places, ascending, where membership changes; nothing below the first one belongs. -/
  bounds : Array Nat
  deriving DecidableEq, Repr

namespace CodeSet

/-- The set without members. -/
def empty : CodeSet := ⟨#[]⟩

/-- The decimal numbers of a text; every other character separates two of them. -/
def numerals (text : String) : List Nat :=
  let (done, last) := text.foldl
    (fun (acc : List Nat × Option Nat) c =>
      if c.isDigit then
        (acc.1, some (acc.2.getD 0 * 10 + (c.toNat - '0'.toNat)))
      else
        match acc.2 with
        | some n => (n :: acc.1, none)
        | none => acc)
    ([], none)
  (match last with
    | some n => n :: done
    | none => done).reverse

/-- The set whose places of change lie the given distances apart, the first counted from zero. -/
def ofGaps (gaps : String) : CodeSet :=
  ⟨((numerals gaps).foldl
    (fun (acc : Array Nat × Nat) gap => (acc.1.push (acc.2 + gap), acc.2 + gap)) (#[], 0)).1⟩

/-- The number of places not above `x`, known to lie between `lo` and `hi`. -/
def rank (bounds : Array Nat) (x lo hi : Nat) : Nat :=
  if h : lo < hi then
    let mid := (lo + hi) / 2
    if bounds[mid]?.getD 0 ≤ x then rank bounds x (mid + 1) hi else rank bounds x lo mid
  else lo
termination_by hi - lo
decreasing_by all_goals omega

/-- Membership of a code point. -/
def containsCode (s : CodeSet) (code : Nat) : Bool :=
  rank s.bounds code 0 s.bounds.size % 2 == 1

/-- Membership of a character. -/
def contains (s : CodeSet) (c : Char) : Bool :=
  s.containsCode c.toNat

/-- The code points from `low` to `high`. -/
def ofRange (low high : Nat) : CodeSet := ⟨#[low, high + 1]⟩

/-- Every code point. -/
def full : CodeSet := ofRange 0 0x10FFFF

/-- The places where a combination of two sets changes. `inA` and `inB` tell on which side of their
last places both sets are, and `now` whether the combination holds there. -/
def sweep (combine : Bool → Bool → Bool) (inA inB now : Bool) : List Nat → List Nat → List Nat
  | [], [] => []
  | x :: as, [] => turn x (!inA) inB as []
  | [], y :: bs => turn y inA (!inB) [] bs
  | x :: as, y :: bs =>
    if x < y then turn x (!inA) inB as (y :: bs)
    else if y < x then turn y inA (!inB) (x :: as) bs
    else turn x (!inA) (!inB) as bs
termination_by as bs => (as.length + bs.length, 0)
where
  /-- Goes on behind a place, which counts if the combination changes there. -/
  turn (place : Nat) (inA inB : Bool) (as bs : List Nat) : List Nat :=
    let next := combine inA inB
    if next == now then sweep combine inA inB now as bs
    else place :: sweep combine inA inB next as bs
  termination_by (as.length + bs.length, 1)

/-- The code points whose memberships in two sets combine to true. -/
def combine (f : Bool → Bool → Bool) (a b : CodeSet) : CodeSet :=
  ⟨(sweep f false false false a.bounds.toList b.bounds.toList).toArray⟩

/-- The code points in either set. -/
def union (a b : CodeSet) : CodeSet := combine (· || ·) a b

/-- The code points in both sets. -/
def inter (a b : CodeSet) : CodeSet := combine (· && ·) a b

/-- The code points in the first set only. -/
def diff (a b : CodeSet) : CodeSet := combine (fun x y => x && !y) a b

/-- The code points in exactly one set. -/
def symmDiff (a b : CodeSet) : CodeSet := combine (· != ·) a b

/-- The code points not in a set. -/
def compl (s : CodeSet) : CodeSet := full.diff s

/-- The code points in some set of a list. -/
def unionAll (sets : List CodeSet) : CodeSet := sets.foldl union empty

/-- Whether all members are ASCII. -/
def isAscii (s : CodeSet) : Bool := s.bounds.all (· ≤ 128)

/-- Whether there are no members. -/
def isEmpty (s : CodeSet) : Bool := s.bounds.isEmpty

/-- The maximal ranges of a set as pairs of the first and the last member. -/
def ranges (s : CodeSet) : List (Nat × Nat) :=
  (List.range (s.bounds.size / 2)).map fun i =>
    (s.bounds[2 * i]?.getD 0, s.bounds[2 * i + 1]?.getD 0 - 1)

/-- The ranges of the members that are characters, where no range begins or ends with halves of
surrogate pairs. -/
def charRanges (s : CodeSet) : List (Nat × Nat) :=
  s.ranges.filterMap fun (low, high) =>
    let low := if 0xD800 ≤ low ∧ low ≤ 0xDFFF then 0xE000 else low
    let high := if 0xD800 ≤ high ∧ high ≤ 0xDFFF then 0xD7FF else high
    if low ≤ high then some (low, high) else none

end CodeSet

end ShapeCheck.Unicode
