import ShapeCheck.Pattern.Builder
import ShapeCheck.Pattern.ByteSequence
import Std.Data.HashMap

/-!
# Sets of characters in automata

A set of characters is read byte by byte along the sequences of byte ranges that cover it. States
that do the same are one where that is noticed: states that have been built are kept in a limited
number of places, and one that comes to a place takes the place of what was kept there.
-/

namespace ShapeCheck.Pattern

open Unicode

namespace Building

/-- A transition on a range of bytes to the state with a number. -/
structure Transition where
  bytes : ByteRange
  target : Nat
  deriving DecidableEq, Repr

/-- What numbers come to when they are mixed one by one into a word of 64 bits. -/
def mixed (numbers : List Nat) : UInt64 :=
  numbers.foldl (fun h n => (h ^^^ n.toUInt64) * 1099511628211) 14695981039346656037

/-- States by what they do, kept in a limited number of places. What comes to the same place as
something earlier takes the place of it. -/
structure Memory (α : Type) where
  places : Nat
  kept : Std.HashMap Nat (α × Nat) := ∅

namespace Memory

variable {α : Type}

/-- The place of what comes to some numbers. -/
def place (m : Memory α) (numbers : List Nat) : Nat := (mixed numbers).toNat % m.places

/-- The state that is kept in a place, if it does as wanted. -/
def find? [BEq α] (m : Memory α) (place : Nat) (wanted : α) : Option Nat :=
  match m.kept[place]? with
  | some (key, state) => if key == wanted then some state else none
  | none => none

/-- Keeps a state in a place. -/
def keep (m : Memory α) (place : Nat) (key : α) (state : Nat) : Memory α :=
  { m with kept := m.kept.insert place (key, state) }

end Memory

/-- A state to which transitions are still added: those that are known, the latest first, and the
range of the one whose target is not yet known. -/
structure OpenState where
  known : List Transition := []
  waiting : Option ByteRange := none

/-- The state with the target of the transition that waits. -/
def OpenState.settle (s : OpenState) (target : Nat) : OpenState :=
  match s.waiting with
  | some bytes => ⟨⟨bytes, target⟩ :: s.known, none⟩
  | none => s

/-- The open states while a set is built, from the innermost to the outermost, with the states that
have been finished and are kept. -/
structure SetBuilder where
  opened : List OpenState := [{}]
  memory : Memory (List Transition) := { places := 10000 }

namespace SetBuilder

/-- Finishes a state, for which an equal one is taken if one is kept. -/
def finish (b : SetBuilder) (s : OpenState) : Building (Nat × Memory (List Transition)) := do
  let transitions := s.known.reverse
  let place := b.memory.place (transitions.flatMap fun t => [t.bytes.1, t.bytes.2, t.target])
  match b.memory.find? place transitions with
  | some state => return (state, b.memory)
  | none =>
    let new ← state (rangeRoom * transitions.length)
    return (new, b.memory.keep place transitions new)

/-- Finishes the innermost states, so many of them. Then the target is known for which the next one
waits. -/
def close (b : SetBuilder) (target : Nat) : Nat → Building SetBuilder
  | 0 =>
    match b.opened with
    | [] => return b
    | s :: rest => return { b with opened := s.settle target :: rest }
  | n + 1 =>
    match b.opened with
    | [] => return b
    | s :: rest => do
      let (state, memory) ← b.finish (s.settle target)
      close { opened := rest, memory } state n

/-- The number of ranges at the front of a sequence for which the outermost states wait. -/
def sharedSize : List ByteRange → List OpenState → Nat
  | r :: ranges, s :: states => if s.waiting = some r then sharedSize ranges states + 1 else 0
  | _, _ => 0

/-- Adds a sequence of ranges of bytes, which lies behind those before. -/
def add (b : SetBuilder) (target : Nat) (ranges : List ByteRange) : Building SetBuilder := do
  let shared := sharedSize ranges b.opened.reverse
  let b ← b.close target (b.opened.length - (shared + 1))
  match b.opened, ranges.drop shared with
  | s :: rest, r :: more =>
    return { b with
      opened :=
        (more.map fun r => { waiting := some r }).reverse ++ { s with waiting := some r } :: rest }
  | _, _ => return b

end SetBuilder

/-- A set that is read forward, as a tree whose equal states are one where that is noticed. -/
def setForward (sequences : List (List ByteRange)) : Part := do
  let target ← state 0
  let mut b : SetBuilder := {}
  for ranges in sequences do
    b ← b.add target ranges
  b ← b.close target (b.opened.length - 1)
  match b.opened with
  | s :: _ =>
    let _ ← b.finish s
    return false
  | [] => return false

/-- A set that is read backward: all its sequences as branches, of which those that begin alike share
states where that is noticed. -/
def setBackward (sequences : List (List ByteRange)) : Part := do
  let _ ← state 0
  let target ← state 0
  let mut memory : Memory (Nat × ByteRange) := { places := 1000 }
  for ranges in sequences do
    let mut last := target
    for r in ranges do
      let place := memory.place [last, r.1, r.2]
      match memory.find? place (last, r) with
      | some state => last := state
      | none =>
        let new ← state 0
        memory := memory.keep place (last, r) new
        last := new
    take branchRoom
  return false

/-- A set. Within ASCII one state lists the ranges. -/
def charSet (backward : Bool) (codes : CodeSet) : Part := do
  if codes.isAscii then
    let _ ← state 0
    let _ ← state (rangeRoom * codes.ranges.length)
    return false
  else if backward then setBackward (setSequences codes)
  else setForward (setSequences codes)

end Building

end ShapeCheck.Pattern
