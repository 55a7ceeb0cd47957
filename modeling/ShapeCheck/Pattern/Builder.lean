import ShapeCheck.Pattern.LiteralTree

/-!
# Building automata

The automaton of a pattern reads bytes. Only the room that it takes is reckoned with here: a
`Building` goes through what a builder of the automaton would add, counts states and transitions, and
stops as soon as they take more than `sizeLimit`.
-/

namespace ShapeCheck.Pattern

/-- The room that the automaton of a pattern may take. -/
def sizeLimit : Nat := 10 * Nat.pow 2 20

/-- The room of a state without transitions that it has to list. -/
def stateRoom : Nat := 32

/-- The room of one transition on a range of bytes in a list of them. -/
def rangeRoom : Nat := 8

/-- The room of one transition that reads nothing in a list of them. -/
def branchRoom : Nat := 4

/-- How many states an automaton has so far, and the room that they take. -/
structure Builder where
  states : Nat := 0
  room : Nat := 0
  deriving DecidableEq, Repr

/-- A step of building an automaton, which fails when the automaton takes too much room. -/
abbrev Building := StateT Builder Option

namespace Building

/-- Takes room. -/
def take (amount : Nat) : Building Unit := do
  let b ← get
  if sizeLimit < b.room + amount then failure else set { b with room := b.room + amount }

/-- Adds a state with lists of transitions that take the given room, and gives its number. -/
def state (lists : Nat) : Building Nat := do
  let b ← get
  if sizeLimit < b.room + stateRoom + lists then failure
  else
    set (⟨b.states + 1, b.room + stateRoom + lists⟩ : Builder)
    return b.states

/-- Adds so many states without lists. -/
def plainStates : Nat → Building Unit
  | 0 => return
  | n + 1 => do
    let _ ← state 0
    plainStates n

/-- Goes on behind a part. If the part ends in a state that lists branches, this is one more. -/
def leave (branching : Bool) : Building Unit := if branching then take branchRoom else return

/-- A part of an automaton, which tells whether it ends in a state that lists branches. -/
abbrev Part := Building Bool

/-- The part that reads nothing. -/
def blank : Part := do
  let _ ← state 0
  return false

/-- So many copies of a part behind one that ends as given. -/
def copiesBehind (part : Part) (branching : Bool) : Nat → Part
  | 0 => return branching
  | n + 1 => do
    let next ← part
    leave branching
    copiesBehind part next n

/-- So many copies of a part in sequence. -/
def copies (part : Part) : Nat → Part
  | 0 => blank
  | n + 1 => do copiesBehind part (← part) n

/-- Optional copies of a part behind one that ends as given; each may be the last one. -/
def optionalCopies (part : Part) (branching : Bool) : Nat → Part
  | 0 => return branching
  | n + 1 => do
    let _ ← state (2 * branchRoom)
    let next ← part
    leave branching
    optionalCopies part next n

/-- Parts in sequence. -/
def sequence : List Part → Part
  | [] => blank
  | first :: rest => do
    let mut branching ← first
    for part in rest do
      let next ← part
      leave branching
      branching := next
    return branching

/-- Alternatives: a state that lists them, and one where they meet. -/
def choice : List Part → Part
  | [] => blank
  | [part] => part
  | first :: second :: rest => do
    leave (← first)
    leave (← second)
    let _ ← state (branchRoom * (rest.length + 2))
    let _ ← state 0
    for part in rest do
      leave (← part)
    return false

/-- A repetition of a part; `needsText` says that the part does not match the empty text. -/
def repetition (part : Part) (needsText : Bool) (min : Nat) (max : Option Nat) : Part := do
  match min, max with
  | 0, none =>
    if needsText then
      let _ ← state branchRoom
      leave (← part)
      return true
    else
      leave (← part)
      let _ ← state (2 * branchRoom)
      let _ ← state (2 * branchRoom)
      blank
  | min + 1, none =>
    leave (← copies part (min + 1))
    let _ ← state branchRoom
    return true
  | min, some max =>
    if min = 0 ∧ max = 1 then
      let _ ← state (2 * branchRoom)
      leave (← part)
      blank
    else
      let first ← copies part min
      if max ≤ min then return first
      else
        let _ ← state 0
        leave (← optionalCopies part first (max - min))
        return false

/-- A tree of literals. Each place with branches has a state for each group of them and one that
lists the groups; where a text ends, the end of the tree is listed as well. -/
def literals (texts : List (List Nat)) : Part := do
  for groups in (LiteralTree.ofList texts).groups do
    let used := groups.filter (· != 0)
    for size in used do
      let _ ← state (if size = 1 then 0 else rangeRoom * size)
    let _ ← state (branchRoom * (used.length + (groups.length - 1)))
  blank

end Building

end ShapeCheck.Pattern
