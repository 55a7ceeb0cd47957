import ShapeCheck.Yaml.Token.Lexer
import ShapeCheck.Yaml.Node

/-!
# The structure of a text

`document?` builds the node of a text with at most one document from its tokens. Anchors are numbered
by the count of different names before them, so a name that is anchored again may share its number
with the next new name.
-/

namespace ShapeCheck.Yaml

/-- What is left of the tokens, the numbers of the anchors so far, and the meanings of handles. -/
structure Source where
  tokens : List Token
  anchors : List (String × Nat) := []
  handles : List (List Char × List UInt8) := []

/-- A step of building a node. -/
abbrev Build := StateT Source Option

namespace Build

/-- The next token. -/
def peek : Build (Option Token) := do return (← get).tokens.head?

/-- Passes a token. -/
def pass : Build Unit := modify fun s => { s with tokens := s.tokens.drop 1 }

/-- Numbers an anchor. -/
def number (name : String) : Build Nat := do
  let s ← get
  let n := s.anchors.length
  set { s with anchors := (name, n) :: s.anchors.filter (·.1 ≠ name) }
  return n

/-- The number that an alias means. -/
def numberOf (name : String) : Build Nat := do
  match (← get).anchors.lookup name with
  | some n => return n
  | none => failure

/-- The meanings that handles have unless a directive says otherwise. -/
def defaultHandles : List (List Char × List UInt8) :=
  [(['!'], (Tag.ofAscii "!").bytes), (['!', '!'], (Tag.ofAscii Tag.sharedLead).bytes)]

/-- The tag that a written tag means. -/
def resolve (t : TagText) : Build Tag := do
  if t.handle.isEmpty then return ⟨t.suffix⟩
  else
    match ((← get).handles ++ defaultHandles).lookup t.handle with
    | some lead => return ⟨lead ++ t.suffix⟩
    | none => failure

/-- Reads an anchor, if there is one. -/
def anchor? : Build (Option Nat) := do
  match ← peek with
  | some (.anchor name) => pass; return some (← number (String.ofList name))
  | _ => return none

/-- Reads a tag, if there is one. -/
def tag? : Build (Option Tag) := do
  match ← peek with
  | some (.tag t) => pass; return some (← resolve t)
  | _ => return none

/-- Reads what stands before a node, in either order. -/
def properties : Build Properties := do
  match ← anchor? with
  | some n => return ⟨some n, ← tag?⟩
  | none =>
    let t ← tag?
    match t with
    | some t => return ⟨← anchor?, some t⟩
    | none => return {}

/-- A node that begins with one of some tokens is empty; else it is read. -/
def emptyBefore (ends : List Token) (node : Build Node) : Build Node := do
  match ← peek with
  | none => return .empty
  | some t => if ends.contains t then return .empty else node

/-- Reads the items of a block up to its end. -/
def blockItems (node : Build Node) : Nat → Build (List Node)
  | 0 => failure
  | fuel + 1 => do
    match ← peek with
    | some .item =>
      pass
      let first ← emptyBefore [.item, .blockEnd] node
      return first :: (← blockItems node fuel)
    | some .blockEnd => pass; return []
    | _ => failure

/-- Reads the items of a list that is not indented further than the mapping around it. -/
def plainItems (node : Build Node) : Nat → Build (List Node)
  | 0 => failure
  | fuel + 1 => do
    match ← peek with
    | some .item =>
      pass
      let first ← emptyBefore [.item, .key, .value, .blockEnd] node
      return first :: (← plainItems node fuel)
    | _ => return []

/-- Reads the value of a key, if there is one. -/
def blockValue (node : Build Node) : Build Node := do
  match ← peek with
  | some .value => pass; emptyBefore [.key, .value, .blockEnd] node
  | _ => return .empty

/-- Reads the pairs of a block up to its end. -/
def blockEntries (node : Build Node) : Nat → Build (List (Node × Node))
  | 0 => failure
  | fuel + 1 => do
    match ← peek with
    | some .key =>
      pass
      let k ← emptyBefore [.key, .value, .blockEnd] node
      let v ← blockValue node
      return (k, v) :: (← blockEntries node fuel)
    | some .blockEnd => pass; return []
    | _ => failure

/-- Passes the comma before all but the first part between brackets. -/
def separator (first : Bool) : Build Unit := do
  if first then return
  else
    match ← peek with
    | some .comma => pass
    | _ => failure

/-- Reads the value of a key between brackets, if there is one. -/
def flowValue (close : Token) (node : Build Node) : Build Node := do
  match ← peek with
  | some .value => pass; emptyBefore [.comma, close] node
  | _ => return .empty

/-- Reads the key of a single pair. A sign that stands where the key should be is passed. -/
def singleKey (node : Build Node) : Build Node := do
  match ← peek with
  | some .value => pass; return .empty
  | some .comma => pass; return .empty
  | some .bracketClose => pass; return .empty
  | _ => node

/-- Reads the items between brackets. A pair among them is a mapping of its own. -/
def flowItems (node : Build Node) (first : Bool) : Nat → Build (List Node)
  | 0 => failure
  | fuel + 1 => do
    match ← peek with
    | some .bracketClose => pass; return []
    | _ =>
      separator first
      match ← peek with
      | some .bracketClose => pass; return []
      | some .key =>
        pass
        let k ← singleKey node
        let v ← flowValue .bracketClose node
        return .mapping {} [(k, v)] :: (← flowItems node false fuel)
      | _ =>
        let item ← node
        return item :: (← flowItems node false fuel)

/-- Reads the pairs between braces. -/
def flowEntries (node : Build Node) (first : Bool) : Nat → Build (List (Node × Node))
  | 0 => failure
  | fuel + 1 => do
    match ← peek with
    | some .braceClose => pass; return []
    | _ =>
      separator first
      match ← peek with
      | some .braceClose => pass; return []
      | some .key =>
        pass
        let k ← emptyBefore [.value, .comma, .braceClose] node
        let v ← flowValue .braceClose node
        return (k, v) :: (← flowEntries node false fuel)
      | _ =>
        let k ← node
        return (k, .empty) :: (← flowEntries node false fuel)

/-- Where a node stands: at the top of a block, as a key or a value in a block, or between
brackets. -/
inductive Position where
  | block
  | entry
  | flow
  deriving DecidableEq, Repr

/-- Reads a node. Nodes may lie within each other as deep as `fuel` says; no list is longer than
`bound`. -/
def node (bound : Nat) : Nat → Position → Build Node
  | 0, _ => failure
  | fuel + 1, position => do
    match ← peek with
    | some (.alias name) => pass; return .alias (← numberOf (String.ofList name))
    | _ =>
      let p ← properties
      match ← peek with
      | some (.scalar text plain) =>
        pass
        return .scalar p (String.ofList text) plain
      | some .bracketOpen =>
        pass
        return .sequence p (← flowItems (node bound fuel .flow) true bound)
      | some .braceOpen =>
        pass
        return .mapping p (← flowEntries (node bound fuel .flow) true bound)
      | some .item =>
        if position = .entry then
          return .sequence p (← plainItems (node bound fuel .block) bound)
        else orEmpty p
      | some .sequenceStart =>
        if position = .flow then orEmpty p
        else
          pass
          return .sequence p (← blockItems (node bound fuel .block) bound)
      | some .mappingStart =>
        if position = .flow then orEmpty p
        else
          pass
          return .mapping p (← blockEntries (node bound fuel .entry) bound)
      | _ => orEmpty p
where
  /-- The empty node with something before it. -/
  orEmpty (p : Properties) : Build Node :=
    if p.anchor.isNone && p.tag.isNone then failure else return .scalar p "" true

/-- Reads the directives before a document. Handles must differ, and there may be one version. -/
def directives (versioned : Bool) : Nat → Build Bool
  | 0 => failure
  | fuel + 1 => do
    match ← peek with
    | some (.version major minor) =>
      if versioned || major ≠ 1 || (minor ≠ 1 && minor ≠ 2) then failure
      else
        pass
        let _ ← directives true fuel
        return true
    | some (.handle name lead) =>
      let s ← get
      if (s.handles.lookup name).isSome then failure
      else
        set { s with handles := s.handles ++ [(name, lead)] }
        pass
        let _ ← directives versioned fuel
        return true
    | _ => return false

/-- Whether a token ends the place of a document. -/
def endsDocument : Option Token → Bool
  | none => true
  | some (.version _ _) => true
  | some (.handle _ _) => true
  | some .documentStart => true
  | some .documentEnd => true
  | some _ => false

/-- Reads a text with at most one document; none if there is nothing in it. -/
def stream (bound : Nat) : Build (Option Node) := do
  let directed ← directives false bound
  match ← peek with
  | none => if directed then failure else return none
  | some .documentStart =>
    pass
    let content ← if endsDocument (← peek) then pure .empty else node bound bound .block
    finish content
  | some _ => if directed then failure else finish (← node bound bound .block)
where
  /-- Reads what may follow the document. -/
  finish (content : Node) : Build (Option Node) := do
    if (← get).tokens.all (· == .documentEnd) then return some content else failure

end Build

/-- The node of a text with at most one document. -/
def document? (text : List Char) : Option (Option Node) := do
  let tokens ← tokens? text
  let (content, _) ← Build.stream (tokens.length + 2) |>.run { tokens }
  return content

end ShapeCheck.Yaml
