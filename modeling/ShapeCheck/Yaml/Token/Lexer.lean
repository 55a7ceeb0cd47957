import ShapeCheck.Yaml.BlockText
import ShapeCheck.Yaml.Plain
import ShapeCheck.Yaml.Token

/-!
# The tokens of a text

A lexer goes through a text and keeps the indentation of the blocks it is in, the brackets it is in,
and for each of these the place where a key may have begun: only the colon behind it shows that it
was one, and tokens are then put in at its place. A key takes up one line and at most 1024 bytes.
-/

namespace ShapeCheck.Yaml

/-- A place where a key may have begun: how many tokens came before, where it stands, and whether a
key is the only thing that may stand there. -/
structure MaybeKey where
  position : Nat
  index : Nat
  line : Nat
  column : Nat
  required : Bool
  deriving Repr

/-- The state of going through a text: the tokens found, the last one first, and their count; the
columns of the blocks, the innermost first; for each pair of brackets, and for the text outside, the
place of a possible key; whether a key may begin here. -/
structure Lexer where
  place : Cursor
  tokens : List Token := []
  count : Nat := 0
  columns : List Nat := []
  keys : List (Option MaybeKey) := [none]
  keyAllowed : Bool := true
  deriving Repr

namespace Lexer

/-- Whether the place is inside brackets. -/
def inFlow (l : Lexer) : Bool := 1 < l.keys.length

/-- Adds a token. -/
def emit (l : Lexer) (t : Token) : Lexer :=
  { l with tokens := t :: l.tokens, count := l.count + 1 }

/-- Puts a token in behind the first `position` tokens. -/
def emitAt (l : Lexer) (position : Nat) (t : Token) : Lexer :=
  let later := l.count - position
  { l with tokens := l.tokens.take later ++ t :: l.tokens.drop later, count := l.count + 1 }

/-- Moves the place ahead. -/
def skip (l : Lexer) (n : Nat) : Lexer := { l with place := l.place.skip n }

/-- The number of blocks that end before a column. -/
def endedBlocks (column : Nat) (columns : List Nat) : Nat :=
  (columns.takeWhile (column < ·)).length

/-- Ends so many blocks. -/
def endBlocks (l : Lexer) (count : Nat) : Lexer :=
  { l with
    columns := l.columns.drop count
    tokens := List.replicate count .blockEnd ++ l.tokens
    count := l.count + count }

/-- Ends the blocks that are indented further than a column. -/
def unroll (l : Lexer) (column : Nat) : Lexer :=
  if l.inFlow then l else l.endBlocks (endedBlocks column l.columns)

/-- Ends all blocks. -/
def unrollAll (l : Lexer) : Lexer := if l.inFlow then l else l.endBlocks l.columns.length

/-- Whether a column is indented further than the innermost block. -/
def isDeeper (l : Lexer) (column : Nat) : Bool :=
  match l.columns with
  | [] => true
  | n :: _ => n < column

/-- Begins a block at a column that is indented further than the blocks around it. -/
def roll (l : Lexer) (column position : Nat) (t : Token) : Lexer :=
  if l.inFlow || !l.isDeeper column then l
  else { l.emitAt position t with columns := column :: l.columns }

/-- The place of the possible key. -/
def key? (l : Lexer) : Option MaybeKey := l.keys.head?.join

/-- Sets the place of the possible key. -/
def setKey (l : Lexer) (k : Option MaybeKey) : Lexer := { l with keys := k :: l.keys.drop 1 }

/-- Gives up the possible key, which must not be required. -/
def removeKey (l : Lexer) : Option Lexer :=
  match l.key? with
  | some k => if k.required then none else some (l.setKey none)
  | none => some l

/-- Notes the place as that of a possible key, if one may begin here. -/
def saveKey (l : Lexer) : Option Lexer :=
  if l.keyAllowed then do
    let c := l.place
    let required := !l.inFlow && l.columns.head? == some c.column
    let cleared ← l.removeKey
    some (cleared.setKey (some ⟨l.count, c.index, c.line, c.column, required⟩))
  else some l

/-- Whether a key that began at a place may still be going on. -/
def isFresh (c : Cursor) (k : MaybeKey) : Bool := c.line ≤ k.line && c.index ≤ k.index + 1024

/-- Gives up the possible keys that began too long ago. -/
def dropStale (l : Lexer) : Option Lexer :=
  let isStale := fun (k : Option MaybeKey) => k.any fun k => !isFresh l.place k
  if l.keys.any fun k => isStale k && k.any (·.required) then none
  else some { l with keys := l.keys.map fun k => if isStale k then none else k }

/-- Says whether a key may begin behind what has just been read. -/
def allow (l : Lexer) (keyAllowed : Bool) : Lexer := { l with keyAllowed }

/-- The number of blanks, comments and line ends before the next token, and whether a key may begin
there. -/
def gapSize (flow keyAllowed comment : Bool) (column : Nat) : List Char → Nat × Bool
  | [] => (0, keyAllowed)
  | c :: rest =>
    let (passes, allowed, comment, column) :=
      if isBreak c then (true, keyAllowed || !flow, false, 0)
      else if comment then (true, keyAllowed, true, column + 1)
      else if c = '#' then (true, keyAllowed, true, column + 1)
      else
        (c = ' ' || (c = '\t' && (flow || !keyAllowed)) || (c.toNat = 0xFEFF && column = 0),
          keyAllowed, false, column + 1)
    if passes then
      let (size, last) := gapSize flow allowed comment column rest
      (size + 1, last)
    else (0, keyAllowed)

/-- Moves the place to the next token. -/
def skipGap (l : Lexer) : Lexer :=
  let (size, allowed) := gapSize l.inFlow l.keyAllowed false l.place.column l.place.rest
  (l.skip size).allow allowed

/-- A number of a version: at most nine digits. -/
def versionNumber? (text : List Char) : Option (Nat × Nat) :=
  let digits := text.takeWhile Char.isDigit
  if digits.isEmpty || 9 < digits.length then none
  else some (digits.foldl (fun n d => n * 10 + (d.toNat - '0'.toNat)) 0, digits.length)

/-- Reads the version of a version directive: the token, and how many characters it takes up. -/
def readVersion (text : List Char) : Option (Token × Nat) := do
  let blanks := (text.takeWhile isBlank).length
  let text := text.drop blanks
  let (major, size) ← versionNumber? text
  if (text.drop size).head? = some '.' then
    let (minor, more) ← versionNumber? (text.drop (size + 1))
    some (.version major minor, blanks + size + 1 + more)
  else none

/-- Reads the handle and its meaning of a tag directive. -/
def readHandle (text : List Char) : Option (Token × Nat) := do
  let blanks := (text.takeWhile isBlank).length
  match text.drop blanks with
  | '!' :: rest =>
    let name := rest.takeWhile isNameChar
    let closed := (rest.drop name.length).head? == some '!'
    if !closed && !name.isEmpty then none
    else
      let handle := '!' :: name ++ (if closed then ['!'] else [])
      let size := blanks + handle.length
      let more := ((text.drop size).takeWhile isBlank).length
      if more = 0 then none
      else
        let (lead, length) ← readTagRest true (text.drop (size + more))
        if length ≠ 0 ∧ atGap (text.drop (size + more + length)) then
          some (.handle handle lead, size + more + length)
        else none
  | _ => none

/-- Reads a directive behind its percent sign, with what follows on its line. -/
def readDirective (c : Cursor) : Option (Token × Cursor) := do
  let name := c.rest.takeWhile isNameChar
  let c := c.skip name.length
  if !atGap c.rest then none
  else
    let (t, size) ←
      match String.ofList name with
      | "YAML" => readVersion c.rest
      | "TAG" => readHandle c.rest
      | _ => none
    let c := (c.skip size).skipWhile isBlank
    let c := if c.rest.head? = some '#' then c.skipLine else c
    if atLineEnd c.rest then some (t, c.skipBreak) else none

/-- Reads a directive. -/
def directive (l : Lexer) : Option Lexer := do
  let l ← l.unrollAll.removeKey
  let (t, c) ← readDirective l.place.next
  some ({ l with place := c }.emit t |>.allow false)

/-- Reads a line that divides documents. -/
def divider (l : Lexer) (t : Token) : Option Lexer := do
  let l ← l.unrollAll.removeKey
  some (((l.skip 3).emit t).allow false)

/-- Reads an opening bracket. -/
def openFlow (l : Lexer) (t : Token) : Option Lexer := do
  let l ← l.saveKey
  some ((({ l with keys := none :: l.keys }.skip 1).emit t).allow true)

/-- Reads a closing bracket. -/
def closeFlow (l : Lexer) (t : Token) : Option Lexer := do
  let l ← l.removeKey
  let keys := if l.inFlow then l.keys.drop 1 else l.keys
  some ((({ l with keys }.skip 1).emit t).allow false)

/-- Reads a comma. -/
def comma (l : Lexer) : Option Lexer := do
  let l ← l.removeKey
  some (((l.skip 1).emit .comma).allow true)

/-- Reads the sign of an item. -/
def item (l : Lexer) : Option Lexer :=
  if !l.inFlow && !l.keyAllowed then none
  else do
    let l ← (l.roll l.place.column l.count .sequenceStart).removeKey
    some (((l.skip 1).emit .item).allow true)

/-- Reads the sign of a key. -/
def key (l : Lexer) : Option Lexer :=
  if !l.inFlow && !l.keyAllowed then none
  else do
    let l ← (l.roll l.place.column l.count .mappingStart).removeKey
    some (((l.skip 1).emit .key).allow (!l.inFlow))

/-- Reads the colon before a value: what has been read may turn out to be its key. -/
def value (l : Lexer) : Option Lexer :=
  match l.key? with
  | some k =>
    let l := (l.emitAt k.position .key).roll k.column k.position .mappingStart
    some ((((l.setKey none).skip 1).emit .value).allow false)
  | none =>
    if !l.inFlow && !l.keyAllowed then none
    else
      let l := l.roll l.place.column l.count .mappingStart
      some (((l.skip 1).emit .value).allow (!l.inFlow))

/-- Reads the name of an anchor or of an alias. -/
def name (l : Lexer) (token : List Char → Token) : Option Lexer := do
  let l ← l.saveKey
  let name := (l.place.rest.drop 1).takeWhile isNameChar
  let behind := l.place.rest.drop (name.length + 1)
  if name.isEmpty || !(atGap behind || behind.head?.any ("?:,]\x7d%@`".toList.contains ·)) then none
  else some (((l.skip (name.length + 1)).emit (token name)).allow false)

/-- Reads a tag. -/
def tag (l : Lexer) : Option Lexer := do
  let l ← l.saveKey
  let (t, size) ← readTag (l.place.rest.drop 1)
  let behind := l.place.rest.drop (size + 1)
  if atGap behind || (l.inFlow && behind.head? == some ',') then
    some (((l.skip (size + 1)).emit (.tag t)).allow false)
  else none

/-- Reads a block scalar. -/
def block (l : Lexer) (folded : Bool) : Option Lexer := do
  let l ← l.removeKey
  let (text, c) ← readBlock folded l.columns.head? l.place.next
  some (({ l with place := c }.emit (.scalar text false)).allow true)

/-- Reads a quoted scalar. -/
def quoted (l : Lexer) (read : Gap → Nat → List Char → Option QuotedText) : Option Lexer := do
  let l ← l.saveKey
  let c := l.place.next
  let q ← read .none c.column c.rest
  some (((l.skip (q.size + 1)).emit (.scalar q.text false)).allow false)

/-- Reads a plain scalar. A key may begin on the line behind it. -/
def plain (l : Lexer) : Option Lexer := do
  let l ← l.saveKey
  let indent := match l.columns with | [] => 0 | n :: _ => n + 1
  let p ← readPlain l.inFlow indent .none false l.place.column l.place.rest
  some (((l.skip p.size).emit (.scalar p.text true)).allow p.broken)

/-- Whether a plain scalar may begin with a character before a text. -/
def startsPlain (flow : Bool) (c : Char) (rest : List Char) : Bool :=
  !(isBlank c || "-?:,[]\x7b\x7d#&*!|>'\"%@`".toList.contains c) ||
    (c = '-' && !rest.head?.any isBlank) ||
    (!flow && (c = '?' || c = ':') && !atGap rest)

/-- Reads the token that begins with a character. -/
def readToken (l : Lexer) (c : Char) (rest : List Char) : Option Lexer :=
  let first := l.place.column = 0
  if first && c = '%' then l.directive
  else if first && startsWithThree '-' (c :: rest) then l.divider .documentStart
  else if first && startsWithThree '.' (c :: rest) then l.divider .documentEnd
  else if c = '[' then l.openFlow .bracketOpen
  else if c = '{' then l.openFlow .braceOpen
  else if c = ']' then l.closeFlow .bracketClose
  else if c = '}' then l.closeFlow .braceClose
  else if c = ',' then l.comma
  else if c = '-' && atGap rest then l.item
  else if c = '?' && (l.inFlow || atGap rest) then l.key
  else if c = ':' && (l.inFlow || atGap rest) then l.value
  else if c = '*' then l.name .alias
  else if c = '&' then l.name .anchor
  else if c = '!' then l.tag
  else if c = '|' && !l.inFlow then l.block false
  else if c = '>' && !l.inFlow then l.block true
  else if c = '\'' then l.quoted readSingle
  else if c = '"' then l.quoted readDouble
  else if startsPlain l.inFlow c rest then l.plain
  else none

/-- Reads the tokens that are left, at most `bound` beside those that line structure makes. -/
def run : Nat → Lexer → Option (List Token)
  | 0, _ => none
  | bound + 1, l => do
    let l ← l.skipGap.dropStale
    let l := l.unroll l.place.column
    match l.place.rest with
    | [] => (← l.unrollAll.removeKey).tokens.reverse
    | c :: rest => run bound (← l.readToken c rest)

end Lexer

/-- The tokens of a text. -/
def tokens? (text : List Char) : Option (List Token) :=
  Lexer.run (text.length + 1) { place := { rest := unifyBreaks text } }

end ShapeCheck.Yaml
