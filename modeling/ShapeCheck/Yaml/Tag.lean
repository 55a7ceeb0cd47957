import ShapeCheck.Input.Symbol
import ShapeCheck.Yaml.QuotedText

/-!
# Tags

A tag names the type of a node. It is written as a handle and the rest, or whole between `!<` and
`>`. Bytes of the rest may be written as `%` and two hexadecimal digits; these have the form of
characters, but a character may be written in more bytes than it needs, so a tag need not be text.
-/

namespace ShapeCheck.Yaml

open Input (continuation? decode chars?)

/-- A tag as its bytes. -/
structure Tag where
  bytes : List UInt8
  deriving DecidableEq, Repr

namespace Tag

/-- The tag of a text within ASCII. -/
def ofAscii (text : String) : Tag := ⟨text.toList.map fun c => UInt8.ofNat c.toNat⟩

/-- What the tags of the types that all documents know begin with. -/
def sharedLead : String := "tag:yaml.org,2002:"

/-- Whether a tag belongs to the document itself. Such tags begin with an exclamation mark. -/
def isLocal (t : Tag) : Bool := t.bytes.head? == some 0x21

/-- A name behind one exclamation mark. The mark of a name that begins with one serves. -/
def marked : List Char → List Char
  | '!' :: c :: rest => '!' :: c :: rest
  | name => '!' :: name

/-- How a tag of a document's own is shown. Its name stands behind an exclamation mark, and the tag
that is this mark alone has it as its name too. A tag that is no text is not shown. -/
def shown? (t : Tag) : Option String :=
  match t.bytes with
  | 0x21 :: rest =>
    (chars? (decode (if rest.isEmpty then t.bytes else rest))).map fun name =>
      String.ofList (marked name)
  | _ => none

end Tag

/-- A tag as it is written. A tag that is written whole has an empty handle. -/
structure TagText where
  handle : List Char
  suffix : List UInt8
  deriving DecidableEq, Repr

/-- Whether a character may stand in a tag; inside `!<` and `>` these are more. -/
def isTagChar (whole : Bool) (c : Char) : Bool :=
  isNameChar c || ";/?:@&=+$.!~*'()".toList.contains c || (whole && ",[]".toList.contains c)

/-- The number of bytes that follow the first byte of a character. -/
def bytesBehind? (first : Nat) : Option Nat :=
  if first < 0x80 then some 0
  else if first < 0xC0 then none
  else if first < 0xE0 then some 1
  else if first < 0xF0 then some 2
  else if first < 0xF8 then some 3
  else none

/-- The bytes of the tag characters at the front of a text, and how many characters they take up.
Of a character that is written as bytes, `due` bytes are still to come. -/
def tagBytes (whole : Bool) (due : Nat) : List Char → Option (List UInt8 × Nat)
  | [] => if due = 0 then some ([], 0) else none
  | '%' :: a :: b :: rest => do
    let byte := (← hexValue? a) * 16 + (← hexValue? b)
    let due ←
      if due = 0 then bytesBehind? byte
      else (continuation? (UInt8.ofNat byte)).map fun _ => due - 1
    let (bytes, size) ← tagBytes whole due rest
    some (UInt8.ofNat byte :: bytes, size + 3)
  | c :: rest =>
    if due ≠ 0 ∨ c = '%' then none
    else if isTagChar whole c then do
      let (bytes, size) ← tagBytes whole 0 rest
      some (UInt8.ofNat c.toNat :: bytes, size + 1)
    else some ([], 0)

/-- What the tag characters at the front of a text say, and how many characters they take up. A byte
of zero ends what is said. -/
def readTagRest (whole : Bool) (text : List Char) : Option (List UInt8 × Nat) :=
  (tagBytes whole 0 text).map fun (bytes, size) => (bytes.takeWhile (· ≠ 0), size)

/-- Reads a tag that is written whole, behind `!<`. -/
def readWholeTag (text : List Char) : Option (TagText × Nat) := do
  let (suffix, size) ← readTagRest true text
  if size ≠ 0 ∧ (text.drop size).head? = some '>' then some (⟨[], suffix⟩, size + 1) else none

/-- Reads a tag behind its exclamation mark: the tag, and how many characters it takes up. -/
def readTag (text : List Char) : Option (TagText × Nat) :=
  match text with
  | '<' :: rest => (readWholeTag rest).map fun (tag, size) => (tag, size + 1)
  | text => do
    let name := text.takeWhile isNameChar
    match text.drop name.length with
    | '!' :: rest =>
      let (suffix, size) ← readTagRest false rest
      if size = 0 then none
      else some (⟨'!' :: name ++ ['!'], suffix⟩, name.length + 1 + size)
    | _ =>
      let (suffix, size) ← readTagRest false text
      if suffix.isEmpty then some (⟨[], (Tag.ofAscii "!").bytes⟩, size)
      else some (⟨['!'], suffix⟩, size)

end ShapeCheck.Yaml
