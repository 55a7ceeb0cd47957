import ShapeCheck.Unicode.CaseRuns

/-!
# Letter case

`toLower` is the full lower-case form of a character, independent of its neighbours. `foldings` are
the characters that differ from a given one in case only, under simple case folding.
-/

namespace ShapeCheck.Unicode

/-- A regular run of a case mapping: `length` characters, `stride` apart, each moved by `shift`. -/
structure CaseRun where
  start : Nat
  length : Nat
  stride : Nat
  shift : Int

namespace CaseRun

/-- Reads `start,length,stride,shift`. -/
def ofText? (text : String) : Option CaseRun :=
  match (text.splitOn ",").map String.toInt? with
  | [some start, some length, some stride, some shift] =>
    some ⟨start.toNat, length.toNat, stride.toNat, shift⟩
  | _ => none

/-- Whether a code point is one of the characters of a run. -/
def covers (r : CaseRun) (code : Nat) : Bool :=
  r.start ≤ code && code < r.start + r.length * r.stride && (code - r.start) % r.stride == 0

/-- The image of a code point of the run. -/
def image? (r : CaseRun) (code : Nat) : Option Nat :=
  if r.covers code then some ((code : Int) + r.shift).toNat else none

/-- The code point of the run that has the given image. -/
def source? (r : CaseRun) (image : Nat) : Option Nat :=
  let code := ((image : Int) - r.shift).toNat
  if r.covers code then some code else none

end CaseRun

/-- The runs of a table, separated by blanks. -/
def caseRuns (table : String) : List CaseRun :=
  (table.splitOn " ").filterMap CaseRun.ofText?

/-- The runs of the lower-case mapping. -/
def lowerCaseTable : List CaseRun := caseRuns lowerCaseRuns

/-- The runs of the simple case folding. -/
def caseFoldTable : List CaseRun := caseRuns caseFoldRuns

/-- Lower case within ASCII; other characters stay. -/
def toLowerAscii (c : Char) : Char :=
  if 'A' ≤ c ∧ c ≤ 'Z' then Char.ofNat (c.toNat + 32) else c

/-- The lower-case form of a character: one character, but for a capital I with a dot above. -/
def toLower (c : Char) : List Char :=
  if c.toNat < 128 then [toLowerAscii c]
  else if c.toNat = 0x130 then ['i', Char.ofNat 0x307]
  else
    match lowerCaseTable.findSome? (·.image? c.toNat) with
    | some code => [Char.ofNat code]
    | none => [c]

/-- The simple case folding of a code point. -/
def foldCode (code : Nat) : Nat :=
  (caseFoldTable.findSome? (·.image? code)).getD code

/-- The code points that fold to the same one as `code`, itself included. -/
def foldings (code : Nat) : List Nat :=
  let folded := foldCode code
  folded :: caseFoldTable.filterMap (·.source? folded)

end ShapeCheck.Unicode
