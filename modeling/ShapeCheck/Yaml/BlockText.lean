import ShapeCheck.Yaml.Cursor

/-!
# Block scalars

A block scalar is the indented lines behind `|` or `>`. Its header may fix the indentation and say
what becomes of the line ends at its end. Behind `>`, lines that are not indented further are folded.
-/

namespace ShapeCheck.Yaml

/-- What becomes of the line ends at the end of a block scalar. -/
inductive Chomping where
  | clip
  | strip
  | keep
  deriving DecidableEq, Repr

/-- The header of a block scalar: the treatment of its end, and how much deeper it is indented than
its surroundings, if that is fixed. -/
structure BlockHeader where
  chomping : Chomping := .clip
  depth : Option Nat := none
  deriving Repr

/-- The treatment that a sign asks for. -/
def chomping? (c : Char) : Option Chomping :=
  if c = '+' then some .keep else if c = '-' then some .strip else none

/-- Reads the header behind `|` or `>`: the header, and how many characters it takes up. -/
def readHeader (text : List Char) : Option (BlockHeader × Nat) :=
  match text with
  | [] => some ({}, 0)
  | c :: rest =>
    match chomping? c with
    | some chomping =>
      match rest with
      | [] => some ({ chomping }, 1)
      | d :: _ =>
        if d = '0' then none
        else if d.isDigit then some (⟨chomping, some (d.toNat - '0'.toNat)⟩, 2)
        else some ({ chomping }, 1)
    | none =>
      if c = '0' then none
      else if c.isDigit then
        let depth := some (c.toNat - '0'.toNat)
        match rest.head?.bind chomping? with
        | some chomping => some (⟨chomping, depth⟩, 2)
        | none => some (⟨.clip, depth⟩, 1)
      else some ({}, 0)

/-- Passes the spaces that belong to the indentation: all, if it is not fixed. -/
def skipIndent (indent : Option Nat) (c : Cursor) : Cursor :=
  let spaces := (c.rest.takeWhile (· = ' ')).length
  c.skip (match indent with | some n => min spaces (n - c.column) | none => spaces)

theorem length_skipIndent_le (indent : Option Nat) (c : Cursor) :
    (skipIndent indent c).rest.length ≤ c.rest.length := by
  unfold skipIndent
  rw [Cursor.length_rest_skip]
  omega

/-- Whether a place is still in the indentation. -/
def inIndent (indent : Option Nat) (c : Cursor) : Bool :=
  match indent with
  | some n => c.column < n
  | none => true

/-- Passes indentation and empty lines: the line ends passed, the greatest column reached, and the
place. A tab must not stand in the indentation. -/
def readBreaks (indent : Option Nat) (c : Cursor) : Option (List Char × Nat × Cursor) :=
  let d := skipIndent indent c
  match _hd : d.rest with
  | [] => some ([], d.column, d)
  | x :: _ =>
    if inIndent indent d && x = '\t' then none
    else if isBreak x then
      (readBreaks indent d.next).map fun (breaks, column, e) =>
        (x :: breaks, max column d.column, e)
    else some ([], d.column, d)
termination_by c.rest.length
decreasing_by
  have hle : d.rest.length ≤ c.rest.length := length_skipIndent_le indent c
  have hnext : d.next.rest.length = d.rest.length - 1 := Cursor.length_rest_next d
  have hpos : 0 < d.rest.length := by rw [_hd]; exact Nat.succ_pos _
  exact hnext ▸ Nat.lt_of_lt_of_le (Nat.sub_lt hpos Nat.one_pos) hle

theorem length_readBreaks_le {indent : Option Nat} {c e : Cursor} {breaks : List Char}
    {column : Nat} (h : readBreaks indent c = some (breaks, column, e)) :
    e.rest.length ≤ c.rest.length := by
  induction hn : c.rest.length using Nat.strongRecOn generalizing c e breaks column with
  | _ n ih =>
    have hle := length_skipIndent_le indent c
    have hnext := Cursor.length_rest_next (skipIndent indent c)
    rw [readBreaks] at h
    split at h
    · simp only [Option.some.injEq, Prod.mk.injEq] at h
      rw [← h.2.2]
      omega
    · rename_i hd
      split at h
      · cases h
      · split at h
        · obtain ⟨⟨b, k, f⟩, hf, hr⟩ := Option.map_eq_some_iff.1 h
          simp only [Prod.mk.injEq] at hr
          rw [hd, List.length_cons] at hnext hle
          have := ih (skipIndent indent c).next.rest.length (by omega) hf rfl
          rw [← hr.2.2]
          omega
        · simp only [Option.some.injEq, Prod.mk.injEq] at h
          rw [← h.2.2]
          omega

/-- The lines of a block scalar that have been read: the text, the line end behind it, the empty
lines behind that, and the place. -/
structure BlockLines where
  text : List Char
  ending : Option Char
  empty : List Char
  place : Cursor

/-- The rest of the line at a place. -/
def lineAt (c : Cursor) : List Char := c.rest.takeWhile fun x => !isBreak x

/-- The place behind the line at a place and its end. -/
def behindLine (c : Cursor) : Cursor := (c.skip (lineAt c).length).skipBreak

theorem length_behindLine_lt {c : Cursor} {x : Char} {rest : List Char} (h : c.rest = x :: rest) :
    (behindLine c).rest.length < c.rest.length := by
  have hskip := Cursor.length_rest_skip c (lineAt c).length
  have hbreak := Cursor.length_rest_skipBreak_le (c.skip (lineAt c).length)
  by_cases hx : isBreak x
  · have hline : lineAt c = [] := by simp [lineAt, h, hx]
    have hnext := Cursor.length_rest_next c
    simp only [behindLine, hline, List.length_nil, Cursor.skip, Cursor.skipBreak, h, hx, if_true]
    rw [h, List.length_cons] at hnext
    rw [hnext, List.length_cons]
    omega
  · have hline : 0 < (lineAt c).length := by simp [lineAt, h, hx]
    have hpos : 0 < c.rest.length := by simp [h]
    unfold behindLine
    omega

/-- Reads the lines of a block scalar from a place behind a line end and empty lines. `indented`
says whether the line before was indented further. -/
def readLines (folded : Bool) (indent : Nat) (ending : Option Char) (empty : List Char)
    (indented : Bool) (c : Cursor) : Option BlockLines :=
  match hc : c.rest with
  | [] => some ⟨[], ending, empty, c⟩
  | x :: _ =>
    if c.column = indent then
      let fold := folded && ending = some '\n' && !indented && !isBlank x
      let joint := if fold then (if empty.isEmpty then [' '] else []) else ending.toList
      let next := (c.rest.drop (lineAt c).length).head?
      match hb : readBreaks (some indent) (behindLine c) with
      | none => none
      | some (breaks, _, d) =>
        have : d.rest.length < c.rest.length :=
          Nat.lt_of_le_of_lt (length_readBreaks_le hb) (length_behindLine_lt hc)
        (readLines folded indent next breaks (isBlank x) d).map fun b =>
          { b with text := joint ++ empty ++ lineAt c ++ b.text }
    else some ⟨[], ending, empty, c⟩
termination_by c.rest.length

/-- Reads a block scalar behind its sign; `column` is the indentation of its surroundings, if there
are any. -/
def readBlock (folded : Bool) (column : Option Nat) (c : Cursor) : Option (List Char × Cursor) := do
  let (header, size) ← readHeader c.rest
  let c := (c.skip size).skipWhile isBlank
  let c := if c.rest.head? = some '#' then c.skipLine else c
  if atLineEnd c.rest then
    let fixed := header.depth.map fun depth => column.getD 0 + depth
    let (empty, reached, c) ← readBreaks fixed c.skipBreak
    let least := match column with | some n => n + 1 | none => 1
    let indent := fixed.getD (max reached least)
    let lines ← readLines folded indent none empty false c
    match header.chomping with
    | .strip => some (lines.text, lines.place)
    | .clip => some (lines.text ++ lines.ending.toList, lines.place)
    | .keep => some (lines.text ++ lines.ending.toList ++ lines.empty, lines.place)
  else none

end ShapeCheck.Yaml
