import ShapeCheck.Input.Reader
import ShapeCheck.Proofs.EncodedLines
import ShapeCheck.Proofs.Trimming

/-!
# The first bad line

Input with one document a line is read line by line, up to the first line that is neither blank nor
a document.

* `byteLines` — the lines of bytes; `byteLines_append` — what stands behind a line feed makes lines
  of its own;
* `Holds`, `Offends` — what a line holds, or why it makes reading fail: every line does one of both
  (`holds_or_offends`);
* `readLines_of_holds`, `readLines_of_offends` — one line;
* `readLines_eq_ok_iff`, `readLines_eq_error_iff` — all lines;
* `first_bad_line_reported` — what follows for reading bytes.
-/

set_option autoImplicit false

namespace ShapeCheck.Json

open Input Text

/-! ## Lines -/

/-- A line without the carriage return at its end. -/
def dropReturn (line : List UInt8) : List UInt8 :=
  if line.getLast? = some 13 then line.dropLast else line

/-- The lines that parts between line feeds make.  A carriage return in front of a line feed belongs
to the end of the line, and behind the last line feed is a line only if something stands there. -/
def linesOfParts : List (List UInt8) → List (List UInt8)
  | [] => []
  | [last] => if last.isEmpty then [] else [last]
  | line :: part :: parts => dropReturn line :: linesOfParts (part :: parts)

/-- The lines of bytes. -/
def byteLines (bytes : List UInt8) : List (List UInt8) := linesOfParts (bytes.splitOn 10)

theorem linesOfParts_cons (line : List UInt8) {parts : List (List UInt8)} (h : parts ≠ []) :
    linesOfParts (line :: parts) = dropReturn line :: linesOfParts parts := by
  cases parts with
  | nil => exact absurd rfl h
  | cons part parts => rfl

theorem linesOfParts_append (front : List (List UInt8)) {back : List (List UInt8)}
    (h : back ≠ []) : linesOfParts (front ++ back) = front.map dropReturn ++ linesOfParts back := by
  induction front with
  | nil => rfl
  | cons line front ih =>
    rw [List.cons_append, linesOfParts_cons line (List.append_ne_nil_of_right_ne_nil front h), ih]
    rfl

/-- **What stands behind a line feed makes lines of its own.** -/
theorem byteLines_append (front back : List UInt8) :
    byteLines (front ++ 10 :: back) = byteLines (front ++ [10]) ++ byteLines back := by
  have hsplit : ∀ rest : List UInt8, byteLines (front ++ 10 :: rest) =
      (front.splitOn 10).map dropReturn ++ byteLines rest := fun rest => by
    rw [byteLines, List.splitOn_append_cons_self, linesOfParts_append _ (List.splitOn_ne_nil _ _),
      byteLines]
  have hnothing : byteLines [] = [] := rfl
  rw [hsplit, hsplit, hnothing, List.append_nil]

example : byteLines (encode "a\r\n\r\r\n\nb\r".toList) =
    [encode "a".toList, encode "\r".toList, [], encode "b\r".toList] := by decide

/-! ## The ends of lines do not matter -/

theorem chars?_concat (symbols : List Symbol) (c : Char) :
    chars? (symbols ++ [.char c]) = (chars? symbols).map (· ++ [c]) := by
  induction symbols with
  | nil => rfl
  | cons s symbols ih =>
    cases s with
    | stray b => rfl
    | char c' =>
      rw [List.cons_append, chars?, ih, chars?]
      cases chars? symbols <;> rfl

theorem readLines_cons (number : Nat) (line : List Symbol) (rest : List (List Symbol)) :
    readLines number (line :: rest) =
      match (chars? line).map trim with
      | none => .error .notText
      | some text =>
        if text.isEmpty then readLines (number + 1) rest
        else
          match readDocument .line (ofChars text) with
          | .error fault => .error (.line number fault)
          | .ok value => (readLines (number + 1) rest).map (value :: ·) := by
  rw [readLines]
  cases chars? line <;> rfl

theorem trim_dropReturn (line : List UInt8) :
    (chars? (decode (dropReturn line))).map trim = (chars? (decode line)).map trim := by
  unfold dropReturn
  split
  · rename_i hlast
    obtain ⟨front, rfl⟩ := List.getLast?_eq_some_iff.mp hlast
    have hdecode : decode (front ++ [13]) = decode front ++ [.char '\r'] := by
      have hascii := decode_ascii (b := 13) (by decide) front []
      rwa [decode_nil] at hascii
    have hreturn : ∀ c ∈ ['\r'], isBlank c = true := List.forall_mem_singleton.mpr rfl
    rw [List.dropLast_concat, hdecode, chars?_concat, Option.map_map]
    cases chars? (decode front) with
    | none => rfl
    | some text => simp [trim_append_blanks hreturn]
  · rfl

/-- Neither carriage returns at the ends of lines nor an empty last part change what is read. -/
theorem readLines_linesOfParts (parts : List (List UInt8)) (number : Nat) :
    readLines number (parts.map decode) = readLines number ((linesOfParts parts).map decode) := by
  induction parts generalizing number with
  | nil => rfl
  | cons line parts ih =>
    rcases eq_or_ne parts [] with rfl | hne
    · cases line with
      | nil =>
        rw [List.map_singleton, decode_nil]
        rfl
      | cons b line => rfl
    · rw [linesOfParts_cons line hne, List.map_cons, List.map_cons, readLines_cons, readLines_cons,
        trim_dropReturn, ih]

/-! ## One line -/

/-- What a line holds: nothing if it is the text of blanks, else the value of the document that its
trimmed text is. -/
inductive Holds (line : List UInt8) : List Value → Prop
  | blank {text : List Char} (hline : encode text = line) (hblank : trim text = []) : Holds line []
  | document {text : List Char} {v : Value} (hline : encode text = line)
      (hvisible : trim text ≠ []) (h : readDocument .line (ofChars (trim text)) = .ok v) :
      Holds line [v]

/-- Why a line of some number makes reading fail: it is no text, or its trimmed text is neither
empty nor a document. -/
inductive Offends (line : List UInt8) (number : Nat) : InputError → Prop
  | notText (h : ∀ text, encode text ≠ line) : Offends line number .notText
  | noDocument {text : List Char} {fault : Fault} (hline : encode text = line)
      (hvisible : trim text ≠ []) (h : readDocument .line (ofChars (trim text)) = .error fault) :
      Offends line number (.line number fault)

theorem holds_or_offends (line : List UInt8) (number : Nat) :
    (∃ values, Holds line values) ∨ ∃ e, Offends line number e := by
  by_cases htext : ∃ text, encode text = line
  · obtain ⟨text, hline⟩ := htext
    by_cases hblank : trim text = []
    · exact Or.inl ⟨[], .blank hline hblank⟩
    · cases hread : readDocument .line (ofChars (trim text)) with
      | ok v => exact Or.inl ⟨[v], .document hline hblank hread⟩
      | error fault => exact Or.inr ⟨_, .noDocument hline hblank hread⟩
  · exact Or.inr ⟨_, .notText (not_exists.mp htext)⟩

section

variable {line : List UInt8} {number : Nat} (rest : List (List Symbol))

/-- **A line that holds something is followed by the next one.** -/
theorem readLines_of_holds {values : List Value} (h : Holds line values) :
    readLines number (decode line :: rest) =
      (readLines (number + 1) rest).map (values ++ ·) := by
  cases h with
  | blank hline hblank =>
    rw [readLines_cons, chars?_decode_iff.mpr hline, Option.map_some, hblank]
    dsimp only
    cases readLines (number + 1) rest <;> rfl
  | document hline hvisible h =>
    rw [readLines_cons, chars?_decode_iff.mpr hline, Option.map_some]
    dsimp only
    rw [if_neg (mt List.isEmpty_iff.mp hvisible), h]
    rfl

/-- **A line that offends ends reading**, whatever lines follow. -/
theorem readLines_of_offends {e : InputError} (h : Offends line number e) :
    readLines number (decode line :: rest) = .error e := by
  cases h with
  | notText h =>
    have hnone : chars? (decode line) = none := by
      rw [Option.eq_none_iff_forall_ne_some]
      exact fun text htext => h text (chars?_decode_iff.mp htext)
    rw [readLines_cons, hnone]
    rfl
  | noDocument hline hvisible h =>
    rw [readLines_cons, chars?_decode_iff.mpr hline, Option.map_some]
    dsimp only
    rw [if_neg (mt List.isEmpty_iff.mp hvisible), h]

end

/-! ## All lines -/

/-- **Reading succeeds iff every line holds something**, and gives what the lines hold in order. -/
theorem readLines_eq_ok_iff {lines : List (List UInt8)} {number : Nat} {values : List Value} :
    readLines number (lines.map decode) = .ok values ↔
      ∃ held, List.Forall₂ Holds lines held ∧ values = held.flatten := by
  constructor
  · intro h
    induction lines generalizing number values with
    | nil =>
      cases h
      exact ⟨[], .nil, rfl⟩
    | cons line lines ih =>
      rw [List.map_cons] at h
      rcases holds_or_offends line number with ⟨first, hfirst⟩ | ⟨e, hoffends⟩
      · rw [readLines_of_holds _ hfirst] at h
        cases hrest : readLines (number + 1) (lines.map decode) with
        | error e =>
          rw [hrest] at h
          cases h
        | ok others =>
          rw [hrest] at h
          cases h
          obtain ⟨held, hheld, rfl⟩ := ih hrest
          exact ⟨first :: held, .cons hfirst hheld, rfl⟩
      · rw [readLines_of_offends _ hoffends] at h
        cases h
  · rintro ⟨held, hheld, rfl⟩
    induction hheld generalizing number with
    | nil => rfl
    | cons hfirst _ ih =>
      rw [List.map_cons, readLines_of_holds _ hfirst, ih]
      rfl

/-- **Reading fails iff some line offends**, and because of the first one that does. -/
theorem readLines_eq_error_iff {lines : List (List UInt8)} {number : Nat} {e : InputError} :
    readLines number (lines.map decode) = .error e ↔
      ∃ before line after, lines = before ++ line :: after ∧
        (∀ l ∈ before, ∃ values, Holds l values) ∧ Offends line (number + before.length) e := by
  constructor
  · intro h
    induction lines generalizing number with
    | nil => cases h
    | cons line lines ih =>
      rw [List.map_cons] at h
      -- the first line that offends is this one, or else the first one of those behind it
      rcases holds_or_offends line number with ⟨first, hfirst⟩ | ⟨e', hoffends⟩
      · rw [readLines_of_holds _ hfirst] at h
        cases hrest : readLines (number + 1) (lines.map decode) with
        | ok others =>
          rw [hrest] at h
          cases h
        | error e' =>
          rw [hrest] at h
          cases h
          obtain ⟨before, bad, after, rfl, hbefore, hbad⟩ := ih hrest
          refine ⟨line :: before, bad, after, rfl, ?_, ?_⟩
          · exact List.forall_mem_cons.mpr ⟨⟨first, hfirst⟩, hbefore⟩
          · rwa [List.length_cons, ← Nat.add_assoc, Nat.add_right_comm]
      · rw [readLines_of_offends _ hoffends] at h
        cases h
        exact ⟨[], line, lines, rfl, List.forall_mem_nil _, hoffends⟩
  · rintro ⟨before, line, after, rfl, hbefore, hoffends⟩
    induction before generalizing number with
    | nil => exact readLines_of_offends _ hoffends
    | cons first before ih =>
      obtain ⟨⟨values, hfirst⟩, hbefore⟩ := List.forall_mem_cons.mp hbefore
      rw [List.length_cons, ← Nat.add_assoc, Nat.add_right_comm] at hoffends
      rw [List.cons_append, List.map_cons, readLines_of_holds _ hfirst, ih hbefore hoffends]
      rfl

theorem readValues_jsonl (bytes : List UInt8) :
    readValues .jsonl bytes = readLines 1 ((byteLines bytes).map decode) := by
  rw [readValues, readDocuments, splitOn_decode, readLines_linesOfParts, byteLines]

theorem Offends.kind_eq {line : List UInt8} {number : Nat} {e : InputError}
    (h : Offends line number e) :
    (∀ text, encode text ≠ line) ∧ e.kind = "io" ∨
      (∃ text, encode text = line) ∧ e.kind = "jsonl_line" ∧ ∃ fault, e = .line number fault := by
  cases h with
  | notText h => exact Or.inl ⟨h, rfl⟩
  | noDocument hline => exact Or.inr ⟨⟨_, hline⟩, rfl, _, rfl⟩

/-- **The first bad line is reported, and no other one.**  Bytes are cut into lines at line feeds,
and a carriage return in front of one belongs to the end of the line.  They are read as JSON Lines
iff every line is the UTF-8 text of blanks or, with blanks around it, of a document, and then as the
values of these documents in the order of the lines.  Otherwise the first line that is neither makes
the error: one of input if it is no UTF-8 text, else one with the number of the line, where blank
lines count.  What stands behind the line feed at its end changes nothing. -/
theorem first_bad_line_reported :
    (∀ (bytes : List UInt8) (values : List Value), readValues .jsonl bytes = .ok values ↔
      ∃ held, List.Forall₂ Holds (byteLines bytes) held ∧ values = held.flatten) ∧
    (∀ (bytes : List UInt8) (e : InputError), readValues .jsonl bytes = .error e ↔
      ∃ before line after, byteLines bytes = before ++ line :: after ∧
        (∀ l ∈ before, ∃ values, Holds l values) ∧ Offends line (before.length + 1) e) ∧
    (∀ {line : List UInt8} {number : Nat} {e : InputError}, Offends line number e →
      (∀ text, encode text ≠ line) ∧ e.kind = "io" ∨
        (∃ text, encode text = line) ∧ e.kind = "jsonl_line" ∧
          ∃ fault, e = .line number fault) ∧
    ∀ {front : List UInt8} {e : InputError}, readValues .jsonl (front ++ [10]) = .error e →
      ∀ back, readValues .jsonl (front ++ 10 :: back) = .error e := by
  have herror : ∀ (bytes : List UInt8) (e : InputError), readValues .jsonl bytes = .error e ↔
      ∃ before line after, byteLines bytes = before ++ line :: after ∧
        (∀ l ∈ before, ∃ values, Holds l values) ∧ Offends line (before.length + 1) e := by
    intro bytes e
    rw [readValues_jsonl, readLines_eq_error_iff]
    simp only [Nat.add_comm 1]
  refine ⟨fun bytes values => ?_, herror, Offends.kind_eq, fun h back => ?_⟩
  · rw [readValues_jsonl, readLines_eq_ok_iff]
  · obtain ⟨before, line, after, hlines, hbefore, hoffends⟩ := (herror _ _).mp h
    refine (herror _ _).mpr ⟨before, line, after ++ byteLines back, ?_, hbefore, hoffends⟩
    rw [byteLines_append, hlines, List.append_assoc, List.cons_append]

/-- A document, a blank line that is no ASCII, and on the third line text that is no document;
behind it there are bytes that are no text. -/
theorem first_bad_line_reported_third :
    let front := encode "null\r\n\u00a0\nnul".toList
    let e : InputError := .line 3 ⟨.endInValue, ⟨1, 3⟩⟩
    Offends (encode "nul".toList) 3 e ∧ readValues .jsonl (front ++ [10]) = .error e ∧
      readValues .jsonl (front ++ 10 :: [0xFF, 10]) = .error e ∧
      e.message = "jsonl line 3: EOF while parsing a value at line 1 column 3" := by
  intro front e
  obtain ⟨-, herror, -, hbehind⟩ := first_bad_line_reported
  have hlines : byteLines (front ++ [10]) =
      [encode "null".toList, encode ['\u00a0']] ++ encode "nul".toList :: [] := by decide +kernel
  have hbefore : ∀ l ∈ [encode "null".toList, encode ['\u00a0']], ∃ values, Holds l values := by
    rintro l (_ | ⟨_, _ | ⟨_, ⟨⟩⟩⟩)
    · exact ⟨[.null], .document rfl (by decide) rfl⟩
    · exact ⟨[], .blank rfl (by decide)⟩
  have hoffends : Offends (encode "nul".toList) 3 e :=
    .noDocument rfl (by decide) (by with_unfolding_all rfl)
  have hfails : readValues .jsonl (front ++ [10]) = .error e :=
    (herror _ e).mpr ⟨_, _, _, hlines, hbefore, hoffends⟩
  exact ⟨hoffends, hfails, hbehind hfails _, by decide +kernel⟩

end ShapeCheck.Json
