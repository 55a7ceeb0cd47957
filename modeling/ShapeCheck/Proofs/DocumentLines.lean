import ShapeCheck.Input.Reader
import ShapeCheck.Proofs.Encoding
import ShapeCheck.Proofs.JsonDocuments
import ShapeCheck.Proofs.WrittenNumbers

/-!
# One document a line, or all in one list

Documents that stand on a line each are read as the list of them is.

* `exists_core` — a document is a document with visible ends, and space around it;
* `readLines_onePerLine` — the lines of documents, with blank ones between them, are read one by
  one;
* `readValues_onePerLine` — and so are the items of the list of these documents.
-/

set_option autoImplicit false

namespace ShapeCheck.Json

open Input Text

/-! ## Space around a document -/

theorem isBlank_of_isSpace {c : Char} (h : isSpace (.char c) = true) : isBlank c = true := by
  simp only [isSpace, Bool.or_eq_true, decide_eq_true_eq, Symbol.char.injEq] at h
  rcases h with ((rfl | rfl) | rfl) | rfl <;> rfl

theorem isBlank_of_isNumeral {c : Char} (h : isNumeral (.char c) = true) : isBlank c = false := by
  simp only [isNumeral, continues, Bool.or_eq_true, decide_eq_true_eq, Symbol.char.injEq] at h
  rcases h with ((((h | rfl) | rfl) | rfl) | rfl) | rfl
  · have hdigit : c.isDigit = true := by
      by_contra hc
      rw [isDigit, digit?, if_neg hc] at h
      cases h
    exact Directive.isBlank_of_isWordChar (Decimal.isWordChar_of_isDigit hdigit)
  all_goals rfl

theorem visibleEnds_of_numerals {text : List Char} (h : ∀ c ∈ text, isNumeral (.char c) = true) :
    VisibleEnds text where
  head c hc := isBlank_of_isNumeral (h c (List.mem_of_head? hc))
  last c hc := isBlank_of_isNumeral (h c (List.mem_of_getLast? hc))

theorem visibleEnds_between {opening closing : Char} (hopening : isBlank opening = false)
    (hclosing : isBlank closing = false) (inside : List Char) :
    VisibleEnds (opening :: inside ++ [closing]) := by
  refine ⟨fun c hc => ?_, fun c hc => ?_⟩
  · rwa [← Option.some_inj.mp hc]
  · rw [List.getLast?_concat] at hc
    rwa [← Option.some_inj.mp hc]

theorem numerals_of_readNumber {negative : Bool} {text : List Char} {x : Float}
    (h : readNumber negative (ofChars text) = .ok (x, [])) :
    text ≠ [] ∧ ∀ c ∈ text, isNumeral (.char c) = true := by
  refine ⟨?_, fun c hc => ?_⟩
  · rintro rfl
    cases h
  obtain ⟨token, htoken, hnumerals, -⟩ := takes_readNumber h
  rw [List.append_nil] at htoken
  refine hnumerals _ ?_
  rw [← htoken]
  exact List.mem_map_of_mem hc

/-- A document without space around it. -/
structure Core (depth : Nat) (text : List Char) (v : Value) : Prop where
  document : Document depth text v
  visible : VisibleEnds text
  nonempty : text ≠ []

/-- A document is a document with visible ends, and space around it. -/
theorem exists_core {depth : Nat} {text : List Char} {v : Value} (h : Document depth text v) :
    ∃ front core behind, IsSpace front ∧ IsSpace behind ∧ text = front ++ core ++ behind ∧
      Core depth core v := by
  have hself : ∀ {d : Nat} {t : List Char} {w : Value}, Core d t w →
      ∃ front core behind, IsSpace front ∧ IsSpace behind ∧ t = front ++ core ++ behind ∧
        Core d core w :=
    fun {d t w} h => ⟨[], t, [], isSpace_nil, isSpace_nil, (List.append_nil t).symm, h⟩
  induction h with
  | null => exact hself ⟨.null, .of_all (by decide) (by decide), by decide⟩
  | flag flag =>
    cases flag with
    | false => exact hself ⟨.flag false, .of_all (by decide) (by decide), by decide⟩
    | true => exact hself ⟨.flag true, .of_all (by decide) (by decide), by decide⟩
  | number h =>
    obtain ⟨hne, hnumerals⟩ := numerals_of_readNumber h
    exact hself ⟨.number h, visibleEnds_of_numerals hnumerals, hne⟩
  | negative h =>
    obtain ⟨-, hnumerals⟩ := numerals_of_readNumber h
    exact hself ⟨.negative h, visibleEnds_of_numerals (List.forall_mem_cons.mpr ⟨rfl, hnumerals⟩),
      List.cons_ne_nil _ _⟩
  | string h => exact hself ⟨.string h, visibleEnds_between rfl rfl _, List.cons_ne_nil _ _⟩
  | noItems h => exact hself ⟨.noItems h, visibleEnds_between rfl rfl _, List.cons_ne_nil _ _⟩
  | items hne h _ =>
    exact hself ⟨.items hne h, visibleEnds_between rfl rfl _, List.cons_ne_nil _ _⟩
  | noMembers h => exact hself ⟨.noMembers h, visibleEnds_between rfl rfl _, List.cons_ne_nil _ _⟩
  | members hne h _ =>
    exact hself ⟨.members hne h, visibleEnds_between rfl rfl _, List.cons_ne_nil _ _⟩
  | @padded _ front text behind v hfront _ hbehind ih =>
    obtain ⟨inner, core, outer, hinner, houter, rfl, hcore⟩ := ih
    refine ⟨front ++ inner, core, outer ++ behind, ?_, ?_, ?_, hcore⟩
    · exact List.forall_mem_append.mpr ⟨hfront, hinner⟩
    · exact List.forall_mem_append.mpr ⟨houter, hbehind⟩
    · simp only [List.append_assoc]

theorem Document.core_trim {depth : Nat} {text : List Char} {v : Value}
    (h : Document depth text v) : Core depth (trim text) v := by
  obtain ⟨front, core, behind, hfront, hbehind, rfl, hcore⟩ := exists_core h
  have htrim : trim (front ++ core ++ behind) = core := by
    rw [trim_append_blanks fun c hc => isBlank_of_isSpace (hbehind c hc),
      trim_blanks_append fun c hc => isBlank_of_isSpace (hfront c hc), trim_eq_self hcore.visible]
  rwa [htrim]

/-! ## Lines -/

/-- A document without line feeds that leaves a level of nesting for a list around it. -/
structure LineDocument where
  text : List Char
  value : Value
  document : Document 126 text value
  oneLine : '\n' ∉ text

/-- The ways to end a line. -/
inductive LineEnd : List Char → Prop
  | lf : LineEnd ['\n']
  | crlf : LineEnd ['\r', '\n']

/-- A text of blanks that is no more than one line. -/
structure BlankLine (text : List Char) : Prop where
  blank : ∀ c ∈ text, isBlank c = true
  oneLine : '\n' ∉ text

theorem BlankLine.of_char {c : Char} (hblank : isBlank c = true) (hne : c ≠ '\n') :
    BlankLine [c] where
  blank := List.forall_mem_singleton.mpr hblank
  oneLine := mt List.mem_singleton.mp hne.symm

theorem BlankLine.append {p q : List Char} (hp : BlankLine p) (hq : BlankLine q) :
    BlankLine (p ++ q) where
  blank := List.forall_mem_append.mpr ⟨hp.blank, hq.blank⟩
  oneLine := by
    rw [List.mem_append, not_or]
    exact ⟨hp.oneLine, hq.oneLine⟩

/-- Input holds documents on a line each, in this order, with any blank lines before, between and
behind them. The last line needs no end. -/
inductive OnePerLine : List LineDocument → List Char → Prop
  | lastBlank {line : List Char} (hline : BlankLine line) : OnePerLine [] line
  | lastDocument (d : LineDocument) : OnePerLine [d] d.text
  | blank {line ending rest : List Char} {documents : List LineDocument} (hline : BlankLine line)
      (hending : LineEnd ending) (h : OnePerLine documents rest) :
      OnePerLine documents (line ++ ending ++ rest)
  | document (d : LineDocument) {ending rest : List Char} {documents : List LineDocument}
      (hending : LineEnd ending) (h : OnePerLine documents rest) :
      OnePerLine (d :: documents) (d.text ++ ending ++ rest)

/-- What ends a line is a line feed and a blank line in front of it. -/
theorem LineEnd.exists_blankLine {ending : List Char} (h : LineEnd ending) :
    ∃ back, BlankLine back ∧ ending = back ++ ['\n'] := by
  cases h with
  | lf => exact ⟨[], ⟨nofun, List.not_mem_nil⟩, rfl⟩
  | crlf => exact ⟨['\r'], .of_char rfl (by decide), rfl⟩

theorem not_mem_ofChars {line : List Char} (h : '\n' ∉ line) : Symbol.char '\n' ∉ ofChars line :=
  fun hmem => by
    obtain ⟨c, hc, hchar⟩ := List.mem_map.mp hmem
    cases hchar
    exact h hc

theorem splitOn_line {line : List Char} (h : '\n' ∉ line) (rest : List Char) :
    (ofChars (line ++ ['\n'] ++ rest)).splitOn (.char '\n') =
      ofChars line :: (ofChars rest).splitOn (.char '\n') := by
  have hline : ∀ s ∈ ofChars line, (s == Symbol.char '\n') = false := fun s hs => by
    rw [beq_eq_false_iff_ne]
    rintro rfl
    exact not_mem_ofChars h hs
  rw [ofChars_append, ofChars_append, List.append_assoc, List.splitOn, List.splitOn]
  exact List.splitOnP_append_cons_of_forall_mem hline _ (beq_self_eq_true _) _

theorem readLines_blank {line : List Char} (h : ∀ c ∈ line, isBlank c = true) (number : Nat)
    (rest : List (List Symbol)) :
    readLines number (ofChars line :: rest) = readLines (number + 1) rest := by
  have htrim : trim line = [] := by
    have hblanks := trim_append_blanks h []
    rwa [List.nil_append] at hblanks
  rw [readLines, chars?_ofChars]
  dsimp only
  rw [htrim]
  rfl

theorem readLines_document (d : LineDocument) {back : List Char}
    (hback : ∀ c ∈ back, isBlank c = true) (number : Nat) (rest : List (List Symbol)) :
    readLines number (ofChars (d.text ++ back) :: rest) =
      (readLines (number + 1) rest).map (d.value :: ·) := by
  obtain ⟨hdocument, -, hnonempty⟩ := d.document.core_trim
  have hread : read (ofChars (trim d.text)) = .ok d.value :=
    read_ofChars_eq_ok_iff.mpr (hdocument.mono (by decide))
  rw [readLines, chars?_ofChars]
  dsimp only
  rw [trim_append_blanks hback, if_neg (mt List.isEmpty_iff.mp hnonempty), readDocument, hread]
  rfl

/-- The lines of documents, with blank ones between them, are read one by one. -/
theorem readLines_onePerLine {documents : List LineDocument} {input : List Char}
    (h : OnePerLine documents input) : ∀ number : Nat,
    readLines number ((ofChars input).splitOn (.char '\n')) =
      .ok (documents.map LineDocument.value) := by
  induction h with
  | lastBlank hline =>
    intro number
    rw [List.splitOn_eq_singleton (not_mem_ofChars hline.oneLine), readLines_blank hline.blank]
    rfl
  | lastDocument d =>
    intro number
    have hread := readLines_document d (List.forall_mem_nil _) number []
    rw [List.append_nil] at hread
    rw [List.splitOn_eq_singleton (not_mem_ofChars d.oneLine), hread]
    rfl
  | @blank line ending rest documents hline hending _ ih =>
    intro number
    obtain ⟨back, hback, rfl⟩ := hending.exists_blankLine
    have hwhole : BlankLine (line ++ back) := hline.append hback
    rw [← List.append_assoc, splitOn_line hwhole.oneLine, readLines_blank hwhole.blank, ih]
  | @document d ending rest documents hending _ ih =>
    intro number
    obtain ⟨back, hback, rfl⟩ := hending.exists_blankLine
    have hline : '\n' ∉ d.text ++ back := by
      rw [List.mem_append, not_or]
      exact ⟨d.oneLine, hback.oneLine⟩
    rw [← List.append_assoc, splitOn_line hline, readLines_document d hback.blank, ih]
    rfl

/-! ## Lines and lists -/

/-- Documents joined by commas between brackets are a document for the list of their values. -/
theorem document_list (documents : List LineDocument) :
    Document 127 (enclose '[' ']' (documents.map LineDocument.text))
      (.array (documents.map LineDocument.value)) := by
  cases documents with
  | nil => exact .noItems isSpace_nil
  | cons d documents =>
    have hitems : ∀ i ∈ (d :: documents).map fun d => (d.text, d.value),
        Document 126 i.1 i.2 := fun i hi => by
      obtain ⟨d, -, rfl⟩ := List.mem_map.mp hi
      exact d.document
    have hne : (d :: documents).map (fun d => (d.text, d.value)) ≠ [] := List.cons_ne_nil _ _
    have hlist := Document.items hne hitems
    rwa [List.map_map, List.map_map] at hlist

/-- Documents on a line each are read as the values they are for, in order, and so are the items of
the list of these documents. -/
theorem readValues_onePerLine {documents : List LineDocument} {input : List Char}
    (h : OnePerLine documents input) :
    readValues .jsonl (encode input) = .ok (documents.map LineDocument.value) ∧
      readValues .json (encode (enclose '[' ']' (documents.map LineDocument.text))) =
        .ok (documents.map LineDocument.value) := by
  refine ⟨?_, ?_⟩
  · rw [readValues, decode_encode]
    exact readLines_onePerLine h 1
  · rw [readValues, decode_encode, readDocument, read_ofChars_eq_ok_iff.mpr (document_list _)]
    rfl

/-- A list on one line. -/
def listLine : LineDocument where
  text := "[true,null]".toList
  value := .array [.bool true, .null]
  document := @Document.items 125 [("true".toList, .bool true), ("null".toList, .null)]
    (List.cons_ne_nil _ _) (by
      rintro i (_ | ⟨_, _ | ⟨_, ⟨⟩⟩⟩)
      · exact .flag true
      · exact .null)
  oneLine := by decide

/-- A number on one line. -/
def numberLine : LineDocument where
  text := "2".toList
  value := .number 2
  document := .number (by decide +kernel)
  oneLine := by decide

/-- Blank lines do not count, and the list stays one value. -/
theorem readValues_onePerLine_blanks :
    OnePerLine [listLine, numberLine] "\u00a0\n[true,null]\r\n\t\n2".toList ∧
      readValues .jsonl (encode "\u00a0\n[true,null]\r\n\t\n2".toList) =
        .ok [.array [.bool true, .null], .number 2] ∧
      readValues .json (encode "[[true,null],2]".toList) =
        .ok [.array [.bool true, .null], .number 2] := by
  have hlast : OnePerLine [numberLine] "2".toList := .lastDocument numberLine
  have hgap : OnePerLine [numberLine] "\t\n2".toList :=
    OnePerLine.blank (.of_char (c := '\t') rfl (by decide)) .lf hlast
  have hlines : OnePerLine [listLine, numberLine] "[true,null]\r\n\t\n2".toList :=
    OnePerLine.document listLine .crlf hgap
  have hinput : OnePerLine [listLine, numberLine] "\u00a0\n[true,null]\r\n\t\n2".toList :=
    OnePerLine.blank (.of_char (c := '\u00a0') rfl (by decide)) .lf hlines
  exact ⟨hinput, readValues_onePerLine hinput⟩

end ShapeCheck.Json
