import ShapeCheck.Check.Checker
import ShapeCheck.Proofs.Notes

/-!
# Parentheses that are never closed

The scanners of blocks count the parentheses that are open; they do not look ahead for the ones that
close them.  So there are two kinds of commas that do not end a directive: `Enclosed` ones stand
between an opening parenthesis and the closing one that matches it, and `BehindUnclosed` ones behind
an opening parenthesis that nothing matches.

* `neverCloses_iff` — nothing matches an opening parenthesis iff no beginning of the text behind it
  closes more than it opens;
* `depthAfter_pos_iff`, `depthAfter_pos_iff_enclosed` — what is open behind a text: a parenthesis
  that the text does not close, and that the rest of a block closes or not;
* `endsPart_iff` — a comma ends a part of a text iff nothing is open before it;
* `tokenize_neverCloses`, `tokenize_unclosed_note` — all that follows an unclosed parenthesis is one
  directive;
* `comma_ends_directive_iff` — which commas end a directive.
-/

set_option autoImplicit false

namespace ShapeCheck

open Directive Text

/-! ## Matching parentheses -/

/-- A parenthesis that opens before a text is not closed in it: whatever stands before a closing one
is not matched. -/
def NeverCloses (text : List Char) : Prop :=
  ∀ inside after, text = inside ++ ')' :: after → ¬ Matched inside

/-- The comma between two texts stands between an opening parenthesis and the closing one that
matches it. -/
def Enclosed (front back : List Char) : Prop :=
  ∃ before inside behind after, front = before ++ '(' :: inside ∧
    back = behind ++ ')' :: after ∧ Matched (inside ++ ',' :: behind)

/-- The comma between two texts stands behind an opening parenthesis that nothing closes. -/
def BehindUnclosed (front back : List Char) : Prop :=
  ∃ before inside, front = before ++ '(' :: inside ∧ NeverCloses (inside ++ ',' :: back)

/-- One more character closes no more than is open, if it closes nothing or something is open. -/
theorem opened_concat {p : List Char} {c : Char}
    (h : ∀ q, q <+: p → q.count ')' ≤ q.count '(')
    (hc : c = ')' → p.count ')' < p.count '(') (q : List Char) (hq : q <+: p ++ [c]) :
    q.count ')' ≤ q.count '(' := by
  rcases List.prefix_concat_iff.mp hq with rfl | hq
  · have hp := h p (List.prefix_refl p)
    rw [List.count_append, List.count_append, List.count_singleton, List.count_singleton]
    by_cases hclose : c = ')'
    · have hlt := hc hclose
      simp [hclose]
      omega
    · simp [hclose]
      omega
  · exact h q hq

/-- **Nothing closes a parenthesis before a text** iff no beginning of the text closes more than it
opens. -/
theorem neverCloses_iff {p : List Char} :
    NeverCloses p ↔ ∀ q, q <+: p → q.count ')' ≤ q.count '(' := by
  constructor
  · intro h
    induction p using List.reverseRecOn with
    | nil =>
      intro q hq
      rw [List.prefix_nil.mp hq]
      rfl
    | append_singleton p c ih =>
      have hp := ih fun inside after hinside hmatched =>
        h inside (after ++ [c]) (by rw [hinside]; simp) hmatched
      refine opened_concat hp fun hclose => ?_
      have hunmatched := h p [] (by rw [hclose])
      have hle := hp p (List.prefix_refl p)
      exact Nat.lt_of_le_of_ne hle fun heq => hunmatched ⟨heq, hp⟩
  · rintro h inside after rfl hmatched
    have hclosed := h (inside ++ [')']) ⟨after, by simp⟩
    have hone : [')'].count ')' = 1 := rfl
    have hzero : [')'].count '(' = 0 := rfl
    rw [List.count_append, List.count_append, hmatched.closed] at hclosed
    omega

/-! ## What is open behind a text -/

/-- **The last parenthesis that opened a depth** which a text still has at its end: the text does
not close it. -/
theorem exists_open_of_lt_depthAfter {text : List Char} : ∀ {depth : Nat},
    depth < depthAfter 0 text → ∃ before inside, text = before ++ '(' :: inside ∧
      depthAfter 0 before = depth ∧ ∀ q, q <+: inside → q.count ')' ≤ q.count '(' := by
  induction text using List.reverseRecOn with
  | nil => exact fun h => absurd h (Nat.not_lt_zero _)
  | append_singleton text c ih =>
    intro depth h
    have hdepth : depthAfter 0 (text ++ [c]) = deepen (depthAfter 0 text) c := by
      rw [depthAfter_append, depthAfter_cons, depthAfter_nil]
    rw [hdepth] at h
    by_cases hlast : c = '(' ∧ depthAfter 0 text = depth
    · obtain ⟨rfl, hbefore⟩ := hlast
      refine ⟨text, [], rfl, hbefore, fun q hq => ?_⟩
      rw [List.prefix_nil.mp hq]
      rfl
    · -- the parenthesis stands further to the front, and `c` does not close it
      have hkept : depth < depthAfter 0 text ∧ (c = ')' → depth + 1 < depthAfter 0 text) := by
        rw [deepen] at h
        split at h
        · rename_i hopen
          have hne : depthAfter 0 text ≠ depth := fun heq => hlast ⟨hopen, heq⟩
          refine ⟨by omega, fun hclose => ?_⟩
          rw [hopen] at hclose
          exact absurd hclose (by decide)
        · split at h
          · omega
          · exact ⟨h, fun hclose => absurd hclose ‹_›⟩
      obtain ⟨before, inside, rfl, hbefore, hopened⟩ := ih hkept.1
      refine ⟨before, inside ++ [c], by simp, hbefore, opened_concat hopened fun hclose => ?_⟩
      have hcount : depthAfter (depth + 1) inside + inside.count ')' =
          depth + 1 + inside.count '(' :=
        depthAfter_add_count fun q hq => Nat.le_add_left_of_le (hopened q hq)
      have hinside : depthAfter 0 (before ++ '(' :: inside) = depthAfter (depth + 1) inside := by
        rw [depthAfter_append, hbefore, depthAfter_cons]
        rfl
      have hdeeper := hkept.2 hclose
      omega

/-- Behind an opening parenthesis that nothing closes, the depth stays positive. -/
theorem NeverCloses.depthAfter_pos {text q : List Char} (h : NeverCloses text) (hq : q <+: text)
    (depth : Nat) : depth < depthAfter (depth + 1) q := by
  have hopened := neverCloses_iff.mp h
  have hcount : depthAfter (depth + 1) q + q.count ')' = depth + 1 + q.count '(' :=
    depthAfter_add_count fun q' hq' => Nat.le_add_left_of_le (hopened q' (hq'.trans hq))
  have hle := hopened q hq
  omega

theorem NeverCloses.uncut {text : List Char} (h : NeverCloses text) (mark : Char) (depth : Nat) :
    Uncut mark (depth + 1) text :=
  uncut_of_prefixes fun _ hq =>
    Nat.zero_lt_of_lt (h.depthAfter_pos ((List.prefix_append _ [mark]).trans hq) depth)

theorem NeverCloses.prefix {p q : List Char} (h : NeverCloses (p ++ q)) : NeverCloses p :=
  neverCloses_iff.mpr fun q' hq' =>
    neverCloses_iff.mp h q' (hq'.trans (List.prefix_append p q))

/-- **A parenthesis is open behind a text** iff the text has one that it does not close. -/
theorem depthAfter_pos_iff {text : List Char} : 0 < depthAfter 0 text ↔
    ∃ before inside, text = before ++ '(' :: inside ∧ NeverCloses inside := by
  constructor
  · intro h
    obtain ⟨before, inside, htext, -, hopened⟩ := exists_open_of_lt_depthAfter h
    exact ⟨before, inside, htext, neverCloses_iff.mpr hopened⟩
  · rintro ⟨before, inside, rfl, hinside⟩
    rw [depthAfter_append, depthAfter_cons]
    exact Nat.zero_lt_of_lt (hinside.depthAfter_pos (List.prefix_refl inside) _)

/-- **A parenthesis is open at a comma** iff the comma is enclosed or stands behind a parenthesis
that nothing closes. -/
theorem depthAfter_pos_iff_enclosed {front back : List Char} :
    0 < depthAfter 0 front ↔ Enclosed front back ∨ BehindUnclosed front back := by
  rw [depthAfter_pos_iff]
  constructor
  · rintro ⟨before, inside, rfl, hinside⟩
    by_cases hnever : NeverCloses (inside ++ ',' :: back)
    · exact Or.inr ⟨before, inside, rfl, hnever⟩
    · simp only [NeverCloses, not_forall, not_not] at hnever
      obtain ⟨closed, after, htext, hmatched⟩ := hnever
      refine Or.inl ?_
      -- the closing parenthesis stands behind the comma: `inside` does not close it
      rcases List.append_eq_append_iff.mp htext with ⟨rest, rfl, hrest⟩ | ⟨rest, rfl, hrest⟩
      · cases rest with
        | nil => exact absurd (List.cons.inj hrest).1 (by decide)
        | cons c behind =>
          obtain ⟨rfl, rfl⟩ := List.cons.inj hrest
          exact ⟨before, inside, behind, after, rfl, rfl, hmatched⟩
      · cases rest with
        | nil => exact absurd (List.cons.inj hrest).1 (by decide)
        | cons c rest =>
          obtain ⟨rfl, -⟩ := List.cons.inj hrest
          exact absurd hmatched (hinside closed rest rfl)
  · rintro (⟨before, inside, behind, after, rfl, -, hmatched⟩ | ⟨before, inside, rfl, hnever⟩)
    · have hinside : NeverCloses inside := neverCloses_iff.mpr fun q hq =>
        hmatched.opened q (hq.trans (List.prefix_append inside _))
      exact ⟨before, inside, rfl, hinside⟩
    · exact ⟨before, inside, rfl, hnever.prefix⟩

/-! ## Commas that end a part -/

/-- The comma between two texts ends a part: the parts of the whole are those of both texts. -/
def EndsPart (front back : List Char) : Prop :=
  splitTopLevel ',' (front ++ ',' :: back) = splitTopLevel ',' front ++ splitTopLevel ',' back

/-- The directives that parts of a text write once their commas are restored. -/
def readParts (parts : List (List Char)) : List Directive :=
  parts.filterMap fun part => parse? (restore part)

theorem pieces_eq_readParts (text : List Char) :
    pieces text = readParts (splitTopLevel ',' text) :=
  pieces_eq_filterMap text

theorem exists_part_of_pos {front : List Char} (h : 0 < depthAfter 0 front) (back : List Char) :
    ∃ left p q right, splitTopLevel ',' front = left ++ [p] ∧
      [','].intercalate (q :: right) = back ∧
      splitTopLevel ',' (front ++ ',' :: back) = left ++ (p ++ ',' :: q) :: right := by
  obtain ⟨left, p, hfront, hjoin⟩ := exists_last_splitFrom ',' front 0
  obtain ⟨q, right, hback⟩ :=
    List.exists_cons_of_ne_nil (splitFrom_ne_nil : splitFrom ',' (depthAfter 0 front) back ≠ [])
  have hcomma : deepen (depthAfter 0 front) ',' = depthAfter 0 front := rfl
  refine ⟨left, p, q, right, hfront, ?_, ?_⟩
  · rw [← hback, intercalate_splitFrom]
  · rw [splitTopLevel, hjoin, splitFrom, isCut_of_pos h, if_neg Bool.false_ne_true, hcomma, hback]
    rfl

/-- **A comma ends a part** iff no parenthesis is open at it. -/
theorem endsPart_iff {front back : List Char} : EndsPart front back ↔ depthAfter 0 front = 0 := by
  constructor
  · intro h
    by_contra hpos
    obtain ⟨left, p, q, right, hfront, -, hwhole⟩ :=
      exists_part_of_pos (Nat.pos_of_ne_zero hpos) back
    rw [EndsPart, hwhole, hfront, List.append_assoc, List.append_cancel_left_eq] at h
    have hpart : p ++ ',' :: q = p := (List.cons.inj h).1
    simp at hpart
  · exact fun h => splitTopLevel_append_cons (by decide) (by decide) h back

/-- All that stands behind a parenthesis that nothing closes belongs to one part. -/
theorem splitTopLevel_neverCloses (before : List Char) {rest : List Char} (h : NeverCloses rest) :
    ∃ left p, splitTopLevel ',' before = left ++ [p] ∧
      splitTopLevel ',' (before ++ '(' :: rest) = left ++ [p ++ '(' :: rest] := by
  obtain ⟨left, p, hbefore, hjoin⟩ := exists_last_splitFrom ',' before 0
  have hrest : Uncut ',' (depthAfter 0 before) ('(' :: rest) :=
    ⟨isCut_of_ne (by decide), h.uncut ',' _⟩
  refine ⟨left, p, hbefore, ?_⟩
  rw [splitTopLevel, hjoin, splitFrom_of_uncut hrest, List.modifyHead_cons]

/-! ## Directives of a block -/

section

variable {block front back : List Char}

theorem tokenize_eq_readParts (h : stripQuotes (trim block) = front) :
    tokenize block = readParts (splitTopLevel ',' front) := by
  rw [tokenize_eq_pieces, h, pieces_eq_readParts]

theorem tokenize_of_endsPart (h : stripQuotes (trim block) = front ++ ',' :: back)
    (hends : EndsPart front back) : tokenize block = pieces front ++ pieces back := by
  rw [tokenize_eq_readParts h, hends, pieces_eq_readParts, pieces_eq_readParts, readParts,
    readParts, readParts, List.filterMap_append]

theorem tokenize_of_not_endsPart (h : stripQuotes (trim block) = front ++ ',' :: back)
    (hends : ¬ EndsPart front back) : ∃ left p q right, splitTopLevel ',' front = left ++ [p] ∧
      [','].intercalate (q :: right) = back ∧
      tokenize block = readParts (left ++ (p ++ ',' :: q) :: right) := by
  rw [endsPart_iff] at hends
  obtain ⟨left, p, q, right, hfront, hback, hwhole⟩ :=
    exists_part_of_pos (Nat.pos_of_ne_zero hends) back
  exact ⟨left, p, q, right, hfront, hback, by rw [tokenize_eq_readParts h, hwhole]⟩

/-- A parenthesis that nothing closes takes all that follows it into its directive. -/
theorem tokenize_neverCloses {before rest : List Char}
    (h : stripQuotes (trim block) = before ++ '(' :: rest) (hnever : NeverCloses rest) :
    ∃ left p, splitTopLevel ',' before = left ++ [p] ∧
      tokenize block = readParts (left ++ [p ++ '(' :: rest]) := by
  obtain ⟨left, p, hbefore, hwhole⟩ := splitTopLevel_neverCloses before hnever
  exact ⟨left, p, hbefore, by rw [tokenize_eq_readParts h, hwhole]⟩

end

theorem tokenize_unclosed_note {word : List Char} {implied : Bool}
    (hword : Keyword.ofName? word = some (.note, implied)) (negated : Bool) {a rest : List Char}
    (ha : ∀ c ∈ a, c ∉ ['(', ')', ',']) (hrest : ∀ c ∈ rest, c ∉ ['(', ')']) :
    ∃ d, tokenize (signed negated (word ++ '=' :: (a ++ '(' :: ',' :: rest))) = [d] ∧
      Keyword.ofName? d.name = some (.note, implied) ∧
      d.rawArgument? = some (trim (restore (a ++ '(' :: ',' :: rest))) := by
  have hnever : NeverCloses (',' :: rest) := by
    intro inside after htext
    have hclose : ')' ∈ ',' :: rest := by rw [htext]; simp
    rcases List.mem_cons.mp hclose with hcomma | hmem
    · exact absurd hcomma (by decide)
    · exact absurd (by decide) (hrest ')' hmem)
  have hbalanced : Balanced a :=
    .of_no_paren (fun hmem => ha _ hmem (by decide)) fun hmem => ha _ hmem (by decide)
  have huncut : Uncut ',' 0 (a ++ '(' :: ',' :: rest) := by
    rw [uncut_append, hbalanced.depth]
    exact ⟨uncut_of_not_mem fun hmem => ha _ hmem (by decide), rfl, hnever.uncut ',' 0⟩
  refine ⟨_, tokenize_keyed (Keyword.isHead hword) huncut negated, ?_, rfl⟩
  exact (Keyword.ofName?_trim word).trans hword

/-- **Which commas end a directive.**  In every block, quoted or not, a comma ends a directive iff
it is not enclosed and no parenthesis before it is left open: then the directives are those of the
text before it and those of the text behind it.  Any other comma stands in the text of one
directive.  So a parenthesis that nothing closes takes all that follows it into its directive: a
note with such a parenthesis is the only directive, whatever stands behind its comma. -/
theorem comma_ends_directive_iff (block : List Char) :
    (∀ {front back : List Char}, stripQuotes (trim block) = front ++ ',' :: back →
      (EndsPart front back ↔ ¬ Enclosed front back ∧ ¬ BehindUnclosed front back) ∧
      (EndsPart front back → tokenize block = pieces front ++ pieces back) ∧
      (¬ EndsPart front back → ∃ left p q right, splitTopLevel ',' front = left ++ [p] ∧
        [','].intercalate (q :: right) = back ∧
        tokenize block = readParts (left ++ (p ++ ',' :: q) :: right))) ∧
    (∀ {before rest : List Char}, stripQuotes (trim block) = before ++ '(' :: rest →
      NeverCloses rest → ∃ left p, splitTopLevel ',' before = left ++ [p] ∧
        tokenize block = readParts (left ++ [p ++ '(' :: rest])) ∧
    ∀ {word : List Char} {implied : Bool}, Keyword.ofName? word = some (.note, implied) →
      ∀ {negated : Bool} {a rest : List Char}, (∀ c ∈ a, c ∉ ['(', ')', ',']) →
        (∀ c ∈ rest, c ∉ ['(', ')']) →
        block = signed negated (word ++ '=' :: (a ++ '(' :: ',' :: rest)) →
        ∃ d, tokenize block = [d] ∧ Keyword.ofName? d.name = some (.note, implied) ∧
          d.rawArgument? = some (trim (restore (a ++ '(' :: ',' :: rest))) := by
  refine ⟨fun hblock => ⟨?_, tokenize_of_endsPart hblock, tokenize_of_not_endsPart hblock⟩,
    tokenize_neverCloses, ?_⟩
  · rw [endsPart_iff, ← not_or, ← depthAfter_pos_iff_enclosed, Nat.pos_iff_ne_zero, not_not]
  · rintro word implied hword negated a rest ha hrest rfl
    exact tokenize_unclosed_note hword negated ha hrest

/-- A block between quotes with an enclosed comma, one that ends a directive, and one behind a
parenthesis that nothing closes; and a note with such a parenthesis before a rule. -/
theorem comma_ends_directive_iff_pattern :
    let block := "'each(number,positive),match=\\(,minLength=2'".toList
    let front := "each(number,positive)".toList
    let back := "match=\\(,minLength=2".toList
    (stripQuotes (trim block) = front ++ ',' :: back ∧ EndsPart front back ∧
      tokenize block = pieces front ++ pieces back) ∧
    (stripQuotes (trim block) = (front ++ ",match=\\".toList) ++ '(' :: ",minLength=2".toList ∧
      NeverCloses ",minLength=2".toList ∧
      (tokenize block).map (·.text) = [front, back]) ∧
    (Keyword.ofName? "Note".toList = some (.note, false) ∧ (∀ c ∈ ['a'], c ∉ ['(', ')', ',']) ∧
      (∀ c ∈ "integer".toList, c ∉ ['(', ')']) ∧
      ∃ d, tokenize "!Note=a(,integer".toList = [d] ∧
        d.rawArgument? = some "a(,integer".toList) := by
  intro block front back
  have hcomma : stripQuotes (trim block) = front ++ ',' :: back := by decide +kernel
  have hopen : stripQuotes (trim block) =
      (front ++ ",match=\\".toList) ++ '(' :: ",minLength=2".toList := by decide +kernel
  have hnever : NeverCloses ",minLength=2".toList := by
    intro inside after htext
    have hclose : ')' ∈ ",minLength=2".toList := by rw [htext]; simp
    exact absurd hclose (by decide)
  have hword : Keyword.ofName? "Note".toList = some (.note, false) := by decide +kernel
  have ha : ∀ c ∈ ['a'], c ∉ ['(', ')', ','] := List.all_iff_forall_prop.mp (by decide)
  have hrest : ∀ c ∈ "integer".toList, c ∉ ['(', ')'] := List.all_iff_forall_prop.mp (by decide)
  obtain ⟨hcommas, hunclosed, -⟩ := comma_ends_directive_iff block
  obtain ⟨-, -, hnote⟩ := comma_ends_directive_iff "!Note=a(,integer".toList
  have hends : EndsPart front back := endsPart_iff.mpr (by decide +kernel)
  obtain ⟨left, p, hparts, htokens⟩ := hunclosed hopen hnever
  have hsplit : splitTopLevel ',' (front ++ ",match=\\".toList) =
      [front] ++ ["match=\\".toList] := by decide +kernel
  refine ⟨⟨hcomma, hends, (hcommas hcomma).2.1 hends⟩, ⟨hopen, hnever, ?_⟩,
    hword, ha, hrest, ?_⟩
  · obtain ⟨rfl, hlast⟩ := List.append_inj' (hsplit.symm.trans hparts) rfl
    obtain rfl := (List.cons.inj hlast).1
    rw [htokens]
    decide +kernel
  · obtain ⟨d, hd, -, hraw⟩ := @hnote _ _ hword true _ _ ha hrest rfl
    exact ⟨d, hd, hraw⟩

/-- A note with a parenthesis that nothing closes takes in the rule behind its comma, and every
number passes. -/
theorem unclosed_note_takes_rule :
    let front := "note=x(".toList
    let k : Checker := { seed := some 1 }
    ¬ Enclosed front "integer".toList ∧ ¬ EndsPart front "integer".toList ∧
    (∀ d, tokenize "note=x(,integer".toList ≠ d :: tokenize "integer".toList) ∧
    parse .number "note=x(,integer".toList =
      some { rules := .number {}, note := some "x(,integer" } ∧
    k.validate (.number 1.5) "note=x(,integer" = "" ∧ k.validate (.number 1.5) "integer" ≠ "" := by
  intro front k
  refine ⟨?_, ?_, ?_, ?_, by decide +kernel, by decide +kernel⟩
  · rintro ⟨before, inside, behind, after, -, hback, -⟩
    have hclose : ')' ∈ "integer".toList := by rw [hback]; simp
    exact absurd hclose (by decide)
  · rw [endsPart_iff]
    decide
  · intro d hd
    have hlength := congrArg List.length hd
    exact absurd hlength (by rw [List.length_cons]; decide +kernel)
  · rw [parse_eq_build]
    rfl

end ShapeCheck
