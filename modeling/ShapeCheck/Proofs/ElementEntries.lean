import ShapeCheck.Proofs.ElementBlocks
import ShapeCheck.Proofs.EveryDepth
import ShapeCheck.Proofs.Notes

/-!
# Entries for elements

The blocks of all directives for elements are set one after the other, so that the last block for a
type stays, and it replaces the ones before it whole.

* `ByType.isSome_get?_setBlocks`, `ByType.get?_setBlocks_last` — which types have an entry after
  blocks were set, and which entry it is;
* `Directive.innerBlocks`, `Directive.elementParts` — the blocks that a directive sets, and the parts
  between bars that they are read from;
* `elements_apply`, `elements_foldl` — what one directive and a list of directives do to entries;
* `setBlocks_bar`, `parse_each_bar` — a bar between two arguments is the same as two directives;
* `each_last_wins` — so entries come from the last blocks for their types.
-/

set_option autoImplicit false

namespace ShapeCheck

open Directive Text

/-! ## Setting blocks -/

theorem ElementBlock.isSome_constraint? (nested : BlockParser) {b : ElementBlock}
    (h : b.valueType ≠ .none) : (b.constraint? nested).isSome := by
  obtain ⟨first, hfirst, -, -⟩ := exists_initial? h
  rw [constraint?, hfirst]
  cases nested b.valueType b.rest <;> rfl

namespace ByType

variable {nested : BlockParser} {m : ByType Constraint} {t : ValueType}

theorem setBlocks_append (before after : List ElementBlock) :
    m.setBlocks nested (before ++ after) = (m.setBlocks nested before).setBlocks nested after :=
  List.foldl_append

theorem get?_setBlock (b : ElementBlock) :
    (m.setBlocks nested [b]).get? t =
      if t = b.valueType ∧ t ≠ .none then b.constraint? nested else m.get? t := by
  have hnil : ∀ m : ByType Constraint, m.setBlocks nested [] = m := fun _ => rfl
  rw [setBlocks_cons, hnil]
  cases hb : b.constraint? nested with
  | none =>
    have htype : b.valueType = .none := by
      by_contra hne
      have hsome := ElementBlock.isSome_constraint? nested hne
      rw [hb] at hsome
      cases hsome
    rw [Option.elim_none, if_neg]
    rintro ⟨rfl, hne⟩
    exact hne htype
  | some c =>
    rw [Option.elim_some, get?_set]
    by_cases ht : t = b.valueType
    · rw [ht]
    · simp [ht]

/-- **Which types have an entry** after blocks were set: those that had one and those of a block. -/
theorem isSome_get?_setBlocks : ∀ {blocks : List ElementBlock} {m : ByType Constraint},
    ((m.setBlocks nested blocks).get? t).isSome ↔
      (m.get? t).isSome ∨ t ≠ .none ∧ ∃ b ∈ blocks, b.valueType = t
  | [], m => by simp [setBlocks]
  | b :: blocks, m => by
    have hcons : m.setBlocks nested (b :: blocks) =
        (m.setBlocks nested [b]).setBlocks nested blocks := setBlocks_append [b] blocks
    rw [hcons, isSome_get?_setBlocks, get?_setBlock]
    by_cases hb : t = b.valueType ∧ t ≠ .none
    · have hsome := ElementBlock.isSome_constraint? nested (hb.1 ▸ hb.2)
      rw [if_pos hb]
      exact iff_of_true (Or.inl hsome) (Or.inr ⟨hb.2, b, List.mem_cons_self, hb.1.symm⟩)
    · have hother : t ≠ .none → b.valueType ≠ t := fun hne heq => hb ⟨heq.symm, hne⟩
      rw [if_neg hb]
      refine or_congr_right (and_congr_right fun hne => ?_)
      simp [hother hne]

theorem get?_setBlocks_of_ne : ∀ {blocks : List ElementBlock} {m : ByType Constraint},
    (∀ b ∈ blocks, b.valueType ≠ t) → (m.setBlocks nested blocks).get? t = m.get? t
  | [], _, _ => rfl
  | b :: blocks, m, h => by
    obtain ⟨hb, hblocks⟩ := List.forall_mem_cons.mp h
    have hcons : m.setBlocks nested (b :: blocks) =
        (m.setBlocks nested [b]).setBlocks nested blocks := setBlocks_append [b] blocks
    rw [hcons, get?_setBlocks_of_ne hblocks, get?_setBlock, if_neg fun hand => hb hand.1.symm]

/-- **The last block for a type sets its entry**, whatever was set before. -/
theorem get?_setBlocks_last {before after : List ElementBlock} {b : ElementBlock}
    (hb : b.valueType = t) (ht : t ≠ .none) (hafter : ∀ b ∈ after, b.valueType ≠ t) :
    (m.setBlocks nested (before ++ b :: after)).get? t = b.constraint? nested := by
  have hsplit : before ++ b :: after = before ++ [b] ++ after := by simp
  rw [hsplit, setBlocks_append, get?_setBlocks_of_ne hafter, setBlocks_append, get?_setBlock,
    if_pos ⟨hb.symm, ht⟩]

end ByType

/-! ## Blocks between bars -/

/-- A part between bars that is not blank and begins with a name of a type. -/
def IsBlockFor (t : ValueType) (part : List Char) : Prop :=
  trim part ≠ [] ∧ (ElementBlock.ofText part).valueType = t

instance (t : ValueType) (part : List Char) : Decidable (IsBlockFor t part) :=
  inferInstanceAs (Decidable (_ ∧ _))

theorem filterMap_unquoted {parts : List (List Char)}
    (h : ∀ part ∈ parts, unquote? (trim part) = none) :
    parts.filterMap partKey? =
      ((visibleBlocks parts).map ElementBlock.ofText).map (·.key) := by
  have hkept : ∀ part ∈ parts, stripQuotes (trim part) = trim part := fun part hpart => by
    rw [stripQuotes, h part hpart, Option.getD_none]
  rw [List.filterMap_congr fun part hpart => partKey?_of_kept (hkept part hpart),
    filterMap_keys (trim · = []), List.map_map]
  rfl

theorem exists_visibleBlock_iff {texts : List (List Char)} {t : ValueType} :
    (∃ b ∈ (visibleBlocks texts).map ElementBlock.ofText, b.valueType = t) ↔
      ∃ part ∈ texts, IsBlockFor t part := by
  simp only [visibleBlocks, List.mem_map, List.mem_filter, decide_eq_true_eq, IsBlockFor]
  constructor
  · rintro ⟨_, ⟨part, ⟨hpart, hvisible⟩, rfl⟩, ht⟩
    exact ⟨part, hpart, hvisible, ht⟩
  · rintro ⟨part, hpart, hvisible, ht⟩
    exact ⟨_, ⟨part, ⟨hpart, hvisible⟩, rfl⟩, ht⟩

theorem get?_setBlocks_part {nested : BlockParser} {m : ByType Constraint} {t : ValueType}
    (ht : t ≠ .none) {before after : List (List Char)} {part : List Char}
    (hpart : IsBlockFor t part) (hafter : ∀ p ∈ after, ¬ IsBlockFor t p) :
    (m.setBlocks nested ((visibleBlocks (before ++ part :: after)).map .ofText)).get? t =
      (nested t (ElementBlock.ofText part).rest <|> Constraint.initial? t) := by
  have hsplit : (visibleBlocks (before ++ part :: after)).map ElementBlock.ofText =
      (visibleBlocks before).map .ofText ++
        .ofText part :: (visibleBlocks after).map .ofText := by
    rw [visibleBlocks, List.filter_append, List.filter_cons_of_pos (by simpa using hpart.1),
      List.map_append, List.map_cons]
    rfl
  have hother : ∀ b ∈ (visibleBlocks after).map ElementBlock.ofText, b.valueType ≠ t := by
    intro b hb heq
    obtain ⟨p, hp, hfor⟩ := exists_visibleBlock_iff.mp ⟨b, hb, heq⟩
    exact hafter p hp hfor
  rw [hsplit, ByType.get?_setBlocks_last hpart.2 ht hother, ElementBlock.constraint?, hpart.2]

theorem unquoted_restore {text : List Char} (h : Unquoted text) : Unquoted (restore text) := by
  intro c hc
  rw [restore, List.head?_map] at hc
  obtain ⟨d, hd, rfl⟩ := Option.map_eq_some_iff.mp hc
  split
  · decide
  · exact h d hd

/-- **A bar between two arguments** sets the blocks of both. -/
theorem setBlocks_bar (m : ByType Constraint) {a b : List Char} (hdepth : depthAfter 0 a = 0)
    (ha : Unquoted (trim a)) (hb : Unquoted (trim b)) :
    m.setBlocks parse (ElementBlock.ofArgument (stripQuotes (trim (a ++ '|' :: b)))) =
      (m.setBlocks parse (ElementBlock.ofArgument (stripQuotes (trim a)))).setBlocks parse
        (ElementBlock.ofArgument (stripQuotes (trim b))) := by
  have hjoined : Unquoted (trim (a ++ '|' :: b)) := by
    have hstart : Unquoted (trimStart a) := fun c hc => ha c (by rwa [head?_trim])
    rw [trim_append_cons (by decide)]
    cases hempty : trimStart a with
    | nil =>
      rintro c ⟨⟩
      decide
    | cons c rest => exact (hempty ▸ hstart).append (List.cons_ne_nil c rest) _
  have hkeys : ∀ {text : List Char}, Unquoted (trim text) →
      (ElementBlock.ofArgument (stripQuotes (trim text))).map (·.key) =
        (splitTopLevel '|' text).filterMap partKey? := fun htext => by
    rw [stripQuotes_eq_self htext, map_key_ofArgument,
      filterMap_splitTopLevel_trim (by decide) partKey?_trim]
  rw [← ByType.setBlocks_append]
  refine ByType.setBlocks_of_keys m ?_
  rw [List.map_append, hkeys hjoined, hkeys ha, hkeys hb,
    splitTopLevel_append_cons (by decide) (by decide) hdepth, List.filterMap_append]

/-! ## Directives for elements -/

namespace Directive

/-- The argument of a directive for elements. -/
def elementArgument? (d : Directive) : Option (List Char) :=
  if d.slot? = some (.rule .each false) then d.argumentText? else none

/-- The blocks for elements that a directive sets. -/
def innerBlocks (d : Directive) : List ElementBlock :=
  (d.elementArgument?.map ElementBlock.ofArgument).getD []

/-- The parts between bars of what a directive asks of elements. -/
def elementParts (d : Directive) : List (List Char) :=
  (d.elementArgument?.map (splitTopLevel '|')).getD []

theorem exists_name_of_slot {d : Directive} (h : d.slot? = some (.rule .each false)) :
    ∃ implied, Keyword.ofName? d.name = some (.each, implied) ∧ d.negated = implied := by
  rw [slot?] at h
  split at h
  · cases h
  · rename_i k implied hnote hname
    obtain ⟨rfl, hnegated⟩ := Slot.rule.inj (Option.some.inj h)
    exact ⟨implied, hname, bne_eq_false_iff_eq.mp hnegated⟩
  · cases h

end Directive

section

variable {d : Directive} {c : Constraint}

/-- **One directive sets its blocks** and leaves the other entries. -/
theorem elements_apply (nested : BlockParser) (ht : c.valueType = .array) :
    (c.apply nested .array d).rules.elements =
      c.rules.elements.setBlocks nested d.innerBlocks := by
  obtain ⟨r, hr⟩ := Rules.exists_array ht
  by_cases hslot : d.slot? = some (.rule .each false)
  · obtain ⟨implied, hname, hnegated⟩ := exists_name_of_slot hslot
    rw [innerBlocks, elementArgument?, if_pos hslot]
    cases hargument : d.argumentText? with
    | none =>
      rw [apply_of_keyword hname (by decide), hnegated, bne_self_eq_false, Rules.change?,
        ArrayRules.change?, hargument]
      rfl
    | some raw =>
      rw [apply_of_each hname hnegated hargument nested hr, hr]
      rfl
  · obtain ⟨r', hr'⟩ := Rules.exists_array ((valueType_apply nested .array c d).trans ht)
    have hcontent : (c.apply nested .array d).content (.rule .each false) =
        c.content (.rule .each false) := content_apply_of_ne ht hslot
    rw [Constraint.content, Constraint.content, hr, hr'] at hcontent
    rw [innerBlocks, elementArgument?, if_neg hslot, hr, hr']
    exact Content.elements.inj hcontent

/-- **A list of directives sets the blocks of all of them** in order. -/
theorem elements_foldl (nested : BlockParser) : ∀ {ds : List Directive} {c : Constraint},
    c.valueType = .array → (ds.foldl (Constraint.apply nested .array) c).rules.elements =
      c.rules.elements.setBlocks nested (ds.flatMap innerBlocks)
  | [], _, _ => rfl
  | d :: ds, c, ht => by
    have hnext : (c.apply nested .array d).valueType = .array :=
      (valueType_apply nested .array c d).trans ht
    rw [List.foldl_cons, elements_foldl nested hnext, elements_apply nested ht, List.flatMap_cons,
      ByType.setBlocks_append]

theorem key_innerBlocks (hquote : ∀ part ∈ d.elementParts, unquote? (trim part) = none) :
    d.innerBlocks.map (·.key) =
      ((visibleBlocks d.elementParts).map ElementBlock.ofText).map (·.key) := by
  rw [innerBlocks]
  rw [elementParts] at hquote ⊢
  cases hargument : d.elementArgument? with
  | none => rfl
  | some raw =>
    rw [hargument] at hquote
    exact (map_key_ofArgument raw).trans (filterMap_unquoted hquote)

end

theorem key_flatMap_innerBlocks : ∀ {ds : List Directive},
    (∀ part ∈ ds.flatMap elementParts, unquote? (trim part) = none) →
    (ds.flatMap innerBlocks).map (·.key) =
      ((visibleBlocks (ds.flatMap elementParts)).map ElementBlock.ofText).map (·.key)
  | [], _ => rfl
  | d :: ds, hquote => by
    rw [List.flatMap_cons] at hquote ⊢
    obtain ⟨hd, hds⟩ := List.forall_mem_append.mp hquote
    rw [List.flatMap_cons, List.map_append, key_innerBlocks hd, key_flatMap_innerBlocks hds,
      visibleBlocks, visibleBlocks, visibleBlocks, List.filter_append, List.map_append,
      List.map_append]

theorem tokenize_calls {first second a : List Char} (hfirst : IsHead first)
    (hsecond : IsHead second) (ha : Balanced a) (b : List Char) :
    tokenize ((first ++ '(' :: (a ++ [')'])) ++ ',' :: (second ++ '(' :: (b ++ [')']))) =
      tokenize (first ++ '(' :: (a ++ [')'])) ++ tokenize (second ++ '(' :: (b ++ [')'])) := by
  refine tokenize_append_comma ((hfirst.balanced.append ha.paren).depth 0)
    (unquote?_trim_signed hfirst false (by decide) _)
    (unquote?_trim_signed hsecond false (by decide) _) ?_
  rw [List.append_assoc, List.cons_append]
  exact unquote?_trim_signed hfirst false (by decide) _

/-- Arguments with a bar between them build what two directives with these arguments build. -/
theorem parse_each_bar {word first second : List Char}
    (hword : Keyword.ofName? word = some (.each, false))
    (hfirst : Keyword.ofName? first = some (.each, false))
    (hsecond : Keyword.ofName? second = some (.each, false)) {a b : List Char} (ha : Matched a)
    (hb : Matched b) (hquoteA : Unquoted (trim a)) (hquoteB : Unquoted (trim b)) :
    ∃ c, parse .array (word ++ '(' :: ((a ++ '|' :: b) ++ [')'])) = some c ∧
      parse .array ((first ++ '(' :: (a ++ [')'])) ++ ',' ::
        (second ++ '(' :: (b ++ [')']))) = some c := by
  have hbar : Balanced ['|'] := .of_no_paren (by decide) (by decide)
  obtain ⟨d₁, htoken₁, hclear₁, hname₁, hnegated₁, hargument₁⟩ := tokenize_each hfirst ha.balanced
  obtain ⟨d₂, htoken₂, hclear₂, hname₂, hnegated₂, hargument₂⟩ := tokenize_each hsecond hb.balanced
  have htokens := tokenize_calls (Keyword.isHead hfirst) (Keyword.isHead hsecond) ha.balanced b
  rw [htoken₁, htoken₂, List.singleton_append] at htokens
  have hbuild : build .array [d₁, d₂] =
      some ([d₁, d₂].foldl (Constraint.apply parse .array) { rules := .array {} }) :=
    build_eq_foldl rfl (List.cons_ne_nil d₁ [d₂]) (by simp [hclear₁, hclear₂])
  have hrestore : restore (a ++ '|' :: b) = restore a ++ '|' :: restore b := restore_append a _
  have hbars := setBlocks_bar {} (ha.balanced.restore.depth 0)
    (restore_trim a ▸ unquoted_restore hquoteA) (restore_trim b ▸ unquoted_restore hquoteB)
  refine ⟨_, parse_each hword (ha.balanced.append (hbar.append hb.balanced)), ?_⟩
  rw [parse_eq_build, htokens, hbuild, List.foldl_cons, List.foldl_cons, List.foldl_nil,
    apply_of_each hname₁ hnegated₁ hargument₁ parse rfl,
    apply_of_each hname₂ hnegated₂ hargument₂ parse rfl, hrestore, hbars]

theorem exists_parse_elements {block : List Char} (hne : tokenize block ≠ [])
    (hclear : ∀ d ∈ tokenize block, d.clears = false)
    (hquote : ∀ part ∈ (tokenize block).flatMap elementParts, unquote? (trim part) = none) :
    ∃ c, parse .array block = some c ∧ c.rules.elements =
      ByType.setBlocks parse {}
        ((visibleBlocks ((tokenize block).flatMap elementParts)).map .ofText) := by
  have hbuild := build_eq_foldl (t := .array) rfl hne hclear
  refine ⟨_, (parse_eq_build .array block).trans hbuild, ?_⟩
  rw [elements_foldl parse rfl]
  exact ByType.setBlocks_of_keys _ (key_flatMap_innerBlocks hquote)

theorem elementParts_each {word argument : List Char}
    (hword : Keyword.ofName? word = some (.each, false)) (hargument : Matched argument) :
    ∃ d, tokenize (word ++ '(' :: (argument ++ [')'])) = [d] ∧ d.clears = false ∧
      d.elementParts = splitTopLevel '|' (stripQuotes (trim (restore argument))) := by
  obtain ⟨d, htoken, hclear, hname, hnegated, hraw⟩ := tokenize_each hword hargument.balanced
  have hslot : d.slot? = some (.rule .each false) := by
    rw [slot?, hname, hnegated]
    rfl
  refine ⟨d, htoken, hclear, ?_⟩
  rw [elementParts, elementArgument?, if_pos hslot, hraw]
  rfl

/-- **The last block for a type sets the entry for it.**  A bar between two arguments of balanced
parentheses that begin with no quote builds the same as two directives, the second of which replaces
entries of the first.  In every block of directives for arrays, none of which clears and whose parts
between bars are not quoted, a type has an entry iff it is not that of null and some part for it is
not blank, and the last of these parts builds the entry: from what stands behind its first comma, or
else the first constraint for the type.  The parts of one argument in parentheses are those of its
text. -/
theorem each_last_wins :
    (∀ {word first second : List Char}, Keyword.ofName? word = some (.each, false) →
      Keyword.ofName? first = some (.each, false) → Keyword.ofName? second = some (.each, false) →
      ∀ {a b : List Char}, Matched a → Matched b → Unquoted (trim a) → Unquoted (trim b) →
        ∃ c, parse .array (word ++ '(' :: ((a ++ '|' :: b) ++ [')'])) = some c ∧
          parse .array ((first ++ '(' :: (a ++ [')'])) ++ ',' ::
            (second ++ '(' :: (b ++ [')']))) = some c) ∧
    (∀ {block : List Char}, tokenize block ≠ [] → (∀ d ∈ tokenize block, d.clears = false) →
      let parts := (tokenize block).flatMap elementParts
      (∀ part ∈ parts, unquote? (trim part) = none) →
      ∃ c, parse .array block = some c ∧ ∀ t : ValueType,
        ((c.rules.elements.get? t).isSome ↔ t ≠ .none ∧ ∃ part ∈ parts, IsBlockFor t part) ∧
        (t ≠ .none → ∀ before part after, parts = before ++ part :: after → IsBlockFor t part →
          (∀ p ∈ after, ¬ IsBlockFor t p) → c.rules.elements.get? t =
            (parse t (ElementBlock.ofText part).rest <|> Constraint.initial? t))) ∧
    ∀ {word argument : List Char}, Keyword.ofName? word = some (.each, false) → Matched argument →
      ∃ d, tokenize (word ++ '(' :: (argument ++ [')'])) = [d] ∧ d.clears = false ∧
        d.elementParts = splitTopLevel '|' (stripQuotes (trim (restore argument))) := by
  refine ⟨parse_each_bar, ?_, elementParts_each⟩
  intro block hne hclear parts hquote
  obtain ⟨c, hc, hentries : c.rules.elements = ByType.setBlocks parse {}
    ((visibleBlocks parts).map .ofText)⟩ := exists_parse_elements hne hclear hquote
  refine ⟨c, hc, fun t => ?_⟩
  have hempty : (({} : ByType Constraint).get? t).isSome = false := by cases t <;> rfl
  rw [hentries]
  refine ⟨?_, fun ht before part after hparts hpart hafter => ?_⟩
  · rw [ByType.isSome_get?_setBlocks, hempty, exists_visibleBlock_iff]
    simp
  · rw [hparts]
    exact get?_setBlocks_part ht hpart hafter

/-- Arguments with bars and commas of their own; and two directives with a block for null, a blank
one and two for numbers, the last of which stays. -/
theorem each_last_wins_nested :
    let a := "array,each(string,minLength=1|number) | null".toList
    let b := "number,positive".toList
    let block :=
      "each(number,positive|null,note=x| |array,each(string|number)),Each(number,max=5)".toList
    (Matched a ∧ Matched b ∧ Unquoted (trim a) ∧ Unquoted (trim b) ∧
      ∃ c, parse .array ("each(".toList ++ (a ++ '|' :: b) ++ [')']) = some c ∧
        parse .array ("each(".toList ++ a ++ "),Each (".toList ++ b ++ [')']) = some c) ∧
    (∃ c, parse .array block = some c ∧
      c.rules.elements.get? .number =
        (parse .number "max=5".toList <|> Constraint.initial? .number) ∧
      c.rules.elements.get? .none = none ∧ (c.rules.elements.get? .array).isSome ∧
      c.rules.elements.get? .string = none) ∧
    ∃ d, tokenize ("each(".toList ++ a ++ [')']) = [d] ∧
      d.elementParts = ["array,each(string,minLength=1|number) ".toList, " null".toList] := by
  intro a b block
  have heach : Keyword.ofName? "each".toList = some (.each, false) := by decide +kernel
  have hspaced : Keyword.ofName? "Each ".toList = some (.each, false) := by decide +kernel
  have ha : Matched a := by decide
  have hb : Matched b := by decide
  have hquoteA : Unquoted (trim a) := by
    rintro c ⟨⟩
    decide
  have hquoteB : Unquoted (trim b) := by
    rintro c ⟨⟩
    decide
  obtain ⟨hbars, hentries, hparts⟩ := each_last_wins
  refine ⟨⟨ha, hb, hquoteA, hquoteB, hbars heach heach hspaced ha hb hquoteA hquoteB⟩, ?_, ?_⟩
  · have hne : tokenize block ≠ [] := List.ne_nil_of_length_pos (by decide +kernel)
    have hclear : ∀ d ∈ tokenize block, d.clears = false := by decide +kernel
    have hblocks : (tokenize block).flatMap elementParts =
        ["number,positive".toList, "null,note=x".toList, [' '],
          "array,each(string|number)".toList] ++ "number,max=5".toList :: [] := by decide +kernel
    obtain ⟨c, hc, hmap⟩ := hentries hne hclear (by rw [hblocks]; decide)
    rw [hblocks] at hmap
    refine ⟨c, hc, ?_, ?_, (hmap .array).1.mpr ⟨nofun, by decide +kernel⟩, ?_⟩
    · exact (hmap .number).2 nofun _ _ _ rfl (by decide +kernel) nofun
    · exact Option.not_isSome_iff_eq_none.mp fun hsome => ((hmap .none).1.mp hsome).1 rfl
    · refine Option.not_isSome_iff_eq_none.mp fun hsome => absurd ((hmap .string).1.mp hsome).2 ?_
      decide +kernel
  · obtain ⟨d, hd, -, hd'⟩ := hparts heach ha
    exact ⟨d, hd, hd'.trans (by decide +kernel)⟩

end ShapeCheck
