import ShapeCheck.Proofs.ElementBlocks
import ShapeCheck.Proofs.PropertyNames

/-!
# Items in quotes

Each item of a list may stand between quotes of its own.

* `listed_quoted` — the items are those between the quotes, unless the first and the last of several
  items have quotes of one kind: these two keep their inner quote;
* `ReadAs` — what a list means in calls, for names of properties and for modes;
* `quoted_items_read` — so quoting items one by one changes what is read only if the outer quotes
  are of one kind, or if one of several blocks for elements is blank.
-/

set_option autoImplicit false

namespace ShapeCheck

open Directive Text

/-! ## Items between quotes -/

/-- A bare text with a quote to stand around it. -/
structure QuotedItem.IsBare (i : QuotedItem) : Prop where
  quote : i.quote = '"' ∨ i.quote = '\''
  text : Bare i.text

instance (i : QuotedItem) : Decidable i.IsBare :=
  decidable_of_iff ((i.quote = '"' ∨ i.quote = '\'') ∧ Bare i.text)
    ⟨fun ⟨quote, text⟩ => ⟨quote, text⟩, fun h => ⟨h.quote, h.text⟩⟩

namespace QuotedItem.IsBare

variable {i : QuotedItem} (h : i.IsBare)

include h

theorem written : ListPart i.written ∧ stripQuotes (trim i.written) = i.text := by
  have hread : stripQuotes (trim i.written) = i.text := stripQuotes_written h.quote
  refine ⟨⟨?_, ?_, ?_, hread.symm ▸ h.text.nonempty⟩, hread⟩
  · exact not_mem_written h.quote (by decide) (h.text.not_mem (by decide))
  · exact balanced_written h.quote h.text.balanced
  · exact .between (isBlank_of_quote h.quote) (isBlank_of_quote h.quote) i.text

theorem closed :
    ListPart (i.text ++ [i.quote]) ∧
      stripQuotes (trim (i.text ++ [i.quote])) = i.text ++ [i.quote] := by
  have hends : VisibleEnds (i.text ++ [i.quote]) := by
    refine ⟨fun c hc => ?_, fun c hc => ?_⟩
    · rw [List.head?_append_of_ne_nil _ h.text.nonempty] at hc
      exact h.text.ends.head c hc
    · rw [List.getLast?_concat] at hc
      exact Option.some.inj hc ▸ isBlank_of_quote h.quote
  have hread : stripQuotes (trim (i.text ++ [i.quote])) = i.text ++ [i.quote] := by
    rw [stripQuotes_closed h.quote (h.text.not_mem (by decide)) (h.text.not_mem (by decide)),
      trim_eq_self hends]
  refine ⟨⟨?_, h.text.balanced.append (balanced_of_quote h.quote), hends, ?_⟩, hread⟩
  · rw [List.mem_append, List.mem_singleton, not_or]
    exact ⟨h.text.not_mem (by decide), ne_of_quote h.quote (by decide)⟩
  · rw [hread]
    exact List.append_ne_nil_of_right_ne_nil _ (List.cons_ne_nil _ _)

theorem opened :
    ListPart (i.quote :: i.text) ∧ stripQuotes (trim (i.quote :: i.text)) = i.quote :: i.text := by
  have hends : VisibleEnds (i.quote :: i.text) := by
    refine ⟨fun c hc => Option.some.inj hc ▸ isBlank_of_quote h.quote, fun c hc => ?_⟩
    refine h.text.ends.last c ?_
    rwa [← List.singleton_append, List.getLast?_append_of_ne_nil [i.quote] h.text.nonempty] at hc
  have hread : stripQuotes (trim (i.quote :: i.text)) = i.quote :: i.text := by
    rw [stripQuotes_opened h.quote (h.text.not_mem (by decide)) (h.text.not_mem (by decide)),
      trim_eq_self hends]
  refine ⟨⟨?_, (balanced_of_quote h.quote).append h.text.balanced, hends, ?_⟩, hread⟩
  · rw [List.mem_cons, not_or]
    exact ⟨ne_of_quote h.quote (by decide), h.text.not_mem (by decide)⟩
  · rw [hread]
    exact List.cons_ne_nil _ _

end QuotedItem.IsBare

/-- **Bare texts between quotes**, joined by commas, are read as a list: of the texts, unless their
outer quotes are of one kind. -/
theorem listed_quoted {items : List QuotedItem} (hne : items ≠ []) (h : ∀ i ∈ items, i.IsBare) :
    Listed (stripQuotes (trim ([','].intercalate (items.map (·.written))))) (readQuoted items) := by
  have hread : ∀ is : List QuotedItem, (∀ i ∈ is, i.IsBare) →
      (is.map (·.written)).map (fun p => stripQuotes (trim p)) = is.map (·.text) := fun is h => by
    rw [List.map_map]
    exact List.map_congr_left fun i hi => (h i hi).written.2
  rcases exists_first_last hne with ⟨single, rfl⟩ | ⟨first, middle, last, rfl⟩
  · have hsingle := h single List.mem_cons_self
    have hlisted := listed_of_items (List.forall_mem_singleton.mpr hsingle.text.item)
      (List.cons_ne_nil single.text [])
    rw [List.intercalate_singleton] at hlisted
    rw [List.map_singleton, List.intercalate_singleton, hsingle.written.2]
    exact hlisted
  · obtain ⟨hfirst, hrest⟩ := List.forall_mem_cons.mp h
    obtain ⟨hmiddle, hlast⟩ := List.forall_mem_append.mp hrest
    replace hlast := hlast last List.mem_cons_self
    rw [stripQuotes_joined hfirst.quote hlast.quote, readQuoted_several]
    split
    · have hparts : ∀ p ∈ innerParts first last middle, ListPart p := by
        refine List.forall_mem_cons.mpr ⟨hfirst.closed.1, List.forall_mem_append.mpr ⟨?_, ?_⟩⟩
        · exact List.forall_mem_map.mpr fun i hi => (hmiddle i hi).written.1
        · exact List.forall_mem_singleton.mpr hlast.opened.1
      have hquote : Unquoted ([','].intercalate (innerParts first last middle)) := by
        have hclosed := hfirst.text.item.unquoted.append hfirst.text.nonempty [first.quote]
        rw [innerParts, intercalate_cons _ (by simp)]
        exact hclosed.append hfirst.closed.1.nonempty _
      have hmap : (innerParts first last middle).map (fun p => stripQuotes (trim p)) =
          (first.text ++ [first.quote]) :: (middle.map (·.text) ++ [last.quote :: last.text]) := by
        rw [innerParts, List.map_cons, List.map_append, hread middle hmiddle, List.map_singleton,
          hfirst.closed.2, hlast.opened.2]
      exact hmap ▸ listed_intercalate (List.cons_ne_nil _ _) hparts (unquote?_eq_none hquote)
    · rename_i hdiffer
      have hparts : ∀ p ∈ (first :: (middle ++ [last])).map (·.written), ListPart p :=
        List.forall_mem_map.mpr fun i hi => (h i hi).written.1
      exact hread _ h ▸
        listed_intercalate (List.cons_ne_nil _ _) hparts (unquote?_joined hdiffer ',')

/-! ## What lists mean -/

/-- What an argument with a list of items means: in any call, for names of properties, and for the
parameters of a mode. -/
structure ReadAs (argument : List Char) (items : List (List Char)) : Prop where
  call : ∀ name : List Char, '(' ∉ name → trim name ≠ [] → ∃ call,
    Call.parse? (name ++ '(' :: (argument ++ [')'])) = some call ∧ call.params = items ∧
      call.argument.items = shownItems items
  names : ∀ {word : List Char} {implied : Bool},
    Keyword.ofName? word = some (.hasProperties, implied) → ∀ negated,
      parse .object (signed negated (word ++ '(' :: (argument ++ [')']))) =
        some (.ofNames (negated != implied) ((shownItems items).map String.ofList).eraseDups)
  mode : ∀ {word modeName : List Char} {m : Mode},
    Keyword.ofName? word = some (.checkType, false) → IsHead modeName →
      Mode.ofName? modeName = some m →
      parse .array (word ++ '=' :: (modeName ++ '(' :: (argument ++ [')']))) = some
        { rules := .array
            { mode := some m
              first := (items.map String.ofList)[0]?
              second := (items.map String.ofList)[1]? } }

theorem ReadAs.of_listed {argument : List Char} {items : List (List Char)}
    (hbalanced : Balanced argument) (hseparator : unitSeparator ∉ argument)
    (hlisted : Listed (stripQuotes (trim argument)) items) : ReadAs argument items where
  call name hopen hvisible :=
    ⟨_, Call.parse?_named hopen hvisible argument, hlisted.params _ _, hlisted.items⟩
  names hword negated := parse_listed negated hword hbalanced hseparator hlisted
  mode := by
    intro word modeName m hword hhead hmode
    have huncut : Uncut ',' 0 (modeName ++ '(' :: (argument ++ [')'])) :=
      uncut_balanced_append (hhead.uncut (by decide)) hhead.balanced (hbalanced.uncut_paren ',')
    have hrestore : restore (modeName ++ '(' :: (argument ++ [')'])) =
        modeName ++ '(' :: (argument ++ [')']) := by
      refine restore_eq_self fun hmem => ?_
      simp only [List.mem_append, List.mem_cons, List.not_mem_nil, or_false] at hmem
      rcases hmem with hmem | hopen | hmem | hclose
      · exact hhead.not_mem (by decide) hmem
      · exact absurd hopen (by decide)
      · exact hseparator hmem
      · exact absurd hclose (by decide)
    obtain ⟨d, htoken, hname, hnegated, hvalue⟩ : ∃ d,
        tokenize (word ++ '=' :: (modeName ++ '(' :: (argument ++ [')']))) = [d] ∧
          d.name = trim word ∧ d.negated = false ∧
          d.value = some (trim (modeName ++ '(' :: (argument ++ [')']))) := by
      have htoken := tokenize_keyed (Keyword.isHead hword) huncut false
      rw [hrestore] at htoken
      exact ⟨_, htoken, rfl, rfl, rfl⟩
    have hspelled : Keyword.ofName? d.name = some (.checkType, false) := by
      rw [hname, Keyword.ofName?_trim, hword]
    have hd : d.mode? = some (m, (items.map String.ofList)[0]?, (items.map String.ofList)[1]?) :=
      mode?_listed hvalue (trim_trim _) hhead hmode hlisted
    rw [parse_of_token rfl htoken (clears_of_keyword hspelled (by decide)),
      apply_of_keyword hspelled (by decide), hnegated, Rules.change?, ArrayRules.change?, hd]
    rfl

theorem ReadAs.quoted {items : List QuotedItem} (hne : items ≠ []) (h : ∀ i ∈ items, i.IsBare) :
    ReadAs ([','].intercalate (items.map (·.written))) (readQuoted items) := by
  have hboth : Balanced ([','].intercalate (items.map (·.written))) ∧
      unitSeparator ∉ [','].intercalate (items.map (·.written)) := by
    have hcomma : Balanced [','] := .of_no_paren (by decide) (by decide)
    refine intercalate_keeps (M := fun p => Balanced p ∧ unitSeparator ∉ p) ?_
      (by rwa [Ne, List.map_eq_nil_iff]) (List.forall_mem_map.mpr fun i hi => ?_)
    · rintro p q ⟨hp, hseparator⟩ ⟨hq, hseparator'⟩
      refine ⟨(hp.append hcomma).append hq, ?_⟩
      simp only [List.mem_append, List.mem_singleton, not_or]
      exact ⟨⟨hseparator, by decide⟩, hseparator'⟩
    · have hseparator := QuotedItem.not_mem_written (h i hi).quote (by decide)
        ((h i hi).text.not_mem (by decide) : unitSeparator ∉ i.text)
      exact ⟨(h i hi).written.1.balanced, hseparator⟩
  exact .of_listed hboth.1 hboth.2 (listed_quoted hne h)

theorem ReadAs.bare {ps : List (List Char)} (hne : ps ≠ []) (h : ∀ p ∈ ps, Bare p) :
    ReadAs ([','].intercalate ps) ps := by
  have hheld := held_intercalate (fun p hp => (h p hp).item) hne
  have hlisted := listed_of_items (fun p hp => (h p hp).item) hne
  exact .of_listed hheld.balanced hheld.separator (hlisted.read.symm ▸ hlisted)

/-! ## Quoting one by one -/

/-- **Quoting items one by one** changes nothing in calls, for names of properties and for the
parameters of modes, unless there are several items and the first and the last have quotes of one
kind: these two are taken for quotes around the list.  Nor does it change anything in blocks for
elements, unless their outer quotes are of one kind or one of several has only blanks between its
quotes: such a block is read, and it is passed over where it has no quotes. -/
theorem quoted_items_read {items : List QuotedItem} (hne : items ≠ []) :
    ((∀ i ∈ items, i.IsBare) →
      ReadAs ([','].intercalate (items.map (·.text))) (items.map (·.text)) ∧
      ReadAs ([','].intercalate (items.map (·.written))) (readQuoted items) ∧
      (readQuoted items = items.map (·.text) ↔ ¬ SameOuterQuotes items)) ∧
    ((∀ b ∈ items, b.IsBlock) →
      BuildsBlocks (['|'].intercalate (items.map (·.text))) (visibleBlocks (items.map (·.text))) ∧
      BuildsBlocks (['|'].intercalate (items.map (·.written))) (readBlocks items) ∧
      (readBlocks items = visibleBlocks (items.map (·.text)) ↔ ¬ SameOuterQuotes items ∧
        (items.length = 1 ∨ ∀ b ∈ items, trim b.text = [] → b.text = []))) := by
  have hsome : items.map (·.text) ≠ [] := by rwa [Ne, List.map_eq_nil_iff]
  refine ⟨fun h => ⟨?_, .quoted hne h, readQuoted_eq_iff hne⟩,
    fun h => ⟨?_, .quoted hne h, readBlocks_eq_iff hne h⟩⟩
  · exact .bare hsome (List.forall_mem_map.mpr fun i hi => (h i hi).text)
  · exact .bare hsome (List.forall_mem_map.mpr fun b hb => (h b hb).text)

/-- Two parameters and two blocks between quotes of both kinds. -/
theorem quoted_items_read_two_kinds :
    let items : List QuotedItem := [⟨'"', "3".toList⟩, ⟨'\'', "5".toList⟩]
    let blocks : List QuotedItem := [⟨'"', "number,min=1".toList⟩, ⟨'\'', "string".toList⟩]
    (items ≠ [] ∧ (∀ i ∈ items, i.IsBare) ∧ ¬ SameOuterQuotes items) ∧
    parse .array "checkType=first(\"3\",'5')".toList =
      some { rules := .array { mode := some .first, first := some "3", second := some "5" } } ∧
    (blocks ≠ [] ∧ (∀ b ∈ blocks, b.IsBlock) ∧ ¬ SameOuterQuotes blocks ∧
      ∀ b ∈ blocks, trim b.text ≠ []) ∧
    parse .array "each(\"number,min=1\"|'string')".toList =
      parse .array "each(number,min=1|string)".toList := by
  intro items blocks
  have hitems : items ≠ [] := List.cons_ne_nil _ _
  have hbare : ∀ i ∈ items, i.IsBare := by decide
  have hitemQuotes : ¬ SameOuterQuotes items :=
    (sameOuterQuotes_several _ _ []).not.mpr (by decide)
  have hblocks : blocks ≠ [] := List.cons_ne_nil _ _
  have hplain : ∀ b ∈ blocks, b.IsBlock := by decide
  have hblockQuotes : ¬ SameOuterQuotes blocks :=
    (sameOuterQuotes_several _ _ []).not.mpr (by decide)
  have hvisible : ∀ b ∈ blocks, trim b.text ≠ [] := by decide
  obtain ⟨-, hquoted, hsame⟩ := (quoted_items_read hitems).1 hbare
  obtain ⟨hbareBlocks, hquotedBlocks, hsameBlocks⟩ := (quoted_items_read hblocks).2 hplain
  have hword : Keyword.ofName? "checkType".toList = some (.checkType, false) := rfl
  have hfirst : Mode.ofName? "first".toList = some .first := rfl
  have hmode := hquoted.mode hword (isWord_mode .first).isHead hfirst
  rw [hsame.mpr hitemQuotes] at hmode
  have hread := hsameBlocks.mpr ⟨hblockQuotes, .inr fun b hb hnil => absurd hnil (hvisible b hb)⟩
  rw [hread] at hquotedBlocks
  refine ⟨⟨hitems, hbare, hitemQuotes⟩, hmode, ⟨hblocks, hplain, hblockQuotes, hvisible⟩, ?_⟩
  exact (hquotedBlocks "each".toList rfl).trans (hbareBlocks "each".toList rfl).symm

/-- Two names between quotes of one kind, and a block of blanks between quotes. -/
theorem equal_outer_quotes_kept :
    let items : List QuotedItem := [⟨'\'', ['a']⟩, ⟨'\'', ['b']⟩]
    (∀ i ∈ items, i.IsBare) ∧
    parse .object "hasProperties(a,b)".toList = some (.ofNames false ["a", "b"]) ∧
    parse .object "hasProperties('a','b')".toList = some (.ofNames false ["a'", "'b"]) ∧
    (parse .array "each( |number)".toList).map (·.directives) = some ["each(number)"] ∧
    (parse .array "each(' '|\"number\")".toList).map (·.directives) =
      some ["each(number|object)"] := by
  refine ⟨by decide, ?_, ?_, by decide +kernel, by decide +kernel⟩
  · rw [parse_eq_build]
    with_unfolding_all rfl
  · rw [parse_eq_build]
    with_unfolding_all rfl

end ShapeCheck
