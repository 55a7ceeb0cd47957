import Mathlib.Data.Bool.AllAny
import ShapeCheck.Proofs.QuotedTexts
import ShapeCheck.Proofs.WrittenArguments

/-!
# Blocks for elements

The blocks of an argument stand between bars, and each may stand between quotes of its own.

* `ElementBlock.key` — what is built from a block, which may have blanks at its ends;
* `BuildsBlocks.bare` — blocks without quotes are built one by one, and blank ones are passed over;
* `BuildsBlocks.quoted` — so are the texts that are read between quotes, but of several blocks only
  empty ones are passed over;
* `readBlocks_eq_iff` — when these are the same blocks.
-/

set_option autoImplicit false

namespace ShapeCheck

open Directive Text

/-! ## What a block is built from -/

/-- The block of a text: a type name, and directives behind the first comma. -/
def ElementBlock.ofText (text : List Char) : ElementBlock :=
  match cutAt? ',' text with
  | some (typeName, rest) => ⟨text, .ofName typeName, rest⟩
  | none => ⟨text, .ofName text, []⟩

/-- What a block for elements is built from. -/
def ElementBlock.key (b : ElementBlock) : ValueType × List Directive :=
  (b.valueType, tokenize b.rest)

/-- What a part between bars is built from, if it is not empty. -/
def partKey? (part : List Char) : Option (ValueType × List Directive) :=
  if stripQuotes (trim part) = [] then none
  else some (ElementBlock.ofText (stripQuotes (trim part))).key

theorem map_key_ofArgument (raw : List Char) :
    (ElementBlock.ofArgument raw).map (·.key) = (splitTopLevel '|' raw).filterMap partKey? := by
  rw [ElementBlock.ofArgument, List.map_filterMap]
  refine List.filterMap_congr fun part _ => ?_
  rw [partKey?, ElementBlock.ofText]
  dsimp only
  simp only [List.isEmpty_iff]
  split
  · rfl
  · cases cutAt? ',' (stripQuotes (trim part)) <;> rfl

theorem ByType.setBlocks_of_keys (m : ByType Constraint) {blocks blocks' : List ElementBlock}
    (h : blocks.map (·.key) = blocks'.map (·.key)) :
    m.setBlocks parse blocks = m.setBlocks parse blocks' := by
  have hkeys : ∀ blocks : List ElementBlock, m.setBlocks parse blocks =
      (blocks.map (·.key)).foldl
        (fun m key => (build key.1 key.2 <|> Constraint.initial? key.1).elim m (m.set key.1)) m := by
    intro blocks
    rw [List.foldl_map]
    refine List.foldl_ext _ _ m fun m b _ => ?_
    rw [ElementBlock.constraint?, parse_eq_build, ElementBlock.key]
    cases build b.valueType (tokenize b.rest) <|> Constraint.initial? b.valueType <;> rfl
  rw [hkeys, hkeys, h]

theorem key_ofText_trim (text : List Char) :
    (ElementBlock.ofText (trim text)).key = (ElementBlock.ofText text).key := by
  by_cases hcomma : ',' ∈ text
  · obtain ⟨typeName, rest, rfl, hfree⟩ := List.eq_append_cons_of_mem hcomma
    have hstart : ',' ∉ trimStart typeName :=
      fun hmem => hfree ((trimStart_sublist typeName).subset hmem)
    rw [trim_append_cons (by decide), ElementBlock.ofText, cutAt?_append _ hstart,
      ElementBlock.ofText, cutAt?_append _ hfree]
    dsimp only [ElementBlock.key]
    rw [ValueType.ofName, trim_trimStart, tokenize, trim_trimEnd, ValueType.ofName, tokenize]
  · have htrim : ',' ∉ trim text := fun hmem => hcomma ((trim_sublist text).subset hmem)
    rw [ElementBlock.ofText, cutAt?_eq_none htrim, ElementBlock.ofText, cutAt?_eq_none hcomma]
    dsimp only [ElementBlock.key]
    rw [ValueType.ofName, trim_trim, ValueType.ofName]

theorem partKey?_trim (part : List Char) : partKey? (trim part) = partKey? part := by
  rw [partKey?, trim_trim, partKey?]

theorem partKey?_of_kept {part : List Char} (h : stripQuotes (trim part) = trim part) :
    partKey? part = if trim part = [] then none else some (ElementBlock.ofText part).key := by
  rw [partKey?, h, key_ofText_trim]

/-- A text without quotes, parentheses and bars. -/
def PlainBlock (text : List Char) : Prop := ∀ c ∈ text, c ∉ ['"', '\'', '(', ')', '|']

instance (text : List Char) : Decidable (PlainBlock text) :=
  decidable_of_iff (text.all (· ∉ ['"', '\'', '(', ')', '|']) = true) List.all_iff_forall_prop

namespace PlainBlock

variable {text : List Char} (h : PlainBlock text)

include h

theorem not_mem {c : Char} (hc : c ∈ ['"', '\'', '(', ')', '|']) : c ∉ text :=
  fun hmem => h c hmem hc

theorem balanced : Balanced text :=
  .of_no_paren (h.not_mem (by decide)) (h.not_mem (by decide))

theorem uncut : Uncut '|' 0 text ∧ depthAfter 0 text = 0 :=
  ⟨uncut_of_not_mem (h.not_mem (by decide)), h.balanced.depth 0⟩

theorem restore : PlainBlock (restore text) := by
  intro c hc hreserved
  obtain ⟨d, hd, rfl⟩ := List.mem_map.mp hc
  split at hreserved
  · exact absurd hreserved (by decide)
  · exact h d hd hreserved

/-- Without quotes a block is passed over if it is blank. -/
theorem partKey?_eq :
    partKey? text = if trim text = [] then none else some (ElementBlock.ofText text).key := by
  have htrim : ∀ {c : Char}, c ∈ ['"', '\'', '(', ')', '|'] → c ∉ trim text :=
    fun hc hmem => h.not_mem hc ((trim_sublist text).subset hmem)
  have hquote : Unquoted (trim text) := .of_not_mem (htrim (by decide)) (htrim (by decide))
  exact partKey?_of_kept (stripQuotes_eq_self hquote)

end PlainBlock

/-- A block between quotes of its own. -/
structure QuotedItem.IsBlock (b : QuotedItem) : Prop where
  quote : b.quote = '"' ∨ b.quote = '\''
  text : PlainBlock b.text

instance (b : QuotedItem) : Decidable b.IsBlock :=
  decidable_of_iff ((b.quote = '"' ∨ b.quote = '\'') ∧ PlainBlock b.text)
    ⟨fun ⟨quote, text⟩ => ⟨quote, text⟩, fun h => ⟨h.quote, h.text⟩⟩

namespace QuotedItem.IsBlock

variable {b : QuotedItem} (h : b.IsBlock)

include h

theorem balanced : Balanced b.written := balanced_written h.quote h.text.balanced

/-- Between its quotes a block is passed over if it is empty, and not if it is blank. -/
theorem written : (Uncut '|' 0 b.written ∧ depthAfter 0 b.written = 0) ∧
    partKey? b.written = if b.text = [] then none else some (ElementBlock.ofText b.text).key := by
  have hbar := not_mem_written h.quote (by decide) (h.text.not_mem (by decide) : '|' ∉ b.text)
  refine ⟨⟨uncut_of_not_mem hbar, h.balanced.depth 0⟩, ?_⟩
  rw [partKey?, stripQuotes_written h.quote]

theorem closed : (Uncut '|' 0 (b.text ++ [b.quote]) ∧ depthAfter 0 (b.text ++ [b.quote]) = 0) ∧
    partKey? (b.text ++ [b.quote]) = some (ElementBlock.ofText (b.text ++ [b.quote])).key := by
  have hbar : '|' ∉ b.text ++ [b.quote] := by
    rw [List.mem_append, List.mem_singleton, not_or]
    exact ⟨h.text.not_mem (by decide), ne_of_quote h.quote (by decide)⟩
  have hbalanced : Balanced (b.text ++ [b.quote]) :=
    h.text.balanced.append (balanced_of_quote h.quote)
  have hvisible : trim (b.text ++ [b.quote]) ≠ [] := by
    rw [show trim (b.text ++ [b.quote]) = _ from
      trim_append_cons (isBlank_of_quote h.quote) b.text []]
    exact List.append_ne_nil_of_right_ne_nil _ (List.cons_ne_nil _ _)
  refine ⟨⟨uncut_of_not_mem hbar, hbalanced.depth 0⟩, ?_⟩
  rw [partKey?_of_kept (stripQuotes_closed h.quote (h.text.not_mem (by decide))
    (h.text.not_mem (by decide))), if_neg hvisible]

theorem opened : (Uncut '|' 0 (b.quote :: b.text) ∧ depthAfter 0 (b.quote :: b.text) = 0) ∧
    partKey? (b.quote :: b.text) = some (ElementBlock.ofText (b.quote :: b.text)).key := by
  have hbar : '|' ∉ b.quote :: b.text := by
    rw [List.mem_cons, not_or]
    exact ⟨ne_of_quote h.quote (by decide), h.text.not_mem (by decide)⟩
  have hbalanced : Balanced (b.quote :: b.text) :=
    (balanced_of_quote h.quote).append h.text.balanced
  have hvisible : trim (b.quote :: b.text) ≠ [] := by
    rw [show trim (b.quote :: b.text) = _ from
      trim_append_cons (isBlank_of_quote h.quote) [] b.text]
    exact List.append_ne_nil_of_right_ne_nil _ (List.cons_ne_nil _ _)
  refine ⟨⟨uncut_of_not_mem hbar, hbalanced.depth 0⟩, ?_⟩
  rw [partKey?_of_kept (stripQuotes_opened h.quote (h.text.not_mem (by decide))
    (h.text.not_mem (by decide))), if_neg hvisible]

end QuotedItem.IsBlock

/-! ## Which blocks are read -/

/-- The texts of blocks that are not blank. -/
def visibleBlocks (texts : List (List Char)) : List (List Char) := texts.filter (trim · ≠ [])

/-- The texts that are read of quoted blocks: a single one if it is not blank, and of several all
that are not empty. -/
def readBlocks : List QuotedItem → List (List Char)
  | [single] => visibleBlocks [single.text]
  | items => (readQuoted items).filter (· ≠ [])

theorem readBlocks_several (first last : QuotedItem) (middle : List QuotedItem) :
    readBlocks (first :: (middle ++ [last])) =
      (readQuoted (first :: (middle ++ [last]))).filter (· ≠ []) := by
  cases middle <;> rfl

/-- **The blocks are those between the quotes** unless the first and the last of several have quotes
of one kind, or one of several is blank and not empty. -/
theorem readBlocks_eq_iff {items : List QuotedItem} (hne : items ≠ [])
    (h : ∀ b ∈ items, b.IsBlock) :
    readBlocks items = visibleBlocks (items.map (·.text)) ↔
      ¬ SameOuterQuotes items ∧
        (items.length = 1 ∨ ∀ b ∈ items, trim b.text = [] → b.text = []) := by
  rcases exists_first_last hne with ⟨single, rfl⟩ | ⟨first, middle, last, rfl⟩
  · exact iff_of_true rfl ⟨not_sameOuterQuotes_single single, .inl rfl⟩
  · have hlength : (first :: (middle ++ [last])).length ≠ 1 := by simp
    rw [readBlocks_several, or_iff_right hlength]
    by_cases hsame : SameOuterQuotes (first :: (middle ++ [last]))
    · refine iff_of_false (fun heq => ?_) fun hboth => hboth.1 hsame
      -- the first text is read with its quote, and no text has one
      have hread : first.text ++ [first.quote] ∈
          (readQuoted (first :: (middle ++ [last]))).filter (· ≠ []) := by
        rw [readQuoted_several, if_pos ((sameOuterQuotes_several _ _ _).mp hsame)]
        exact List.mem_filter.mpr ⟨List.mem_cons_self, by simp⟩
      rw [heq] at hread
      obtain ⟨b, hb, htext⟩ := List.mem_map.mp (List.mem_filter.mp hread).1
      have hquote : first.quote ∈ b.text := by rw [htext]; simp
      have hreserved : first.quote ∈ ['"', '\'', '(', ')', '|'] := by
        rcases (h first List.mem_cons_self).quote with hq | hq <;> rw [hq] <;> decide
      exact (h b hb).text.not_mem hreserved hquote
    · rw [(readQuoted_eq_iff hne).mpr hsame, and_iff_right hsame, visibleBlocks]
      constructor
      · intro heq b hb hblank
        by_contra hempty
        have hread : b.text ∈
            ((first :: (middle ++ [last])).map (·.text)).filter (· ≠ []) :=
          List.mem_filter.mpr ⟨List.mem_map_of_mem hb, decide_eq_true hempty⟩
        rw [heq] at hread
        exact of_decide_eq_true (List.mem_filter.mp hread).2 hblank
      · intro hblank
        refine List.filter_congr fun text htext => ?_
        obtain ⟨b, hb, rfl⟩ := List.mem_map.mp htext
        rw [decide_eq_decide, not_iff_not]
        exact ⟨fun hempty => by rw [hempty]; rfl, hblank b hb⟩

theorem filterMap_keys (keep : List Char → Prop) [DecidablePred keep] (texts : List (List Char)) :
    (texts.filterMap fun text =>
      if keep text then none else some (ElementBlock.ofText text).key) =
      (texts.filter (¬ keep ·)).map fun text => (ElementBlock.ofText text).key := by
  rw [← List.filterMap_eq_map, List.filterMap_filter]
  refine List.filterMap_congr fun text _ => ?_
  by_cases hkeep : keep text <;> simp [hkeep]

theorem map_key_bare {texts : List (List Char)} (hne : texts ≠ [])
    (h : ∀ text ∈ texts, PlainBlock text) :
    (ElementBlock.ofArgument (stripQuotes (trim (['|'].intercalate texts)))).map (·.key) =
      (visibleBlocks texts).map fun text => (ElementBlock.ofText text).key := by
  have hquote : Unquoted (trim (['|'].intercalate texts)) := by
    have hfree : '"' ∉ ['|'].intercalate texts ∧ '\'' ∉ ['|'].intercalate texts := by
      refine intercalate_keeps (M := fun p => '"' ∉ p ∧ '\'' ∉ p) (fun p q hp hq => ?_) hne
        fun text htext => ⟨(h text htext).not_mem (by decide), (h text htext).not_mem (by decide)⟩
      simp only [List.mem_append, List.mem_singleton, not_or]
      exact ⟨⟨⟨hp.1, by decide⟩, hq.1⟩, ⟨⟨hp.2, by decide⟩, hq.2⟩⟩
    exact .of_not_mem (fun hmem => hfree.1 ((trim_sublist _).subset hmem))
      fun hmem => hfree.2 ((trim_sublist _).subset hmem)
  rw [stripQuotes_eq_self hquote, map_key_ofArgument,
    filterMap_splitTopLevel_trim (by decide) partKey?_trim,
    splitTopLevel_intercalate (by decide) (by decide) hne fun text htext => (h text htext).uncut,
    List.filterMap_congr fun text htext => (h text htext).partKey?_eq, filterMap_keys (trim · = [])]
  rfl

theorem filterMap_written {items : List QuotedItem} (h : ∀ b ∈ items, b.IsBlock) :
    (items.map (·.written)).filterMap partKey? =
      ((items.map (·.text)).filter (· ≠ [])).map fun text => (ElementBlock.ofText text).key := by
  have hkeys := filterMap_keys (· = []) (items.map (·.text))
  rw [List.filterMap_map] at hkeys ⊢
  exact (List.filterMap_congr fun b hb => (h b hb).written.2).trans hkeys

theorem map_key_quoted {blocks : List QuotedItem} (hne : blocks ≠ [])
    (h : ∀ b ∈ blocks, b.IsBlock) :
    (ElementBlock.ofArgument
        (stripQuotes (trim (['|'].intercalate (blocks.map (·.written)))))).map (·.key) =
      (readBlocks blocks).map fun text => (ElementBlock.ofText text).key := by
  rcases exists_first_last hne with ⟨single, rfl⟩ | ⟨first, middle, last, rfl⟩
  · have hsingle := h single List.mem_cons_self
    have hkeys := filterMap_keys (trim · = []) [single.text]
    rw [List.map_singleton, List.intercalate_singleton,
      QuotedItem.stripQuotes_written hsingle.quote, map_key_ofArgument, splitTopLevel,
      splitFrom_of_uncut hsingle.text.uncut.1, List.filterMap_congr (l := [single.text])
        fun _ htext => (List.mem_singleton.mp htext ▸ hsingle.text : PlainBlock _).partKey?_eq]
    exact hkeys
  · obtain ⟨hfirst, hrest⟩ := List.forall_mem_cons.mp h
    obtain ⟨hmiddle, hlast⟩ := List.forall_mem_append.mp hrest
    replace hlast := hlast last List.mem_cons_self
    rw [stripQuotes_joined hfirst.quote hlast.quote, map_key_ofArgument, readBlocks_several,
      readQuoted_several]
    split
    · have hparts : ∀ p ∈ innerParts first last middle,
          Uncut '|' 0 p ∧ depthAfter 0 p = 0 := by
        refine List.forall_mem_cons.mpr ⟨hfirst.closed.1, List.forall_mem_append.mpr ⟨?_, ?_⟩⟩
        · exact List.forall_mem_map.mpr fun b hb => (hmiddle b hb).written.1
        · exact List.forall_mem_singleton.mpr hlast.opened.1
      have hsome : innerParts first last middle ≠ [] := List.cons_ne_nil _ _
      rw [splitTopLevel_intercalate (by decide) (by decide) hsome hparts,
        innerParts, List.filterMap_cons, hfirst.closed.2, List.filterMap_append,
        filterMap_written hmiddle, List.filterMap_cons, hlast.opened.2]
      simp
    · have hparts : ∀ p ∈ (first :: (middle ++ [last])).map (·.written),
          Uncut '|' 0 p ∧ depthAfter 0 p = 0 :=
        List.forall_mem_map.mpr fun b hb => (h b hb).written.1
      have hsome : (first :: (middle ++ [last])).map (·.written) ≠ [] := List.cons_ne_nil _ _
      rw [splitTopLevel_intercalate (by decide) (by decide) hsome hparts, filterMap_written h]

/-! ## Commas that were set aside -/

theorem restore_quote {q : Char} (hq : q = '"' ∨ q = '\'') : restore [q] = [q] := by
  rcases hq with rfl | rfl <;> rfl

theorem restore_intercalate {mark : Char} (hmark : mark ≠ unitSeparator) :
    ∀ ps : List (List Char), restore ([mark].intercalate ps) = [mark].intercalate (ps.map restore)
  | [] => rfl
  | [p] => by rw [List.intercalate_singleton, List.map_singleton, List.intercalate_singleton]
  | p :: p' :: ps => by
    have ih := restore_intercalate hmark (p' :: ps)
    have hne : (p' :: ps).map restore ≠ [] := List.cons_ne_nil _ _
    have hself : restore (mark :: [mark].intercalate (p' :: ps)) =
        mark :: restore ([mark].intercalate (p' :: ps)) := by
      rw [restore, List.map_cons, if_neg hmark, ← restore]
    rw [intercalate_cons p (List.cons_ne_nil p' ps), restore_append, hself, ih,
      ← intercalate_cons _ hne]
    rfl

theorem visibleBlocks_restore (texts : List (List Char)) :
    visibleBlocks (texts.map restore) = (visibleBlocks texts).map restore := by
  rw [visibleBlocks, List.filter_map, visibleBlocks]
  refine congrArg _ (List.filter_congr fun text _ => ?_)
  rw [Function.comp_apply, ← restore_trim, decide_eq_decide, Ne, restore_eq_nil_iff]

/-- The block as it is once its commas were set aside and restored. -/
def QuotedItem.restored (b : QuotedItem) : QuotedItem := { b with text := restore b.text }

section

variable {items : List QuotedItem} (h : ∀ b ∈ items, b.IsBlock)

include h

theorem isBlock_restored : ∀ b ∈ items.map (·.restored), b.IsBlock :=
  List.forall_mem_map.mpr fun b hb => ⟨(h b hb).quote, (h b hb).text.restore⟩

theorem written_restored : (items.map (·.restored)).map (·.written) =
    (items.map (·.written)).map restore := by
  rw [List.map_map, List.map_map]
  refine List.map_congr_left fun b hb => ?_
  have hquote := restore_quote (h b hb).quote
  show [b.quote] ++ restore b.text ++ [b.quote] = restore ([b.quote] ++ b.text ++ [b.quote])
  rw [restore_append, restore_append, hquote]

theorem readQuoted_restored (hne : items ≠ []) :
    readQuoted (items.map (·.restored)) = (readQuoted items).map restore := by
  rcases exists_first_last hne with ⟨single, rfl⟩ | ⟨first, middle, last, rfl⟩
  · rfl
  · have hfirst := restore_quote (h first List.mem_cons_self).quote
    have hlast := restore_quote (h last (by simp)).quote
    have htexts : ∀ is : List QuotedItem,
        (is.map (·.restored)).map (·.text) = (is.map (·.text)).map restore := fun is => by
      rw [List.map_map, List.map_map]
      rfl
    have hclosed : restore (first.text ++ [first.quote]) = restore first.text ++ [first.quote] := by
      rw [restore_append, hfirst]
    have hopened : restore (last.quote :: last.text) = last.quote :: restore last.text := by
      rw [← List.singleton_append, restore_append, hlast, List.singleton_append]
    have hall := htexts (first :: (middle ++ [last]))
    rw [List.map_cons, List.map_append, List.map_singleton] at hall ⊢
    rw [readQuoted_several, readQuoted_several]
    by_cases hsame : first.quote = last.quote
    · have hsame' : first.restored.quote = last.restored.quote := hsame
      rw [if_pos hsame, if_pos hsame', htexts, List.map_cons, List.map_append, List.map_singleton,
        hclosed, hopened]
      rfl
    · have hdiffer : ¬ first.restored.quote = last.restored.quote := hsame
      rw [if_neg hsame, if_neg hdiffer, hall]

theorem readBlocks_restored (hne : items ≠ []) :
    readBlocks (items.map (·.restored)) = (readBlocks items).map restore := by
  rcases exists_first_last hne with ⟨single, rfl⟩ | ⟨first, middle, last, rfl⟩
  · exact visibleBlocks_restore [single.text]
  · have hread := readQuoted_restored h hne
    rw [List.map_cons, List.map_append, List.map_singleton] at hread ⊢
    rw [readBlocks_several, hread, readBlocks_several, List.filter_map]
    refine congrArg _ (List.filter_congr fun text _ => ?_)
    rw [Function.comp_apply, decide_eq_decide, Ne, restore_eq_nil_iff]

end

/-! ## Directives for elements -/

theorem apply_of_each {d : Directive} {implied : Bool}
    (hname : Keyword.ofName? d.name = some (.each, implied)) (hnegated : d.negated = implied)
    {raw : List Char} (hargument : d.argumentText? = some raw) (nested : BlockParser)
    {c : Constraint} {r : ArrayRules Constraint} (hrules : c.rules = .array r) :
    c.apply nested .array d = { c with
      rules := .array
        { r with elements := r.elements.setBlocks nested (ElementBlock.ofArgument raw) } } := by
  rw [apply_of_keyword hname (by decide), hnegated, bne_self_eq_false, Rules.change?,
    ArrayRules.change?, hargument, hrules]
  rfl

section

variable {word argument : List Char} (hword : Keyword.ofName? word = some (.each, false))
  (hargument : Balanced argument)

include hword hargument

theorem tokenize_each : ∃ d, tokenize (word ++ '(' :: (argument ++ [')'])) = [d] ∧
    d.clears = false ∧ Keyword.ofName? d.name = some (.each, false) ∧ d.negated = false ∧
      d.argumentText? = some (stripQuotes (trim (restore argument))) := by
  have hname : Keyword.ofName? (trim word) = some (.each, false) :=
    (Keyword.ofName?_trim word).trans hword
  exact ⟨_, tokenize_call (Keyword.isHead hword) hargument false,
    clears_of_keyword hname (by decide), hname, rfl, rfl⟩

theorem parse_each : parse .array (word ++ '(' :: (argument ++ [')'])) = some {
    rules := .array {
      elements := ByType.setBlocks parse {}
        (ElementBlock.ofArgument (stripQuotes (trim (restore argument)))) } } := by
  obtain ⟨d, htoken, hclear, hname, hnegated, hraw⟩ := tokenize_each hword hargument
  rw [parse_of_token rfl htoken hclear, apply_of_each hname hnegated hraw parse rfl]

end

/-! ## What blocks mean -/

/-- The constraint for arrays that blocks for elements build. -/
def Constraint.ofBlocks (texts : List (List Char)) : Constraint :=
  { rules := .array { elements := ByType.setBlocks parse {} (texts.map .ofText) } }

/-- An argument builds what the texts of its blocks build, with their commas restored. -/
def BuildsBlocks (argument : List Char) (texts : List (List Char)) : Prop :=
  ∀ word, Keyword.ofName? word = some (.each, false) →
    parse .array (word ++ '(' :: (argument ++ [')'])) = some (.ofBlocks (texts.map restore))

theorem BuildsBlocks.of_keys {argument : List Char} {texts : List (List Char)}
    (hbalanced : Balanced argument)
    (hkeys : (ElementBlock.ofArgument (stripQuotes (trim (restore argument)))).map (·.key) =
      (texts.map restore).map fun text => (ElementBlock.ofText text).key) :
    BuildsBlocks argument texts := by
  intro word hword
  have hset : ByType.setBlocks parse {}
        (ElementBlock.ofArgument (stripQuotes (trim (restore argument)))) =
      ByType.setBlocks parse {} ((texts.map restore).map .ofText) := by
    refine ByType.setBlocks_of_keys {} (hkeys.trans ?_)
    simp only [List.map_map, Function.comp_def]
  rw [parse_each hword hbalanced, Constraint.ofBlocks, hset]

theorem balanced_blocks {texts : List (List Char)} (hne : texts ≠ [])
    (h : ∀ text ∈ texts, Balanced text) : Balanced (['|'].intercalate texts) := by
  have hbar : Balanced ['|'] := .of_no_paren (by decide) (by decide)
  exact intercalate_keeps (fun p q hp hq => (hp.append hbar).append hq) hne h

theorem BuildsBlocks.bare {texts : List (List Char)} (hne : texts ≠ [])
    (h : ∀ text ∈ texts, PlainBlock text) :
    BuildsBlocks (['|'].intercalate texts) (visibleBlocks texts) := by
  refine .of_keys (balanced_blocks hne fun text htext => (h text htext).balanced) ?_
  rw [restore_intercalate (by decide), map_key_bare (by rwa [Ne, List.map_eq_nil_iff])
    (List.forall_mem_map.mpr fun text htext => (h text htext).restore), visibleBlocks_restore]

theorem BuildsBlocks.quoted {items : List QuotedItem} (hne : items ≠ [])
    (h : ∀ b ∈ items, b.IsBlock) :
    BuildsBlocks (['|'].intercalate (items.map (·.written))) (readBlocks items) := by
  refine .of_keys (balanced_blocks (by rwa [Ne, List.map_eq_nil_iff])
    (List.forall_mem_map.mpr fun b hb => (h b hb).balanced)) ?_
  rw [restore_intercalate (by decide), ← written_restored h,
    map_key_quoted (by rwa [Ne, List.map_eq_nil_iff]) (isBlock_restored h),
    readBlocks_restored h hne]

end ShapeCheck
