import ShapeCheck.Proofs.RenderedRules
import ShapeCheck.Proofs.TypeBinding

/-!
# The directives of rules for arrays

What stands in the directives of rules for arrays and in no other ones: wanted elements, the mode
with its parameters, and the blocks for elements.

* `leads_contains`, `leads_mode` — wanted elements and modes lead back to themselves;
* `ElementBlock.ofArgument_entryTexts` — the blocks in the argument of `each` are read one by one;
* `ByType.setBlocks_entryBlocks` — together they set the constraints for elements again, if each
  block is parsed to its constraint.
-/

set_option autoImplicit false

namespace ShapeCheck

open Directive

/-! ## Wanted elements -/

theorem ArrayRules.leads_contains {nested : BlockParser} {side : TwoSided Value}
    (hliteral : ∀ v ∈ side.sides, v.IsLiteral)
    (hplain : ∀ s ∈ side.sides.flatMap Value.texts, IsPlain s)
    (hreads : ∀ x ∈ side.sides.flatMap Value.numbers, ReadsBack x)
    (put : TwoSided Value → ArrayRules Constraint)
    (hput : ∀ s s', { put s with contains := s' } = put s' ∧ (put s).contains = s) :
    Leads (ArrayRules.change? nested)
      (twoSidedText "contains" ⟨side.wanted.map Value.display, side.unwanted.map Value.display⟩)
      (put {}) (put side) := by
  have hplain' : ∀ v ∈ side.sides, ∀ s ∈ v.texts, IsPlain s :=
    fun v hv s hs => hplain s (List.mem_flatMap.mpr ⟨v, hv, hs⟩)
  have hreads' : ∀ v ∈ side.sides, ∀ x ∈ v.numbers, ReadsBack x :=
    fun v hv x hx => hreads x (List.mem_flatMap.mpr ⟨v, hv, hx⟩)
  refine Leads.twoSided (.of_word .contains (by decide)) put
    (fun v hv => Value.whole_display (hliteral v hv) (hplain' v hv)) fun v hv negated => ?_
  refine ⟨_, rfl, fun s => ?_⟩
  show { put s with contains := (put s).contains.set negated (Value.ofLiteral v.display.toList) } =
    put (s.set negated v)
  rw [(hput s _).1, (hput s s).2, Value.ofLiteral_display (hliteral v hv) (hplain' v hv)
    (hreads' v hv)]

/-! ## Modes -/

/-- A mode with its parameters as text. -/
def shownMode (m : Mode) (params : List String) : String :=
  if params.isEmpty then m.name else m.name ++ "(" ++ ",".intercalate params ++ ")"

theorem modeText_some (m : Mode) (first second : Option String) :
    modeText (some m) first second =
      ["checkType" ++ "=" ++ shownMode m (first.toList ++ second.toList)] := by
  have hkey : "checkType=" = "checkType" ++ "=" := by decide
  rw [modeText, shownMode, hkey]
  split
  · rfl
  · simp only [String.append_assoc]

theorem toList_shownMode (m : Mode) {params : List String} (hne : params ≠ []) :
    (shownMode m params).toList =
      m.name.toList ++ '(' :: ([','].intercalate (params.map String.toList) ++ [')']) := by
  have hempty : params.isEmpty = false := by rwa [List.isEmpty_eq_false_iff]
  rw [shownMode, hempty, if_neg Bool.false_ne_true]
  simp [String.toList_append, String.toList_intercalate]

section

variable {params : List String} (hplain : ∀ s ∈ params, IsPlain s)

include hplain

theorem whole_shownMode (m : Mode) : Whole (shownMode m params).toList := by
  rcases eq_or_ne params [] with rfl | hne
  · exact (isWord_mode m).whole
  · have hmap : params.map String.toList ≠ [] := by rwa [Ne, List.map_eq_nil_iff]
    have hheld := held_intercalate (item_of_mem_map_toList hplain) hmap
    rw [toList_shownMode m hne]
    exact (isWord_mode m).whole.append (.paren hheld.balanced hheld.separator)

theorem mode?_shownMode (m : Mode) (negated : Bool) (name : List Char) :
    (ofKeyed negated name (shownMode m params).toList).mode? = some (m, params[0]?, params[1]?) := by
  rcases eq_or_ne params [] with rfl | hne
  · exact mode?_ofKeyed_word m
  · rw [toList_shownMode m hne, mode?_ofKeyed_call hplain m hne]

end

theorem ArrayRules.change?_checkType {nested : BlockParser} {d : Directive} {m : Mode}
    {first second : Option String} (h : d.mode? = some (m, first, second)) :
    ArrayRules.change? nested .checkType false d =
      some fun r => { r with mode := some m, first := first, second := second } := by
  rw [ArrayRules.change?, if_neg Bool.false_ne_true, h]
  rfl

theorem ArrayRules.leads_mode {nested : BlockParser} {mode : Option Mode}
    {first second : Option String} (hfirst : mode = none → first = none)
    (hsecond : first = none → second = none)
    (hplain : ∀ s ∈ first.toList ++ second.toList, IsPlain s)
    (put : Option Mode → Option String → Option String → ArrayRules Constraint)
    (hput : ∀ m, { put none none none with mode := some m, first, second } =
      put (some m) first second) :
    Leads (ArrayRules.change? nested) (modeText mode first second) (put none none none)
      (put mode first second) := by
  cases mode with
  | none =>
    rw [hsecond (hfirst rfl), hfirst rfl]
    exact .nil
  | some m =>
    have hparams : (first.toList ++ second.toList)[0]? = first ∧
        (first.toList ++ second.toList)[1]? = second := by
      cases first with
      | none =>
        rw [hsecond rfl]
        exact ⟨rfl, rfl⟩
      | some _ => cases second <;> exact ⟨rfl, rfl⟩
    have hmode (name : List Char) :
        (ofKeyed false name (shownMode m (first.toList ++ second.toList)).toList).mode? =
          some (m, first, second) := by
      rw [mode?_shownMode hplain, hparams.1, hparams.2]
    rw [modeText_some, ← hput m]
    exact Leads.value (.of_word .checkType (by decide)) (whole_shownMode hplain m)
      (ArrayRules.change?_checkType (hmode _))

/-! ## Constraints without notes -/

mutual

/-- A constraint without notes and without directives that were not understood, at every depth. -/
def Constraint.bare : Constraint → Constraint
  | ⟨rules, _, _⟩ => ⟨bareRules rules, none, none⟩

/-- Rules whose constraints for elements are without notes. -/
def bareRules : Rules Constraint → Rules Constraint
  | .boolean => .boolean
  | .regex => .regex
  | .number r => .number r
  | .string r => .string r
  | .object r => .object r
  | .array r => .array (bareArray r)

/-- Rules for arrays whose constraints for elements are without notes. -/
def bareArray : ArrayRules Constraint → ArrayRules Constraint
  | ⟨minLength, maxLength, contains, elements, mode, first, second⟩ =>
    ⟨minLength, maxLength, contains, bareElements elements, mode, first, second⟩

/-- Constraints for elements without notes. -/
def bareElements : ByType Constraint → ByType Constraint
  | ⟨number, string, boolean, object, array, regex⟩ =>
    ⟨bareElement number, bareElement string, bareElement boolean, bareElement object,
      bareElement array, bareElement regex⟩

/-- The constraint for elements of a type without notes. -/
def bareElement : Option Constraint → Option Constraint
  | none => none
  | some c => some c.bare

end

theorem bareElement_eq (c : Option Constraint) : bareElement c = c.map Constraint.bare := by
  cases c <;> rfl

theorem get?_bareElements (m : ByType Constraint) (t : ValueType) :
    (bareElements m).get? t = (m.get? t).map Constraint.bare := by
  obtain ⟨number, string, boolean, object, array, regex⟩ := m
  cases t <;> first | rfl | exact bareElement_eq _

namespace ByType

variable {α : Type}

theorem ext_get? {m m' : ByType α} (h : ∀ t, m.get? t = m'.get? t) : m = m' := by
  obtain ⟨number, string, boolean, object, array, regex⟩ := m
  obtain ⟨number', string', boolean', object', array', regex'⟩ := m'
  obtain rfl : number = number' := h .number
  obtain rfl : string = string' := h .string
  obtain rfl : boolean = boolean' := h .boolean
  obtain rfl : object = object' := h .object
  obtain rfl : array = array' := h .array
  obtain rfl : regex = regex' := h .regex
  rfl

theorem get?_foldl_set (m : ByType α) (g : α → α) {u : ValueType} (hu : u ≠ .none) :
    ∀ (ts : List ValueType) (m₀ : ByType α),
      ((ts.filterMap fun t => (m.get? t).map (t, ·)).foldl (fun m e => m.set e.1 (g e.2)) m₀).get? u =
        if u ∈ ts then ((m.get? u).map g).or (m₀.get? u) else m₀.get? u
  | [], _ => (if_neg List.not_mem_nil).symm
  | t :: ts, m₀ => by
    have ih := get?_foldl_set m g hu ts
    rw [List.filterMap_cons]
    cases ht : m.get? t with
    | none =>
      rw [Option.map_none]
      dsimp only
      rw [ih]
      by_cases hut : u = t
      · subst hut
        rw [if_pos List.mem_cons_self, ht, Option.map_none, Option.none_or, ite_self]
      · simp only [List.mem_cons, hut, false_or]
    | some a =>
      rw [Option.map_some]
      dsimp only
      rw [List.foldl_cons, ih]
      by_cases hut : u = t
      · subst hut
        have hset : (m₀.set u (g a)).get? u = some (g a) := by rw [get?_set, if_pos ⟨rfl, hu⟩]
        rw [hset, if_pos List.mem_cons_self, ht, Option.map_some, Option.some_or, Option.some_or,
          ite_self]
      · have hset : (m₀.set t (g a)).get? u = m₀.get? u := by
          rw [get?_set, if_neg fun hand => hut hand.1]
        rw [hset]
        simp only [List.mem_cons, hut, false_or]

end ByType

theorem bareElements_eq_foldl (m : ByType Constraint) :
    m.toList.foldl (fun m e => m.set e.1 e.2.bare) {} = bareElements m := by
  refine ByType.ext_get? fun t => ?_
  rw [get?_bareElements]
  by_cases ht : t = .none
  · rw [ht]
    rfl
  · have hmem : t ∈ ByType.types := by
      cases t with
      | none => exact absurd rfl ht
      | _ => decide
    rw [ByType.toList, ByType.get?_foldl_set m Constraint.bare ht, if_pos hmem, ByType.get?_empty,
      Option.or_none]

/-! ## Blocks for elements -/

/-- The text of the constraint for elements of a type. -/
def entryText (e : ValueType × Constraint) : String :=
  ",".intercalate (e.1.name :: e.2.directives)

/-- The block that this text is read as. -/
def entryBlock (e : ValueType × Constraint) : ElementBlock :=
  ⟨(entryText e).toList, e.1, [','].intercalate (e.2.directives.map String.toList)⟩

theorem elementBlocks_eq (m : ByType Constraint) : elementBlocks m = m.toList.map entryText := by
  obtain ⟨number, string, boolean, object, array, regex⟩ := m
  have hblock : ∀ t c, elementBlock t c = (c.map (t, ·)).toList.map entryText := by
    intro t c
    cases c <;> rfl
  rw [elementBlocks, ByType.toList, List.filterMap_eq_flatMap_toList]
  simp only [hblock, ByType.types, ByType.get?, List.flatMap_cons, List.flatMap_nil,
    List.map_append, List.append_assoc, List.append_nil]

theorem isWord_type (t : ValueType) : IsWord t.name.toList := by
  cases t <;> exact .of_all (by decide)

theorem ofName_type (t : ValueType) : ValueType.ofName t.name.toList = t := by
  cases t <;> decide

/-- The directives of a constraint may stand between commas. -/
def WholeDirectives (c : Constraint) : Prop :=
  ∀ p ∈ c.directives.map String.toList, Whole p ∧ Unquoted p

theorem toList_entryText (e : ValueType × Constraint) :
    (entryText e).toList =
      [','].intercalate (e.1.name.toList :: e.2.directives.map String.toList) := by
  rw [entryText, String.toList_intercalate, List.map_cons]
  rfl

theorem cutAt?_entryText (e : ValueType × Constraint) : Text.cutAt? ',' (entryText e).toList =
    if e.2.directives = [] then none
    else some (e.1.name.toList, [','].intercalate (e.2.directives.map String.toList)) := by
  have hcomma : ',' ∉ e.1.name.toList := (isWord_type e.1).ne_of_mem (by decide)
  rw [toList_entryText]
  cases e.2.directives with
  | nil =>
    rw [List.map_nil, List.intercalate_singleton, Text.cutAt?_eq_none hcomma, if_pos rfl]
  | cons d ds =>
    rw [List.map_cons, List.intercalate_cons_cons, List.append_assoc, List.singleton_append,
      Text.cutAt?_append _ hcomma, if_neg (List.cons_ne_nil _ _)]

section

variable {e : ValueType × Constraint} (h : WholeDirectives e.2)

include h

theorem whole_entry :
    ∀ p ∈ e.1.name.toList :: e.2.directives.map String.toList, Whole p ∧ Unquoted p := by
  rw [List.forall_mem_cons]
  exact ⟨⟨(isWord_type e.1).whole, (isWord_type e.1).unquoted⟩, h⟩

theorem block_entryText : Block (entryText e).toList := by
  rw [toList_entryText]
  exact Block.intercalate (fun _ hc => absurd hc List.not_mem_nil) (List.cons_ne_nil _ _)
    fun p hp => (whole_entry h p hp).1

theorem unquoted_entryText : Unquoted (entryText e).toList := by
  rw [toList_entryText]
  exact Unquoted.intercalate [','] (List.cons_ne_nil _ _)
    fun p hp => ⟨(whole_entry h p hp).2, (whole_entry h p hp).1.nonempty⟩

end

theorem toList_entryTexts (entries : List (ValueType × Constraint)) :
    ("|".intercalate (entries.map entryText)).toList =
      ['|'].intercalate (entries.map fun e => (entryText e).toList) := by
  rw [String.toList_intercalate, List.map_map]
  rfl

theorem held_entryTexts {entries : List (ValueType × Constraint)} (hne : entries ≠ [])
    (h : ∀ e ∈ entries, WholeDirectives e.2) :
    Held ("|".intercalate (entries.map entryText)).toList ∧
      Unquoted ("|".intercalate (entries.map entryText)).toList := by
  have hmap : entries.map (fun e => (entryText e).toList) ≠ [] := by rwa [Ne, List.map_eq_nil_iff]
  have hblock : ∀ p ∈ entries.map fun e => (entryText e).toList, Block p ∧ Unquoted p := by
    intro p hp
    obtain ⟨e, he, rfl⟩ := List.mem_map.mp hp
    exact ⟨block_entryText (h e he), unquoted_entryText (h e he)⟩
  have hbar : Balanced ['|'] := .of_no_paren (by decide) (by decide)
  rw [toList_entryTexts]
  exact ⟨intercalate_keeps (fun p q hp hq => hp.around hq hbar (by decide)) hmap
      fun p hp => (hblock p hp).1.toHeld,
    Unquoted.intercalate ['|'] hmap fun p hp => ⟨(hblock p hp).2, (hblock p hp).1.nonempty⟩⟩

/-- **The blocks in the argument of `each` are read one by one.** -/
theorem ElementBlock.ofArgument_entryTexts {entries : List (ValueType × Constraint)}
    (hne : entries ≠ []) (h : ∀ e ∈ entries, WholeDirectives e.2) :
    ElementBlock.ofArgument (['|'].intercalate (entries.map fun e => (entryText e).toList)) =
      entries.map entryBlock := by
  have hparts : ∀ p ∈ entries.map fun e => (entryText e).toList,
      Uncut '|' 0 p ∧ depthAfter 0 p = 0 := by
    intro p hp
    obtain ⟨e, he, rfl⟩ := List.mem_map.mp hp
    have hblock := block_entryText (h e he)
    exact ⟨hblock.bar, hblock.balanced.depth 0⟩
  have hmap : entries.map (fun e => (entryText e).toList) ≠ [] := by rwa [Ne, List.map_eq_nil_iff]
  rw [ElementBlock.ofArgument, splitTopLevel_intercalate (by decide) (by decide) hmap hparts,
    List.filterMap_map, ← List.filterMap_eq_map]
  refine List.filterMap_congr fun e he => ?_
  have hblock := block_entryText (h e he)
  have hempty : (entryText e).toList.isEmpty = false := by
    rw [List.isEmpty_eq_false_iff]
    exact hblock.nonempty
  simp only [Function.comp_apply]
  rw [Text.trim_eq_self hblock.ends, Text.stripQuotes_eq_self (unquoted_entryText (h e he)), hempty,
    if_neg Bool.false_ne_true, cutAt?_entryText]
  by_cases hnone : e.2.directives = []
  · have hname : (entryText e).toList = e.1.name.toList := by
      rw [toList_entryText, hnone, List.map_nil, List.intercalate_singleton]
    rw [if_pos hnone, entryBlock, hnone]
    dsimp only
    rw [hname, ofName_type]
    rfl
  · rw [if_neg hnone, entryBlock]
    dsimp only
    rw [ofName_type]

/-- Blocks that are parsed to constraints without notes set these constraints. -/
theorem ByType.setBlocks_entryBlocks {nested : BlockParser} :
    ∀ {entries : List (ValueType × Constraint)} (m : ByType Constraint),
      (∀ e ∈ entries, (entryBlock e).constraint? nested = some e.2.bare) →
      m.setBlocks nested (entries.map entryBlock) =
        entries.foldl (fun m e => m.set e.1 e.2.bare) m
  | [], _, _ => rfl
  | e :: entries, m, h => by
    rw [List.forall_mem_cons] at h
    rw [List.map_cons, setBlocks_cons, h.1, Option.elim_some, List.foldl_cons]
    exact setBlocks_entryBlocks _ h.2

theorem ArrayRules.change?_each (nested : BlockParser) {d : Directive} {raw : List Char}
    (h : d.argumentText? = some raw) : ArrayRules.change? nested .each false d =
      some fun r => { r with
        elements := r.elements.setBlocks nested (ElementBlock.ofArgument raw) } := by
  have hmap : ArrayRules.change? nested .each false d =
      d.argumentText?.map fun raw r =>
        { r with elements := r.elements.setBlocks nested (ElementBlock.ofArgument raw) } := rfl
  rw [hmap, h]
  rfl

/-- **The text of the constraints for elements leads to rules with these constraints**, without
their notes, if the block of each is parsed to it. -/
theorem ArrayRules.leads_each {nested : BlockParser} {elements : ByType Constraint}
    (h : ∀ e ∈ elements.toList, WholeDirectives e.2 ∧
      (entryBlock e).constraint? nested = some e.2.bare)
    (put : ByType Constraint → ArrayRules Constraint)
    (hput : ∀ m, { put {} with elements := m } = put m) (hempty : (put {}).elements = {}) :
    Leads (ArrayRules.change? nested) (eachText (elementBlocks elements)) (put {})
      (put (bareElements elements)) := by
  rw [elementBlocks_eq, ← bareElements_eq_foldl, eachText]
  generalize elements.toList = entries at h
  rcases eq_or_ne entries [] with rfl | hne
  · exact .nil
  · have hisEmpty : (entries.map entryText).isEmpty = false := by
      rwa [List.isEmpty_eq_false_iff, Ne, List.map_eq_nil_iff]
    have hkey : "each(" = "each" ++ "(" := by decide
    have hspelled : Spells "each" "each".toList false .each := .of_word .each (by decide)
    have hargumentText : (ofCall false "each".toList
        ("|".intercalate (entries.map entryText)).toList).argumentText? =
        some ("|".intercalate (entries.map entryText)).toList := rfl
    obtain ⟨hheld, hquote⟩ := held_entryTexts hne fun e he => (h e he).1
    have hcall := Leads.call hspelled hheld hquote (r := put {})
      (ArrayRules.change?_each nested hargumentText)
    rw [hisEmpty, if_neg Bool.false_ne_true, hkey]
    rw [hput, hempty, toList_entryTexts,
      ElementBlock.ofArgument_entryTexts hne fun e he => (h e he).1,
      ByType.setBlocks_entryBlocks {} fun e he => (h e he).2] at hcall
    exact hcall

/-! ## Rules for arrays -/

/-- **The directives of rules for arrays lead to these rules without notes**, if the blocks for
elements are parsed to the constraints for elements. -/
theorem ArrayRules.leads_directives {nested : BlockParser} {r : ArrayRules Constraint}
    (hbuilt : r.Built) (hplain : ∀ s ∈ (Rules.array r).texts, IsPlain s)
    (hreads : ∀ x ∈ (Rules.array r).numbers, ReadsBack x)
    (helements : ∀ e ∈ r.elements.toList, WholeDirectives e.2 ∧
      (entryBlock e).constraint? nested = some e.2.bare) :
    Leads (ArrayRules.change? nested) (arrayDirectives r) {} (bareArray r) := by
  obtain ⟨minLength, maxLength, contains, elements, mode, first, second⟩ := r
  have htexts : ∀ s ∈ contains.sides.flatMap Value.texts, IsPlain s :=
    fun s hs => hplain s (List.mem_append_left _ (List.mem_append_left _ hs))
  have hparams : ∀ s ∈ first.toList ++ second.toList, IsPlain s := by
    intro s hs
    refine hplain s ?_
    rw [Rules.texts, List.append_assoc]
    exact List.mem_append_right _ hs
  have hmin : Leads (ArrayRules.change? nested) (keyedText "minLength" (minLength.map lengthText))
      {} { minLength } :=
    .length (.of_word .minLength (by decide)) hbuilt.minLength
      (fun minLength => ({ minLength } : ArrayRules Constraint))
      fun _ _ hn => ⟨_, congrArg (Option.map _) hn, rfl⟩
  have hmax : Leads (ArrayRules.change? nested) (keyedText "maxLength" (maxLength.map lengthText))
      { minLength } { minLength, maxLength } :=
    .length (.of_word .maxLength (by decide)) hbuilt.maxLength
      (fun maxLength => ({ minLength, maxLength } : ArrayRules Constraint))
      fun _ _ hn => ⟨_, congrArg (Option.map _) hn, rfl⟩
  have hcontains : Leads (ArrayRules.change? nested) _ { minLength, maxLength }
      { minLength, maxLength, contains } :=
    leads_contains hbuilt.contains htexts hreads
      (fun contains => { minLength, maxLength, contains }) fun _ _ => ⟨rfl, rfl⟩
  have heach : Leads (ArrayRules.change? nested) (eachText (elementBlocks elements))
      { minLength, maxLength, contains }
      { minLength, maxLength, contains, elements := bareElements elements } :=
    leads_each helements (fun elements => { minLength, maxLength, contains, elements })
      (fun _ => rfl) rfl
  have hmode : Leads (ArrayRules.change? nested) (modeText mode first second)
      { minLength, maxLength, contains, elements := bareElements elements }
      ⟨minLength, maxLength, contains, bareElements elements, mode, first, second⟩ :=
    leads_mode hbuilt.first hbuilt.second hparams
      (ArrayRules.mk minLength maxLength contains (bareElements elements)) fun _ => rfl
  exact (((hmin.append hmax).append hcontains).append heach).append hmode

end ShapeCheck
