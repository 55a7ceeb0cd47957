import ShapeCheck.Proofs.Leads
import ShapeCheck.Proofs.ReadBack

/-!
# The directives of flat rules

The directives of rules for numbers, texts and objects lead back to these rules:
`NumberRules.leads_directives`, `StringRules.leads_directives` and `ObjectRules.leads_directives`.
Each is the chain of the texts of its rules, in the order in which they are written.
-/

set_option autoImplicit false

namespace ShapeCheck

open Directive

/-! ## Lengths, bounds and texts -/

section

variable {ρ : Type} {change? : ChangeOf ρ} {name : String} {word : List Char} {k : Keyword}
  (hname : Spells name word false k)

include hname

theorem Leads.length {bound : Option Nat} (hfits : FitsLength bound) (put : Option Nat → ρ)
    (hchange : ∀ d n, d.length? = some n →
      ∃ f, change? k false d = some f ∧ f (put none) = put (some n)) :
    Leads change? (keyedText name (bound.map lengthText)) (put none) (put bound) := by
  refine .keyed hname put (fun n _ => ?_) fun n hn => hchange _ n (length?_ofKeyed (hfits n hn))
  rw [lengthText, String.toList_ofList]
  exact (Decimal.isWord_natDigits n).whole

theorem Leads.bound {bound : Option Float} (hbound : IsBound bound)
    (hreads : ∀ x, bound = some x → ReadsBack x) (put : Option Float → ρ)
    (hchange : ∀ d x, d.number? = some x →
      ∃ f, change? k false d = some f ∧ f (put none) = put (some x)) :
    Leads change? (keyedText name (bound.map Decimal.display)) (put none) (put bound) :=
  .keyed hname put (fun x _ => (Decimal.isWord_display x).whole)
    fun x hx => hchange _ x (number?_ofKeyed (hbound x hx) (hreads x hx))

theorem Leads.texts {side : TwoSided String} (hplain : ∀ s ∈ side.sides, IsPlain s)
    (put : TwoSided String → ρ)
    (hchange : ∀ d s negated, IsPlain s → d.string? = some s →
      ∃ f, change? k negated d = some f ∧ ∀ r, f (put r) = put (r.set negated s)) :
    Leads change? (twoSidedText name side) (put {}) (put side) := by
  have hsides : Leads change? (keyedText name (side.wanted.map id) ++
      keyedText ("!" ++ name) (side.unwanted.map id)) (put {}) (put side) :=
    .twoSided hname put (fun s hs => (hplain s hs).whole)
      fun s hs negated => hchange _ s negated (hplain s hs) (string?_ofKeyed (hplain s hs))
  rwa [Option.map_id, id, id] at hsides

end

/-! ## Numbers -/

/-- **The directives of rules for numbers lead to these rules.** -/
theorem NumberRules.leads_directives {α : Type} {r : NumberRules} (hbuilt : r.Built)
    (hreads : ∀ x ∈ (Rules.number r : Rules α).numbers, ReadsBack x) :
    Leads NumberRules.change? r.directives {} r := by
  obtain ⟨integer, positive, negative, notZero, min, max, maxExclusive⟩ := r
  have hmem : ∀ x, min = some x ∨ max = some x ∨ maxExclusive = some x → ReadsBack x := by
    intro x hx
    refine hreads x ?_
    rwa [Rules.numbers, List.mem_append, List.mem_append, Option.mem_toList, Option.mem_toList,
      Option.mem_toList, or_assoc]
  have hinteger : Leads NumberRules.change? (flagText integer "integer") {} { integer } :=
    .flag (.of_word .integer (by decide))
      (fun integer => ({ integer } : NumberRules)) ⟨_, rfl, rfl⟩
  have hnotZero : Leads NumberRules.change? (flagText notZero "notZero") { integer }
      { integer, notZero } :=
    .flag (.of_word .notZero (by decide))
      (fun notZero => ({ integer, notZero } : NumberRules)) ⟨_, rfl, rfl⟩
  have hpositive : Leads NumberRules.change? (flagText positive "positive") { integer, notZero }
      { integer, notZero, positive } :=
    .flag (.of_word .positive (by decide))
      (fun positive => ({ integer, notZero, positive } : NumberRules)) ⟨_, rfl, rfl⟩
  have hnegative : Leads NumberRules.change? (flagText negative "negative")
      { integer, notZero, positive } { integer, notZero, positive, negative } :=
    .flag (.of_word .negative (by decide))
      (fun negative => ({ integer, notZero, positive, negative } : NumberRules)) ⟨_, rfl, rfl⟩
  have hmin : Leads NumberRules.change? (keyedText "min" (min.map Decimal.display))
      { integer, notZero, positive, negative } { integer, notZero, positive, negative, min } :=
    .bound (.of_word .min (by decide)) hbuilt.min
      (fun x hx => hmem x (Or.inl hx))
      (fun min => ({ integer, notZero, positive, negative, min } : NumberRules))
      fun _ _ hx => ⟨_, congrArg (Option.map _) hx, rfl⟩
  have hmax : Leads NumberRules.change? (keyedText "max" (max.map Decimal.display))
      { integer, notZero, positive, negative, min }
      { integer, notZero, positive, negative, min, max } :=
    .bound (.of_word .max (by decide)) hbuilt.max
      (fun x hx => hmem x (Or.inr (Or.inl hx)))
      (fun max => ({ integer, notZero, positive, negative, min, max } : NumberRules))
      fun _ _ hx => ⟨_, congrArg (Option.map _) hx, rfl⟩
  have hexclusive : Leads NumberRules.change? (keyedText "maxx" (maxExclusive.map Decimal.display))
      { integer, notZero, positive, negative, min, max }
      { integer, notZero, positive, negative, min, max, maxExclusive } :=
    .bound (.of_word .maxExclusive (by decide)) hbuilt.maxExclusive
      (fun x hx => hmem x (Or.inr (Or.inr hx)))
      (NumberRules.mk integer positive negative notZero min max)
      fun _ _ hx => ⟨_, congrArg (Option.map _) hx, rfl⟩
  exact (((((hinteger.append hnotZero).append hpositive).append hnegative).append hmin).append
    hmax).append hexclusive

/-! ## Texts -/

/-- **The directives of rules for texts lead to these rules.** -/
theorem StringRules.leads_directives {α : Type} {r : StringRules} (hbuilt : r.Built)
    (hplain : ∀ s ∈ (Rules.string r : Rules α).texts, IsPlain s) :
    Leads StringRules.change? r.directives {} r := by
  obtain ⟨minLength, maxLength, startsWith, endsWith, contains, pattern⟩ := r
  simp only [Rules.texts, List.forall_mem_append] at hplain
  obtain ⟨⟨⟨hstarts, hends⟩, hcontains⟩, hmatch⟩ := hplain
  have hmin : Leads StringRules.change? (keyedText "minLength" (minLength.map lengthText)) {}
      { minLength } :=
    .length (.of_word .minLength (by decide)) hbuilt.minLength
      (fun minLength => ({ minLength } : StringRules))
      fun _ _ hn => ⟨_, congrArg (Option.map _) hn, rfl⟩
  have hmax : Leads StringRules.change? (keyedText "maxLength" (maxLength.map lengthText))
      { minLength } { minLength, maxLength } :=
    .length (.of_word .maxLength (by decide)) hbuilt.maxLength
      (fun maxLength => ({ minLength, maxLength } : StringRules))
      fun _ _ hn => ⟨_, congrArg (Option.map _) hn, rfl⟩
  have hstart : Leads StringRules.change? (twoSidedText "startsWith" startsWith)
      { minLength, maxLength } { minLength, maxLength, startsWith } :=
    .texts (.of_word .startsWith (by decide)) hstarts
      (fun startsWith => ({ minLength, maxLength, startsWith } : StringRules))
      fun _ _ _ _ hs => ⟨_, congrArg (Option.map _) hs, fun _ => rfl⟩
  have hend : Leads StringRules.change? (twoSidedText "endsWith" endsWith)
      { minLength, maxLength, startsWith } { minLength, maxLength, startsWith, endsWith } :=
    .texts (.of_word .endsWith (by decide)) hends
      (fun endsWith => ({ minLength, maxLength, startsWith, endsWith } : StringRules))
      fun _ _ _ _ hs => ⟨_, congrArg (Option.map _) hs, fun _ => rfl⟩
  have hcontain : Leads StringRules.change? (twoSidedText "contains" contains)
      { minLength, maxLength, startsWith, endsWith }
      { minLength, maxLength, startsWith, endsWith, contains } :=
    .texts (.of_word .contains (by decide)) hcontains
      (fun contains => ({ minLength, maxLength, startsWith, endsWith, contains } : StringRules))
      fun _ _ _ _ hs => ⟨_, congrArg (Option.map _) hs, fun _ => rfl⟩
  have hpattern : Leads StringRules.change? (twoSidedText "match" pattern)
      { minLength, maxLength, startsWith, endsWith, contains }
      { minLength, maxLength, startsWith, endsWith, contains, pattern } :=
    .texts (.of_word .match (by decide)) hmatch
      (StringRules.mk minLength maxLength startsWith endsWith contains)
      fun _ _ _ _ hs => ⟨_, congrArg (Option.map _) hs, fun _ => rfl⟩
  exact ((((hmin.append hmax).append hstart).append hend).append hcontain).append hpattern

/-! ## Objects -/

theorem addNames_of_nodup : ∀ {new known : List String}, (known ++ new).Nodup →
    addNames known new = known ++ new
  | [], known, _ => (List.append_nil known).symm
  | name :: new, known, h => by
    have hnew : name ∉ known := fun hmem =>
      (List.nodup_append.mp h).2.2 name hmem name List.mem_cons_self rfl
    have hfirst : addNames known (name :: new) = addNames (known ++ [name]) new := by
      rw [addNames, List.foldl_cons, if_neg (fun hb => hnew (List.contains_iff_mem.mp hb)), addNames]
    have hassoc : known ++ name :: new = known ++ [name] ++ new := by
      rw [List.append_assoc, List.singleton_append]
    rw [hfirst, addNames_of_nodup (hassoc ▸ h), hassoc]

theorem ObjectRules.leads_names {name : String} {word : List Char} {negated : Bool}
    (hname : Spells name word negated .hasProperties) {names : List String} (hnodup : names.Nodup)
    (hplain : ∀ s ∈ names, IsPlain s) (hlone : ¬ IsLoneNumber names)
    (put : List String → ObjectRules)
    (hput : (if negated then { put [] with forbidden := addNames (put []).forbidden names }
      else { put [] with required := addNames (put []).required names }) =
        put (addNames [] names)) :
    Leads ObjectRules.change? (namesText name names) (put []) (put names) := by
  rw [namesText]
  split
  · rename_i hempty
    rw [List.isEmpty_iff.mp hempty]
    exact .nil
  · rename_i hempty
    have hne : names ≠ [] := fun h => hempty (List.isEmpty_iff.mpr h)
    have hlisted := item_of_mem_map_toList hplain
    have hmap : names.map String.toList ≠ [] := by rwa [Ne, List.map_eq_nil_iff]
    have hargument : (",".intercalate names).toList = [','].intercalate (names.map String.toList) :=
      String.toList_intercalate
    have hback : String.ofList ∘ String.toList = id := funext fun _ => String.ofList_toList
    have hitems : (ofCall negated word (",".intercalate names).toList).argumentItems.map
        String.ofList = names := by
      rw [hargument, argumentItems_ofCall hplain hne hlone, List.map_map, hback, List.map_id]
    have hadded : addNames [] names = names := addNames_of_nodup hnodup
    have hchange : ObjectRules.change? .hasProperties negated
        (ofCall negated word (",".intercalate names).toList) =
        some fun r => if negated then { r with forbidden := addNames r.forbidden names }
          else { r with required := addNames r.required names } := by
      rw [ObjectRules.change?, hitems]
      exact if_neg hempty
    have hcall := Leads.call hname (hargument ▸ held_intercalate hlisted hmap)
      (hargument ▸ unquoted_intercalate hlisted hmap) (r := put []) hchange
    rwa [hput, hadded] at hcall

/-- **The directives of rules for objects lead to these rules.** -/
theorem ObjectRules.leads_directives {α : Type} {r : ObjectRules} (hbuilt : r.Built)
    (hplain : ∀ s ∈ (Rules.object r : Rules α).texts, IsPlain s)
    (hlone : ∀ names ∈ (Rules.object r : Rules α).nameLists, ¬ IsLoneNumber names) :
    Leads ObjectRules.change? r.directives {} r := by
  obtain ⟨empty, notEmpty, required, forbidden, notNested, noPrototype, canSerialize, noFalseyProps,
    noTruthyProps, instanceOf⟩ := r
  simp only [Rules.texts, List.forall_mem_append] at hplain
  obtain ⟨⟨hrequired, hforbidden⟩, hclasses⟩ := hplain
  have hbang : "!empty" = "!" ++ "empty" := by decide
  have hbang' : "!hasProperties" = "!" ++ "hasProperties" := by decide
  -- each directive sets one more field, in the order in which they are written
  have hempty : Leads ObjectRules.change? (flagText empty "empty") {} { empty } :=
    .flag (.of_word .empty (by decide)) (fun empty => ({ empty } : ObjectRules)) ⟨_, rfl, rfl⟩
  have hnotEmpty : Leads ObjectRules.change? (flagText notEmpty "!empty") { empty }
      { empty, notEmpty } :=
    .flag (hbang ▸ (Spells.of_word .empty (by decide)).negate)
      (fun notEmpty => ({ empty, notEmpty } : ObjectRules)) ⟨_, rfl, rfl⟩
  have hnames : Leads ObjectRules.change? (namesText "hasProperties" required) { empty, notEmpty }
      { empty, notEmpty, required } :=
    leads_names (.of_word .hasProperties (by decide)) hbuilt.required hrequired
      (hlone required List.mem_cons_self)
      (fun required => ({ empty, notEmpty, required } : ObjectRules)) rfl
  have hnames' : Leads ObjectRules.change? (namesText "!hasProperties" forbidden)
      { empty, notEmpty, required } { empty, notEmpty, required, forbidden } :=
    leads_names (hbang' ▸ (Spells.of_word .hasProperties (by decide)).negate) hbuilt.forbidden
      hforbidden (hlone forbidden (List.mem_cons_of_mem _ List.mem_cons_self))
      (fun forbidden => ({ empty, notEmpty, required, forbidden } : ObjectRules)) rfl
  have hnested : Leads ObjectRules.change? (flagText notNested "notNested")
      { empty, notEmpty, required, forbidden }
      { empty, notEmpty, required, forbidden, notNested } :=
    .flag (.of_word .notNested (by decide))
      (ObjectRules.mk empty notEmpty required forbidden · false false false false {})
      ⟨_, rfl, rfl⟩
  have hprototype : Leads ObjectRules.change? (flagText noPrototype "noPrototype")
      { empty, notEmpty, required, forbidden, notNested }
      { empty, notEmpty, required, forbidden, notNested, noPrototype } :=
    .flag (.of_word .noPrototype (by decide))
      (ObjectRules.mk empty notEmpty required forbidden notNested · false false false {})
      ⟨_, rfl, rfl⟩
  have hserialize : Leads ObjectRules.change? (flagText canSerialize "canSerialize")
      { empty, notEmpty, required, forbidden, notNested, noPrototype }
      { empty, notEmpty, required, forbidden, notNested, noPrototype, canSerialize } :=
    .flag (.of_word .canSerialize (by decide))
      (ObjectRules.mk empty notEmpty required forbidden notNested noPrototype · false false {})
      ⟨_, rfl, rfl⟩
  have hfalsey : Leads ObjectRules.change? (flagText noFalseyProps "noFalseyProps")
      { empty, notEmpty, required, forbidden, notNested, noPrototype, canSerialize }
      { empty, notEmpty, required, forbidden, notNested, noPrototype, canSerialize,
        noFalseyProps } :=
    .flag (.of_word .noFalseyProps (by decide))
      (ObjectRules.mk empty notEmpty required forbidden notNested noPrototype canSerialize ·
        false {})
      ⟨_, rfl, rfl⟩
  have htruthy : Leads ObjectRules.change? (flagText noTruthyProps "noTruthyProps")
      { empty, notEmpty, required, forbidden, notNested, noPrototype, canSerialize, noFalseyProps }
      { empty, notEmpty, required, forbidden, notNested, noPrototype, canSerialize, noFalseyProps,
        noTruthyProps } :=
    .flag (.of_word .noTruthyProps (by decide))
      (ObjectRules.mk empty notEmpty required forbidden notNested noPrototype canSerialize
        noFalseyProps · {})
      ⟨_, rfl, rfl⟩
  have hclass : Leads ObjectRules.change? (twoSidedText "instanceOf" instanceOf)
      { empty, notEmpty, required, forbidden, notNested, noPrototype, canSerialize, noFalseyProps,
        noTruthyProps }
      { empty, notEmpty, required, forbidden, notNested, noPrototype, canSerialize, noFalseyProps,
        noTruthyProps, instanceOf } := by
    refine .texts (.of_word .instanceOf (by decide)) hclasses
      (ObjectRules.mk empty notEmpty required forbidden notNested noPrototype canSerialize
        noFalseyProps noTruthyProps) fun d s negated hs hd => ?_
    have hfilter : d.string?.filter (fun name => !name.isEmpty) = some s := by
      have hempty : s.isEmpty = false := by
        rw [Bool.eq_false_iff]
        intro h
        rw [String.isEmpty_iff] at h
        exact hs.nonempty (by rw [h]; rfl)
      rw [hd, Option.filter_some, hempty]
      rfl
    exact ⟨_, congrArg (Option.map _) hfilter, fun _ => rfl⟩
  exact ((((((((hempty.append hnotEmpty).append hnames).append hnames').append hnested).append
    hprototype).append hserialize).append hfalsey).append htruthy).append hclass

end ShapeCheck
