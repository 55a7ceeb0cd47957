import ShapeCheck.Proofs.Slots

/-!
# Lists of directives as conjunctions

Keywords whose tests look at each other form a family: the two signs of numbers, and `each` with
`checkType`.  Two lists of directives that share no family ask for what each of them asks.

* `content_foldl_of_family` — directives of other families leave a family as it is;
* `merged_foldl` — each family of the joined list is that of one of the lists, while the other list
  leaves it as it was at first;
* `IsConj` — a verdict that passes iff two others pass and blames what one of them blames;
  `isConj_number`, `isConj_string`, `isConj_object` and `isConj_testOwn` are that of the tests, each
  of which reads one family;
* `list_means_conjunction` — so testing against the joined list is testing against both.
-/

set_option autoImplicit false

namespace ShapeCheck

/-! ## Families of keywords -/

/-- The keyword under which those that are tested together are counted. -/
def Keyword.family : Keyword → Keyword
  | .negative => .positive
  | .checkType => .each
  | k => k

/-- Whether a keyword is one for the values of a type, in one polarity at least. -/
def Keyword.isOfType (k : Keyword) (t : ValueType) : Bool :=
  (k.form? t false).isSome || (k.form? t true).isSome

/-- The family of a directive whose keyword is one for the values of a type. -/
def Directive.family? (t : ValueType) (d : Directive) : Option Keyword :=
  match Keyword.ofName? d.name with
  | some (k, _) => if k.isOfType t then some k.family else none
  | none => none

/-- No family of keywords for a type occurs in both lists. -/
def Directive.NoSharedFamily (t : ValueType) (ds₁ ds₂ : List Directive) : Prop :=
  ∀ d₁ ∈ ds₁, ∀ d₂ ∈ ds₂, ∀ family, d₁.family? t = some family → d₂.family? t ≠ some family

/-- Two records of rules hold the same in every slot of a family. -/
def Rules.SameOn (family : Keyword) (r r' : Rules Constraint) : Prop :=
  ∀ k negated, k.family = family → r.content k negated = r'.content k negated

/-- Every family of rules is that of one of two records, while the other has it as at first. -/
def Rules.Merged (first r₁ r₂ r : Rules Constraint) : Prop :=
  ∀ family, r.SameOn family r₁ ∧ r₂.SameOn family first ∨
    r.SameOn family r₂ ∧ r₁.SameOn family first

section

variable {nested : BlockParser} {t : ValueType}

theorem Keyword.isOfType_of_form? {k : Keyword} {negated : Bool}
    (h : (k.form? t negated).isSome = true) : k.isOfType t = true := by
  cases negated <;> simp [isOfType, h]

theorem Directive.family?_of_change {d : Directive} {f : Rules Constraint → Rules Constraint}
    (h : d.step nested t = .change f) {k : Keyword} {negated : Bool}
    (hslot : d.slot? = some (.rule k negated)) : d.family? t = some k.family := by
  obtain ⟨k', implied, hname, hnote, hf⟩ := step_eq_change h
  obtain rfl : k' = k := by
    rw [slot?, hname] at hslot
    cases k' <;> first | exact absurd rfl hnote | (cases hslot; rfl)
  have hform : (k'.form? t (d.negated != implied)).isSome = true := by
    have hany := isSome_change? nested t k' (d.negated != implied) d
    rw [hf] at hany
    cases hk : k'.form? t (d.negated != implied) with
    | none => simp [hk] at hany
    | some form => rfl
  rw [family?, hname]
  exact if_pos (Keyword.isOfType_of_form? hform)

theorem content_foldl_of_family {k : Keyword} (negated : Bool) : ∀ {ds : List Directive}
    {c : Constraint}, c.valueType = t → (∀ d ∈ ds, d.family? t ≠ some k.family) →
    (ds.foldl (Constraint.apply nested t) c).content (.rule k negated) =
      c.content (.rule k negated)
  | [], _, _, _ => rfl
  | d :: ds, c, ht, h => by
    obtain ⟨hd, hds⟩ := List.forall_mem_cons.mp h
    have hstep : (c.apply nested t d).content (.rule k negated) = c.content (.rule k negated) := by
      by_cases hslot : d.slot? = some (.rule k negated)
      · unfold Constraint.apply
        cases hstep : d.step nested t with
        | change f => exact absurd (Directive.family?_of_change hstep hslot) hd
        | _ => rfl
      · exact content_apply_of_ne ht hslot
    rw [List.foldl_cons, content_foldl_of_family negated
      ((valueType_apply nested t c d).trans ht) hds, hstep]

/-- **Each family of the joined list is that of one of the lists**, and the other one leaves it as it
was at first. -/
theorem merged_foldl {ds₁ ds₂ : List Directive} (h : Directive.NoSharedFamily t ds₁ ds₂)
    {first : Constraint} (ht : first.valueType = t) :
    Rules.Merged first.rules (ds₁.foldl (Constraint.apply nested t) first).rules
      (ds₂.foldl (Constraint.apply nested t) first).rules
      ((ds₁ ++ ds₂).foldl (Constraint.apply nested t) first).rules := by
  intro family
  have ht₁ : (ds₁.foldl (Constraint.apply nested t) first).valueType = t :=
    (valueType_foldl nested t ds₁ first).trans ht
  rw [List.foldl_append]
  by_cases hused : ∃ d₁ ∈ ds₁, d₁.family? t = some family
  · obtain ⟨d₁, hd₁, hfamily⟩ := hused
    have hunused : ∀ d ∈ ds₂, d.family? t ≠ some family :=
      fun d₂ hd₂ => h d₁ hd₁ d₂ hd₂ family hfamily
    refine Or.inl ⟨?_, ?_⟩
    · rintro k negated rfl
      exact content_foldl_of_family negated ht₁ hunused
    · rintro k negated rfl
      exact content_foldl_of_family negated ht hunused
  · have hunused : ∀ d ∈ ds₁, d.family? t ≠ some family :=
      fun d hd hfamily => hused ⟨d, hd, hfamily⟩
    refine Or.inr ⟨?_, ?_⟩
    · rintro k negated rfl
      exact @content_foldl_congr _ _ (.rule k negated) _ _ _ ht₁ ht
        (content_foldl_of_family negated ht hunused)
    · rintro k negated rfl
      exact content_foldl_of_family negated ht hunused

end

/-! ## Verdicts of two tests in one -/

namespace Verdict

/-- A verdict passes iff two others pass, and what it blames one of them blames. -/
structure IsConj (v v₁ v₂ : Verdict) : Prop where
  ok_iff : v = .ok () ↔ v₁ = .ok () ∧ v₂ = .ok ()
  error : ∀ violation, v = .error violation → v₁ = .error violation ∨ v₂ = .error violation

namespace IsConj

variable {v v₁ v₂ : Verdict} {rest rest₁ rest₂ : List Verdict}

theorem left (v : Verdict) : IsConj v v (.ok ()) where
  ok_iff := by simp
  error _ h := Or.inl h

theorem right (v : Verdict) : IsConj v (.ok ()) v where
  ok_iff := by simp
  error _ h := Or.inr h

theorem nil : IsConj (first []) (first []) (first []) := left (.ok ())

/-- Tests that go on behind a test in one go on behind it: the first one that fails is the same. -/
theorem cons (h : IsConj v v₁ v₂) (hrest : IsConj (first rest) (first rest₁) (first rest₂)) :
    IsConj (first (v :: rest)) (first (v₁ :: rest₁)) (first (v₂ :: rest₂)) := by
  cases v with
  | ok _ =>
    obtain ⟨rfl, rfl⟩ := h.ok_iff.mp rfl
    exact hrest
  | error violation =>
    refine ⟨⟨nofun, fun hok => ?_⟩, ?_⟩
    · -- one of the two tests fails here, so its list fails
      rcases h.error violation rfl with rfl | rfl
      · cases hok.1
      · cases hok.2
    · rintro _ ⟨⟩
      rcases h.error violation rfl with rfl | rfl
      · exact Or.inl rfl
      · exact Or.inr rfl

end IsConj

end Verdict

theorem Rules.Merged.isConj {ρ : Type} (variant : ρ → Rules Constraint) {r₀ r₁ r₂ r : ρ}
    (h : Rules.Merged (variant r₀) (variant r₁) (variant r₂) (variant r)) (family : Keyword)
    {test : ρ → Verdict}
    (reads : ∀ {r r' : ρ}, (variant r).SameOn family (variant r') → test r = test r')
    (passes : test r₀ = .ok ()) : Verdict.IsConj (test r) (test r₁) (test r₂) := by
  rcases h family with ⟨hsame, hfirst⟩ | ⟨hsame, hfirst⟩
  · rw [reads hsame, reads hfirst, passes]
    exact .left _
  · rw [reads hsame, reads hfirst, passes]
    exact .right _

/-! ## Tests against merged rules -/

theorem isConj_number {r₁ r₂ r : NumberRules}
    (h : Rules.Merged (.number {}) (.number r₁) (.number r₂) (.number r)) (x : Float) :
    Verdict.IsConj (r.test x) (r₁.test x) (r₂.test x) := by
  unfold NumberRules.test
  refine .cons ?_ <| .cons ?_ <| .cons ?_ <| .cons ?_ <| .cons ?_ <| .cons ?_ <| .cons ?_ <|
    .cons ?_ .nil
  · apply h.isConj .number .integer ?_ rfl
    intro r r' same
    rw [Content.flag.inj (same .integer false rfl)]
  · apply h.isConj .number .notZero ?_ rfl
    intro r r' same
    rw [Content.flag.inj (same .notZero false rfl)]
  · apply h.isConj .number .positive ?_ rfl
    intro r r' same
    rw [Content.flag.inj (same .positive false rfl), Content.flag.inj (same .negative false rfl)]
  · apply h.isConj .number .positive ?_ rfl
    intro r r' same
    rw [Content.flag.inj (same .positive false rfl)]
  · apply h.isConj .number .positive ?_ rfl
    intro r r' same
    rw [Content.flag.inj (same .negative false rfl)]
  · apply h.isConj .number .min ?_ rfl
    intro r r' same
    rw [Content.bound.inj (same .min false rfl)]
  · apply h.isConj .number .max ?_ rfl
    intro r r' same
    rw [Content.bound.inj (same .max false rfl)]
  · apply h.isConj .number .maxExclusive ?_ rfl
    intro r r' same
    rw [Content.bound.inj (same .maxExclusive false rfl)]

theorem isConj_string {r₁ r₂ r : StringRules}
    (h : Rules.Merged (.string {}) (.string r₁) (.string r₂) (.string r)) (subject : String) :
    Verdict.IsConj (r.test subject) (r₁.test subject) (r₂.test subject) := by
  unfold StringRules.test testLength
  refine .cons (.cons ?_ <| .cons ?_ .nil) <| .cons ?_ <| .cons ?_ <| .cons ?_ <| .cons ?_ .nil
  · apply h.isConj .string .minLength ?_ rfl
    intro r r' same
    rw [Content.length.inj (same .minLength false rfl)]
  · apply h.isConj .string .maxLength ?_ rfl
    intro r r' same
    rw [Content.length.inj (same .maxLength false rfl)]
  · apply h.isConj .string .startsWith ?_ rfl
    intro r r' same
    rw [TwoSided.eq_of_side fun negated => Content.text.inj (same .startsWith negated rfl)]
  · apply h.isConj .string .endsWith ?_ rfl
    intro r r' same
    rw [TwoSided.eq_of_side fun negated => Content.text.inj (same .endsWith negated rfl)]
  · apply h.isConj .string .contains ?_ rfl
    intro r r' same
    rw [TwoSided.eq_of_side fun negated => Content.text.inj (same .contains negated rfl)]
  · apply h.isConj .string .match ?_ rfl
    intro r r' same
    rw [TwoSided.eq_of_side fun negated => Content.text.inj (same .match negated rfl)]

theorem isConj_consistent {r₁ r₂ r : ObjectRules}
    (h : Rules.Merged (.object {}) (.object r₁) (.object r₂) (.object r)) :
    Verdict.IsConj r.consistent r₁.consistent r₂.consistent := by
  unfold ObjectRules.consistent
  refine .cons ?_ <| .cons ?_ .nil
  · apply h.isConj .object .empty ?_ rfl
    intro r r' same
    rw [Content.flag.inj (same .empty false rfl), Content.flag.inj (same .empty true rfl)]
  · apply h.isConj .object .hasProperties ?_ rfl
    intro r r' same
    rw [Content.names.inj (same .hasProperties false rfl),
      Content.names.inj (same .hasProperties true rfl)]

theorem isConj_object {r₁ r₂ r : ObjectRules}
    (h : Rules.Merged (.object {}) (.object r₁) (.object r₂) (.object r)) (o : Object Value) :
    Verdict.IsConj (r.test o) (r₁.test o) (r₂.test o) := by
  unfold ObjectRules.test
  refine .cons (isConj_consistent h) <| .cons ?_ <| .cons ?_ <| .cons ?_ <| .cons ?_ <| .cons ?_ <|
    .cons ?_ <| .cons ?_ <| .cons ?_ <| .cons ?_ <| .cons ?_ <| .cons ?_ .nil
  · apply h.isConj .object .empty ?_ rfl
    intro r r' same
    rw [Content.flag.inj (same .empty false rfl)]
  · apply h.isConj .object .empty ?_ rfl
    intro r r' same
    rw [Content.flag.inj (same .empty true rfl)]
  · apply h.isConj .object .hasProperties ?_ rfl
    intro r r' same
    rw [Content.names.inj (same .hasProperties false rfl)]
  · apply h.isConj .object .hasProperties ?_ rfl
    intro r r' same
    rw [Content.names.inj (same .hasProperties true rfl)]
  · apply h.isConj .object .notNested ?_ rfl
    intro r r' same
    rw [Content.flag.inj (same .notNested false rfl)]
  · apply h.isConj .object .noPrototype ?_ rfl
    intro r r' same
    rw [Content.flag.inj (same .noPrototype false rfl)]
  · apply h.isConj .object .canSerialize ?_ rfl
    intro r r' same
    rw [Content.flag.inj (same .canSerialize false rfl)]
  · apply h.isConj .object .noFalseyProps ?_ rfl
    intro r r' same
    rw [Content.flag.inj (same .noFalseyProps false rfl)]
  · apply h.isConj .object .noTruthyProps ?_ rfl
    intro r r' same
    rw [Content.flag.inj (same .noTruthyProps false rfl)]
  · apply h.isConj .object .instanceOf ?_ rfl
    intro r r' same
    rw [TwoSided.eq_of_side fun negated => Content.text.inj (same .instanceOf negated rfl)]
  · apply h.isConj .object .instanceOf ?_ rfl
    intro r r' same
    rw [TwoSided.eq_of_side fun negated => Content.text.inj (same .instanceOf negated rfl)]

theorem isConj_testOwn {r₁ r₂ r : ArrayRules Constraint}
    (h : Rules.Merged (.array {}) (.array r₁) (.array r₂) (.array r)) (items : List Value) :
    Verdict.IsConj (r.testOwn items) (r₁.testOwn items) (r₂.testOwn items) := by
  unfold ArrayRules.testOwn testLength
  refine .cons (.cons ?_ <| .cons ?_ .nil) <| .cons ?_ .nil
  · apply h.isConj .array .minLength ?_ rfl
    intro r r' same
    rw [Content.length.inj (same .minLength false rfl)]
  · apply h.isConj .array .maxLength ?_ rfl
    intro r r' same
    rw [Content.length.inj (same .maxLength false rfl)]
  · apply h.isConj .array .contains ?_ rfl
    intro r r' same
    rw [TwoSided.eq_of_side fun negated => Content.item.inj (same .contains negated rfl)]

/-- The verdict on the elements of an array; they pass where the rules have nothing to check in
them. -/
def verdictOfElements {σ : Type} (sampler : Sampler σ) (items : List Value) (s : σ)
    (r : ArrayRules Constraint) : Verdict :=
  if r.hasElementChecks then
    (traverse sampler (testElement sampler r.elements) items (r.mode.getD .all) r.first r.second
      s).verdict
  else .ok ()

theorem verdict_testArray {σ : Type} (sampler : Sampler σ) (items : List Value) (s : σ)
    (r : ArrayRules Constraint) : (testArray sampler r items s).verdict =
      Verdict.first [r.testOwn items, verdictOfElements sampler items s r] := by
  have hlast : ∀ v : Verdict, v = Verdict.first [v] := fun v => by cases v <;> rfl
  obtain ⟨minLength, maxLength, contains, elements, mode, first, second⟩ := r
  rw [testArray]
  split
  · rename_i violation hown
    rw [hown]
    rfl
  · rename_i hown
    rw [hown]
    refine Eq.trans ?_ (hlast _)
    unfold verdictOfElements
    split <;> rfl

theorem isConj_elements {r₁ r₂ r : ArrayRules Constraint}
    (h : Rules.Merged (.array {}) (.array r₁) (.array r₂) (.array r)) {σ : Type}
    (sampler : Sampler σ) (items : List Value) (s : σ) :
    Verdict.IsConj (verdictOfElements sampler items s r) (verdictOfElements sampler items s r₁)
      (verdictOfElements sampler items s r₂) := by
  apply h.isConj .array .each ?_ rfl
  intro r r' same
  obtain ⟨hmode, hfirst, hsecond⟩ := Content.mode.inj (same .checkType false rfl)
  have helements : r.elements = r'.elements := Content.elements.inj (same .each false rfl)
  have hchecks : r.hasElementChecks = r'.hasElementChecks := by
    rw [ArrayRules.hasElementChecks, ArrayRules.hasElementChecks, helements, hmode]
  rw [verdictOfElements, verdictOfElements, hchecks, helements, hmode, hfirst, hsecond]

/-- **Testing against merged rules is testing against both.** -/
theorem isConj_testRules {first r₁ r₂ r : Rules Constraint} {v : Value}
    (hfirst : Rules.initial? (.of v) = some first) (h : Rules.Merged first r₁ r₂ r)
    (ht₁ : r₁.valueType = .of v) (ht₂ : r₂.valueType = .of v) (ht : r.valueType = .of v)
    {σ : Type} (sampler : Sampler σ) (s : σ) :
    Verdict.IsConj (testRules sampler r v s).verdict (testRules sampler r₁ v s).verdict
      (testRules sampler r₂ v s).verdict := by
  cases v with
  | null => cases hfirst
  | bool flag =>
    obtain rfl := Rules.eq_boolean ht
    obtain rfl := Rules.eq_boolean ht₁
    obtain rfl := Rules.eq_boolean ht₂
    exact .left _
  | regex source =>
    obtain rfl := Rules.eq_regex ht
    obtain rfl := Rules.eq_regex ht₁
    obtain rfl := Rules.eq_regex ht₂
    exact .left _
  | number x =>
    obtain ⟨n, rfl⟩ := Rules.exists_number ht
    obtain ⟨n₁, rfl⟩ := Rules.exists_number ht₁
    obtain ⟨n₂, rfl⟩ := Rules.exists_number ht₂
    cases hfirst
    simp only [testRules]
    exact isConj_number h x
  | string text =>
    obtain ⟨n, rfl⟩ := Rules.exists_string ht
    obtain ⟨n₁, rfl⟩ := Rules.exists_string ht₁
    obtain ⟨n₂, rfl⟩ := Rules.exists_string ht₂
    cases hfirst
    simp only [testRules]
    exact isConj_string h text
  | object o =>
    obtain ⟨n, rfl⟩ := Rules.exists_object ht
    obtain ⟨n₁, rfl⟩ := Rules.exists_object ht₁
    obtain ⟨n₂, rfl⟩ := Rules.exists_object ht₂
    cases hfirst
    simp only [testRules]
    exact isConj_object h o
  | array items =>
    obtain ⟨n, rfl⟩ := Rules.exists_array ht
    obtain ⟨n₁, rfl⟩ := Rules.exists_array ht₁
    obtain ⟨n₂, rfl⟩ := Rules.exists_array ht₂
    cases hfirst
    simp only [testRules, verdict_testArray]
    exact .cons (isConj_testOwn h items) (.cons (isConj_elements h sampler items s) .nil)

/-- **A list of directives means their conjunction.**  Two lists that share no family of keywords for
the type of a value, and have no directive that clears the constraint, ask together for what each of
them asks.  From every state of the sampler a value passes the joined list iff it passes both lists,
each from that state, and what it is blamed for is what one of the lists alone blames it for. -/
theorem list_means_conjunction {v : Value} (hv : ValueType.of v ≠ .none)
    {ds₁ ds₂ : List Directive} (hne₁ : ds₁ ≠ []) (hne₂ : ds₂ ≠ [])
    (hclear₁ : ∀ d ∈ ds₁, d.clears = false) (hclear₂ : ∀ d ∈ ds₂, d.clears = false)
    (h : Directive.NoSharedFamily (.of v) ds₁ ds₂) :
    ∃ c₁ c₂ c, build (.of v) ds₁ = some c₁ ∧ build (.of v) ds₂ = some c₂ ∧
      build (.of v) (ds₁ ++ ds₂) = some c ∧
      ∀ {σ : Type} (sampler : Sampler σ) (s : σ),
        ((c.test sampler v s).verdict = .ok () ↔
          (c₁.test sampler v s).verdict = .ok () ∧ (c₂.test sampler v s).verdict = .ok ()) ∧
        ∀ violation, (c.test sampler v s).verdict = .error violation →
          (c₁.test sampler v s).verdict = .error violation ∨
            (c₂.test sampler v s).verdict = .error violation := by
  obtain ⟨first, hfirst, -, -⟩ := exists_initial? hv
  have htype : first.valueType = .of v := Constraint.valueType_of_initial? hfirst
  have hclear : ∀ d ∈ ds₁ ++ ds₂, d.clears = false := by
    intro d hd
    rcases List.mem_append.mp hd with hd | hd
    · exact hclear₁ d hd
    · exact hclear₂ d hd
  refine ⟨_, _, _, build_eq_foldl hfirst hne₁ hclear₁, build_eq_foldl hfirst hne₂ hclear₂,
    build_eq_foldl hfirst (List.append_ne_nil_of_left_ne_nil hne₁ ds₂) hclear, ?_⟩
  intro σ sampler s
  have hkeep : ∀ ds : List Directive,
      (ds.foldl (Constraint.apply parse (.of v)) first).rules.valueType = .of v :=
    fun ds => (valueType_foldl parse (.of v) ds first).trans htype
  have hmerged : Rules.Merged first.rules (ds₁.foldl (Constraint.apply parse (.of v)) first).rules
      (ds₂.foldl (Constraint.apply parse (.of v)) first).rules
      ((ds₁ ++ ds₂).foldl (Constraint.apply parse (.of v)) first).rules := merged_foldl h htype
  have hconj := isConj_testRules (Constraint.rules_of_initial? hfirst) hmerged (hkeep ds₁)
    (hkeep ds₂) (hkeep (ds₁ ++ ds₂)) sampler s
  rw [Constraint.test_eq, Constraint.test_eq, Constraint.test_eq]
  exact ⟨hconj.ok_iff, hconj.error⟩

/-- A list for the elements of an array and a list for its length: the first one fails alone, so the
joined list fails with its violation. -/
theorem list_means_conjunction_array :
    let v := Value.array [.string "ab", .null, .string "a"]
    let ds₁ := Directive.tokenize "each(string,minLength=2),note=texts".toList
    let ds₂ := Directive.tokenize "minLength=1,maxLength=3,integer".toList
    (ValueType.of v ≠ .none ∧ ds₁ ≠ [] ∧ ds₂ ≠ [] ∧ (∀ d ∈ ds₁, d.clears = false) ∧
      (∀ d ∈ ds₂, d.clears = false) ∧ Directive.NoSharedFamily (.of v) ds₁ ds₂) ∧
    ∃ c₁ c violation, build .array ds₁ = some c₁ ∧ build .array (ds₁ ++ ds₂) = some c ∧
      (c.test Sampler.sequential v ()).verdict = .error violation ∧
      (c₁.test Sampler.sequential v ()).verdict = .error violation := by
  intro v ds₁ ds₂
  have hv : ValueType.of v ≠ .none := by decide
  have hne₁ : ds₁ ≠ [] := by decide +kernel
  have hne₂ : ds₂ ≠ [] := by decide +kernel
  have hclear₁ : ∀ d ∈ ds₁, d.clears = false := by decide +kernel
  have hclear₂ : ∀ d ∈ ds₂, d.clears = false := by decide +kernel
  have hshared : Directive.NoSharedFamily (.of v) ds₁ ds₂ := by
    have hdiffer : ∀ d₁ ∈ ds₁, ∀ d₂ ∈ ds₂, d₁.family? (.of v) ≠ none →
        d₁.family? (.of v) ≠ d₂.family? (.of v) := by decide +kernel
    intro d₁ hd₁ d₂ hd₂ family h₁ h₂
    exact hdiffer d₁ hd₁ d₂ hd₂ (by simp [h₁]) (h₁.trans h₂.symm)
  refine ⟨⟨hv, hne₁, hne₂, hclear₁, hclear₂, hshared⟩, ?_⟩
  obtain ⟨c₁, c₂, c, hc₁, hc₂, hc, hboth⟩ :=
    list_means_conjunction hv hne₁ hne₂ hclear₁ hclear₂ hshared
  obtain ⟨hok, herror⟩ := hboth Sampler.sequential ()
  have hfails : ((build .array ds₁).all fun c =>
      !(c.test Sampler.sequential v ()).verdict.isOk) = true := by decide +kernel
  have hpasses : ((build .array ds₂).all fun c =>
      (c.test Sampler.sequential v ()).verdict.isOk) = true := by decide +kernel
  change build .array ds₁ = some c₁ at hc₁
  change build .array ds₂ = some c₂ at hc₂
  rw [hc₁, Option.all_some] at hfails
  rw [hc₂, Option.all_some] at hpasses
  cases hverdict : (c.test Sampler.sequential v ()).verdict with
  | ok _ =>
    rw [(hok.mp hverdict).1] at hfails
    cases hfails
  | error violation =>
    refine ⟨c₁, c, violation, hc₁, hc, hverdict, ?_⟩
    rcases herror violation hverdict with hblame | hblame
    · exact hblame
    · rw [hblame] at hpasses
      cases hpasses

end ShapeCheck
