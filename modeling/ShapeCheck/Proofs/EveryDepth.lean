import Mathlib.Data.List.Basic
import ShapeCheck.Constraint.Change

/-!
# Properties at every depth of a constraint

A constraint for arrays holds constraints for elements, which may hold further ones.
`Constraint.EveryDepth P` says that rules and their type satisfy `P` in a constraint and in all that
are nested in it.

* `everyDepth_buildWith` — what the first rules of a type satisfy and every change of rules keeps
  holds at every depth of what is built;
* `everyDepth_parse` — the same of what is parsed, where each block for elements is shorter than the
  block around it.
-/

set_option autoImplicit false

namespace ShapeCheck

/-! ## Entries by type -/

namespace ByType

variable {α : Type}

@[simp]
theorem get?_empty (t : ValueType) : ({} : ByType α).get? t = none := by
  cases t <;> rfl

theorem mem_toList {m : ByType α} {t : ValueType} {a : α} :
    (t, a) ∈ m.toList ↔ m.get? t = some a := by
  rw [toList, List.mem_filterMap]
  constructor
  · rintro ⟨u, -, h⟩
    obtain ⟨b, hb, he⟩ := Option.map_eq_some_iff.mp h
    obtain ⟨rfl, rfl⟩ := Prod.mk.inj he
    exact hb
  · intro h
    refine ⟨t, ?_, by rw [h]; rfl⟩
    cases t with
    | none => cases h
    | _ => decide

theorem setBlocks_cons (nested : BlockParser) (m : ByType Constraint) (b : ElementBlock)
    (blocks : List ElementBlock) :
    m.setBlocks nested (b :: blocks) =
      ((b.constraint? nested).elim m (m.set b.valueType)).setBlocks nested blocks := by
  rw [setBlocks, List.foldl_cons]
  cases b.constraint? nested <;> rfl

theorem get?_setBlocks {nested : BlockParser} {t : ValueType} {c : Constraint} :
    ∀ {blocks : List ElementBlock} {m : ByType Constraint},
      (m.setBlocks nested blocks).get? t = some c →
      m.get? t = some c ∨ ∃ b ∈ blocks, b.valueType = t ∧ b.constraint? nested = some c
  | [], _, h => Or.inl h
  | b :: blocks, m, h => by
    rw [setBlocks_cons] at h
    rcases get?_setBlocks h with h | ⟨b', hb', hrest⟩
    · cases hb : b.constraint? nested with
      | none =>
        rw [hb] at h
        exact Or.inl h
      | some c' =>
        rw [hb, Option.elim_some, get?_set] at h
        split at h
        · rename_i ht
          cases h
          exact Or.inr ⟨b, List.mem_cons_self, ht.1.symm, hb⟩
        · exact Or.inl h
    · exact Or.inr ⟨b', List.mem_cons_of_mem b hb', hrest⟩

end ByType

/-! ## Rules and their elements -/

/-- The constraints for elements that rules hold; only rules for arrays hold any. -/
def Rules.elements {α : Type} : Rules α → ByType α
  | .array r => r.elements
  | _ => {}

theorem Rules.elements_of_initial? {α : Type} {t : ValueType} {r : Rules α}
    (h : Rules.initial? t = some r) : r.elements = {} := by
  cases t with
  | none => cases h
  | _ => cases h; rfl

theorem ArrayRules.elements_change? {nested : BlockParser} {k : Keyword} {negated : Bool}
    {d : Directive} {f : ArrayRules Constraint → ArrayRules Constraint}
    (h : ArrayRules.change? nested k negated d = some f) :
    (∀ r, (f r).elements = r.elements) ∨
      ∃ raw, d.argumentText? = some raw ∧
        ∀ r, (f r).elements = r.elements.setBlocks nested (ElementBlock.ofArgument raw) := by
  cases k with
  | contains =>
    obtain ⟨_, -, rfl⟩ := Option.map_eq_some_iff.mp h
    exact Or.inl fun _ => rfl
  | minLength =>
    cases negated with
    | true => cases h
    | false =>
      obtain ⟨_, -, rfl⟩ := Option.map_eq_some_iff.mp h
      exact Or.inl fun _ => rfl
  | maxLength =>
    cases negated with
    | true => cases h
    | false =>
      obtain ⟨_, -, rfl⟩ := Option.map_eq_some_iff.mp h
      exact Or.inl fun _ => rfl
  | each =>
    cases negated with
    | true => cases h
    | false =>
      obtain ⟨raw, hraw, rfl⟩ := Option.map_eq_some_iff.mp h
      exact Or.inr ⟨raw, hraw, fun _ => rfl⟩
  | checkType =>
    cases negated with
    | true => cases h
    | false =>
      obtain ⟨_, -, rfl⟩ := Option.map_eq_some_iff.mp h
      exact Or.inl fun _ => rfl
  | _ => cases h

/-- An entry after a change of rules was there before or is the constraint of a block. -/
theorem Rules.get?_elements_change? {nested : BlockParser} {t u : ValueType} {k : Keyword}
    {negated : Bool} {d : Directive} {f : Rules Constraint → Rules Constraint}
    (h : Rules.change? nested t k negated d = some f) {r : Rules Constraint} {c : Constraint}
    (hc : (f r).elements.get? u = some c) :
    r.elements.get? u = some c ∨
      ∃ b : ElementBlock, b.valueType = u ∧ b.constraint? nested = some c := by
  cases t with
  | none => cases h
  | boolean => cases h
  | regex => cases h
  | number =>
    obtain ⟨g, -, rfl⟩ := Option.map_eq_some_iff.mp h
    cases r <;> exact Or.inl hc
  | string =>
    obtain ⟨g, -, rfl⟩ := Option.map_eq_some_iff.mp h
    cases r <;> exact Or.inl hc
  | object =>
    obtain ⟨g, -, rfl⟩ := Option.map_eq_some_iff.mp h
    cases r <;> exact Or.inl hc
  | array =>
    obtain ⟨g, hg, rfl⟩ := Option.map_eq_some_iff.mp h
    cases r with
    | array r =>
      change (g r).elements.get? u = some c at hc
      rcases ArrayRules.elements_change? hg with hkeep | ⟨raw, -, hset⟩
      · rw [hkeep r] at hc
        exact Or.inl hc
      · rw [hset r] at hc
        rcases ByType.get?_setBlocks hc with hc | ⟨b, -, hb⟩
        · exact Or.inl hc
        · exact Or.inr ⟨b, hb⟩
    | _ => exact Or.inl hc

/-! ## The property at every depth -/

/-- Rules and their type satisfy `P` in a constraint and in all constraints nested in it. -/
inductive Constraint.EveryDepth (P : ValueType → Rules Constraint → Prop) :
    ValueType → Constraint → Prop where
  | intro {t : ValueType} {c : Constraint} (here : P t c.rules)
      (below : ∀ u d, c.rules.elements.get? u = some d → Constraint.EveryDepth P u d) :
      Constraint.EveryDepth P t c

namespace Constraint.EveryDepth

variable {P Q : ValueType → Rules Constraint → Prop} {t : ValueType} {c : Constraint}

theorem rules (h : c.EveryDepth P t) : P t c.rules := by
  cases h with
  | intro here _ => exact here

theorem element (h : c.EveryDepth P t) {u : ValueType} {d : Constraint}
    (hd : c.rules.elements.get? u = some d) : d.EveryDepth P u := by
  cases h with
  | intro _ below => exact below u d hd

theorem of_rules {c' : Constraint} (h : c.EveryDepth P t) (hrules : c'.rules = c.rules) :
    c'.EveryDepth P t :=
  .intro (hrules ▸ h.rules) fun _ _ hd => h.element (hrules ▸ hd)

theorem and (hp : c.EveryDepth P t) (hq : c.EveryDepth Q t) :
    c.EveryDepth (fun t r => P t r ∧ Q t r) t := by
  induction hp with
  | intro here _ ih => exact .intro ⟨here, hq.rules⟩ fun u d hd => ih u d hd (hq.element hd)

theorem mono (h : c.EveryDepth P t) (hpq : ∀ t r, P t r → Q t r) : c.EveryDepth Q t := by
  induction h with
  | intro here _ ih => exact .intro (hpq _ _ here) ih

theorem of_toList (here : P t c.rules)
    (below : ∀ e ∈ c.rules.elements.toList, e.2.EveryDepth P e.1) : c.EveryDepth P t :=
  .intro here fun u d hd => below (u, d) (ByType.mem_toList.mpr hd)

theorem of_initial? (hinit : ∀ t r, Rules.initial? t = some r → P t r)
    (h : Constraint.initial? t = some c) : c.EveryDepth P t := by
  obtain ⟨r, hr, rfl⟩ := Option.map_eq_some_iff.mp h
  refine .intro (hinit t r hr) ?_
  intro u d hd
  rw [Rules.elements_of_initial? hr, ByType.get?_empty] at hd
  cases hd

end Constraint.EveryDepth

theorem Constraint.sizeOf_lt_of_get? {c d : Constraint} {u : ValueType}
    (h : c.rules.elements.get? u = some d) : sizeOf d < sizeOf c := by
  obtain ⟨rules, note, badName⟩ := c
  cases rules with
  | array r =>
    obtain ⟨_, _, _, ⟨number, string, boolean, object, array, regex⟩, _, _, _⟩ := r
    change ByType.get? _ u = some d at h
    cases u with
    | none => cases h
    | _ =>
      obtain rfl := h
      simp only [Constraint.mk.sizeOf_spec, Rules.array.sizeOf_spec, ArrayRules.mk.sizeOf_spec,
        ByType.mk.sizeOf_spec, Option.some.sizeOf_spec]
      omega
  | _ => cases u <;> cases h

theorem everyDepth_of_forall {P : ValueType → Rules Constraint → Prop} (h : ∀ t r, P t r)
    (t : ValueType) (c : Constraint) : c.EveryDepth P t :=
  .intro (h t c.rules) fun u d hd =>
    have := Constraint.sizeOf_lt_of_get? hd
    everyDepth_of_forall h u d
termination_by sizeOf c

/-! ## What building keeps -/

section

variable {P : ValueType → Rules Constraint → Prop} {nested : BlockParser}
  (hinit : ∀ t r, Rules.initial? t = some r → P t r)
  (hchange : ∀ (nested : BlockParser) (t : ValueType) (k : Keyword) (negated : Bool)
    (d : Directive) (f : Rules Constraint → Rules Constraint) (r : Rules Constraint),
    Rules.change? nested t k negated d = some f → P t r → P t (f r))
  (hnested : ∀ t rest c, nested t rest = some c → c.EveryDepth P t)

include hinit hnested in
theorem ElementBlock.everyDepth {b : ElementBlock} {c : Constraint}
    (h : b.constraint? nested = some c) : c.EveryDepth P b.valueType := by
  rw [ElementBlock.constraint?, Option.orElse_eq_orElse, Option.orElse_eq_or,
    Option.or_eq_some_iff] at h
  rcases h with h | ⟨-, h⟩
  · exact hnested _ _ _ h
  · exact .of_initial? hinit h

include hinit hchange hnested in
theorem everyDepth_apply {t : ValueType} {c : Constraint} (h : c.EveryDepth P t) (d : Directive) :
    (c.apply nested t d).EveryDepth P t := by
  rw [Constraint.apply]
  cases hstep : d.step nested t with
  | clear => exact h
  | note text => exact h.of_rules rfl
  | reject => exact h.of_rules rfl
  | change f =>
    obtain ⟨k, implied, -, -, hf⟩ := Directive.step_eq_change hstep
    refine .intro (hchange nested t k _ d f c.rules hf h.rules) ?_
    intro u e he
    rcases Rules.get?_elements_change? hf he with he | ⟨b, rfl, hb⟩
    · exact h.element he
    · exact ElementBlock.everyDepth hinit hnested hb

include hinit hchange hnested in
/-- **What the first rules satisfy and every change keeps holds at every depth of what is built.** -/
theorem everyDepth_buildWith {t : ValueType} {ds : List Directive} {c : Constraint}
    (h : buildWith nested t ds = some c) : c.EveryDepth P t := by
  rw [buildWith_eq] at h
  split at h
  · cases h
  · obtain ⟨c₀, h₀, rfl⟩ := Option.map_eq_some_iff.mp h
    have hfirst : c₀.EveryDepth P t := .of_initial? hinit h₀
    split
    · exact hfirst
    · exact List.foldlRecOn ds _ hfirst fun c hc d _ =>
        everyDepth_apply hinit hchange hnested hc d

include hinit hchange in
/-- **What the first rules satisfy and every change keeps holds at every depth of what is parsed.**
The induction is on the length of the block, which bounds that of the blocks for elements. -/
theorem everyDepth_parse {t : ValueType} {block : List Char} {c : Constraint}
    (h : parse t block = some c) : c.EveryDepth P t := by
  induction hn : block.length using Nat.strongRecOn generalizing t block c with
  | _ n ih =>
    subst hn
    rw [parse] at h
    refine everyDepth_buildWith hinit hchange ?_ h
    intro u rest d hd
    split at hd
    · exact ih rest.length ‹_› hd rfl
    · cases hd

end

end ShapeCheck
