import ShapeCheck.Proofs.RenderedArrays

/-!
# Rendered constraints are parsed to the same rules

* `Constraint.leads_directives` — the directives of a constraint lead from the first rules of its
  type to its rules, by induction on the constraints nested in it;
* `parse_directives` — so the text of a parsed constraint is parsed to the same rules at every
  depth, without notes.
-/

set_option autoImplicit false

namespace ShapeCheck

open Directive

/-- The data of rules that survive being written and read: texts are plain, numbers read back from
their displayed form, and no list of names is a lone number. -/
structure Rules.Rereadable {α : Type} (r : Rules α) : Prop where
  texts : ∀ s ∈ r.texts, IsPlain s
  names : ∀ names ∈ r.nameLists, ¬ IsLoneNumber names
  numbers : ∀ x ∈ r.numbers, ReadsBack x

theorem Constraint.bare_eq (c : Constraint) : c.bare = ⟨c.bare.rules, none, none⟩ := by
  obtain ⟨rules, note, badName⟩ := c
  rfl

/-- The block of a constraint for elements is parsed to it, or gives no directives if there are none
to give. -/
theorem ElementBlock.constraint?_entryBlock {e : ValueType × Constraint} {first : Rules Constraint}
    (hinit : Rules.initial? e.1 = some first)
    (hleads : Leads (Rules.change? parse e.1) e.2.directives first e.2.bare.rules) :
    (entryBlock e).constraint? parse = some e.2.bare := by
  rw [ElementBlock.constraint?, entryBlock, Constraint.bare_eq]
  dsimp only
  rcases eq_or_ne e.2.directives [] with hnil | hne
  · have hblank : parse e.1 [] = none := by
      rw [parse_eq_build]
      rfl
    rw [hnil] at hleads ⊢
    rw [List.map_nil, List.intercalate_nil, hblank, Constraint.initial?, hinit, hleads.eq_of_nil]
    rfl
  · rw [hleads.parse hne hinit fun _ hc => absurd hc List.not_mem_nil]
    rfl

/-- **The directives of a constraint lead to its rules without notes.** -/
theorem Constraint.leads_directives {t : ValueType} {c : Constraint}
    (h : c.EveryDepth (fun t r => r.BoundTo t ∧ r.Built ∧ r.Rereadable) t) :
    ∃ first, Rules.initial? t = some first ∧
      Leads (Rules.change? parse t) c.directives first c.bare.rules := by
  induction h with
  | @intro t c here _ ih =>
    obtain ⟨rules, note, badName⟩ := c
    obtain ⟨hbound, hbuilt, hread⟩ := here
    obtain rfl : rules.valueType = t := hbound.valueType_eq
    cases rules with
    | boolean => exact ⟨.boolean, rfl, .nil⟩
    | regex => exact ⟨.regex, rfl, .nil⟩
    | number r =>
      refine ⟨.number {}, rfl, Leads.lift ?_ (NumberRules.leads_directives hbuilt hread.numbers)⟩
      exact fun hf => ⟨_, congrArg (Option.map _) hf, fun _ => rfl⟩
    | string r =>
      refine ⟨.string {}, rfl, Leads.lift ?_ (StringRules.leads_directives hbuilt hread.texts)⟩
      exact fun hf => ⟨_, congrArg (Option.map _) hf, fun _ => rfl⟩
    | object r =>
      refine ⟨.object {}, rfl,
        Leads.lift ?_ (ObjectRules.leads_directives hbuilt hread.texts hread.names)⟩
      exact fun hf => ⟨_, congrArg (Option.map _) hf, fun _ => rfl⟩
    | array r =>
      have helements : ∀ e ∈ r.elements.toList, WholeDirectives e.2 ∧
          (entryBlock e).constraint? parse = some e.2.bare := by
        intro e he
        obtain ⟨first, hinit, hleads⟩ := ih e.1 e.2 (ByType.mem_toList.mp he)
        exact ⟨hleads.whole, ElementBlock.constraint?_entryBlock hinit hleads⟩
      refine ⟨.array {}, rfl, Leads.lift ?_
        (ArrayRules.leads_directives hbuilt hread.texts hread.numbers helements)⟩
      exact fun hf => ⟨_, congrArg (Option.map _) hf, fun _ => rfl⟩

/-- **The rendering of a parsed constraint is parsed to the same rules at every depth.**  The texts
that the constraint holds have to be plain, its numbers have to read back from their displayed form,
and no list of names may be a lone number.  What comes back has no notes. -/
theorem parse_directives {t : ValueType} {block : List Char} {c : Constraint}
    (h : parse t block = some c) (hne : c.directives ≠ [])
    (hread : c.EveryDepth (fun _ r => r.Rereadable) t) :
    parse t (", ".intercalate c.directives).toList = some c.bare := by
  obtain ⟨first, hinit, hleads⟩ :=
    Constraint.leads_directives ((boundTo_parse h).and ((built_parse h).and hread))
  rw [String.toList_intercalate, Constraint.bare_eq]
  exact hleads.parse hne hinit (List.forall_mem_singleton.mpr (by decide))

/-- A block of two levels with a note, texts, names and a bound. -/
def orderBlock : List Char :=
  ("note=orders, each(array,each(number,min=2.5)|string,startsWith=ab|object,hasProperties(id,name))" ++
    ", contains=\"x y\", checkType=first(3)").toList

/-- The constraint that this block writes. -/
def orderConstraint : Constraint where
  rules := .array
    { contains := { wanted := some (.string "x y") }
      elements :=
        { string := some ⟨.string { startsWith := { wanted := some "ab" } }, none, none⟩
          object := some ⟨.object { required := ["id", "name"] }, none, none⟩
          array := some ⟨.array
            { elements := { number := some ⟨.number { min := some 2.5 }, none, none⟩ } },
            none, none⟩ }
      mode := some .first
      first := some "3" }
  note := some "orders"

set_option maxRecDepth 10000 in
theorem parse_orderBlock : parse .array orderBlock = some orderConstraint := by
  with_unfolding_all rfl

theorem rereadable_orderConstraint :
    orderConstraint.EveryDepth (fun _ r => r.Rereadable) .array := by
  have hplain : ∀ s ∈ ["x y", "3", "ab", "id", "name"], IsPlain s := by
    simp only [List.forall_mem_cons]
    refine ⟨?_, ?_, ?_, ?_, ?_, nofun⟩ <;>
      exact .of_ascii (by decide) (by decide) (by decide) (by decide)
  have hsome {texts : List String} (h : texts ⊆ ["x y", "3", "ab", "id", "name"]) :
      ∀ s ∈ texts, IsPlain s := fun s hs => hplain s (h hs)
  have hbound : ReadsBack 2.5 := by
    rw [ReadsBack]
    decide +kernel
  have hnames : ∀ names ∈ [["id", "name"], []], ¬ IsLoneNumber names := by
    simp only [List.forall_mem_cons]
    refine ⟨?_, ?_, nofun⟩ <;>
    · rintro ⟨_, _, hlone, -⟩
      cases hlone
  refine .of_toList ⟨hsome (by decide), nofun, nofun⟩ ?_
  show ∀ e ∈ [_, _, _], _
  simp only [List.forall_mem_cons]
  refine ⟨?_, ?_, ?_, nofun⟩
  · exact .of_toList ⟨hsome (by decide), nofun, nofun⟩ nofun
  · exact .of_toList ⟨hsome (by decide), hnames, nofun⟩ nofun
  · refine .of_toList ⟨nofun, nofun, nofun⟩ (List.forall_mem_singleton.mpr ?_)
    exact .of_toList ⟨nofun, nofun, List.forall_mem_singleton.mpr hbound⟩ nofun

theorem parse_directives_two_levels : parse .array orderBlock = some orderConstraint ∧
    orderConstraint.directives ≠ [] ∧
    parse .array (", ".intercalate orderConstraint.directives).toList =
      some { orderConstraint with note := none } :=
  have hne : orderConstraint.directives ≠ [] := by decide +kernel
  ⟨parse_orderBlock, hne, parse_directives parse_orderBlock hne rereadable_orderConstraint⟩

end ShapeCheck
