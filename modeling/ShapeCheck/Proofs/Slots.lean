import ShapeCheck.Proofs.Acceptance
import ShapeCheck.Proofs.DirectiveForms
import ShapeCheck.Proofs.TypeBinding

/-!
# Slots of a constraint

Every directive writes one slot of a constraint: the note, or what one keyword sets in one polarity.
`Constraint.content` reads a slot, and rules are known once all their slots are.

* `eq_of_content` — two records of rules for one type with the same slots are equal;
* `content_apply_of_ne`, `exists_update_apply` — one directive: other slots stay as they are, and
  what its own slot holds afterwards is a fixed update of what it held before;
* `content_foldl` — a list of directives: what a slot holds comes from the directives of that slot;
* `slot_order` — so the order of directives matters only within a slot.
-/

set_option autoImplicit false

namespace ShapeCheck

/-! ## Slots and what they hold -/

/-- What a directive writes to. -/
inductive Slot where
  | note
  | rule (k : Keyword) (negated : Bool)
  deriving DecidableEq, Repr

/-- The slot of a directive whose keyword is known; all notes share one. -/
def Directive.slot? (d : Directive) : Option Slot :=
  match Keyword.ofName? d.name with
  | some (.note, _) => some .note
  | some (k, implied) => some (.rule k (d.negated != implied))
  | none => none

/-- What a slot holds. -/
inductive Content where
  | nothing
  | flag (set : Bool)
  | bound (limit : Option Float)
  | length (limit : Option Nat)
  | text (text : Option String)
  | names (names : List String)
  | item (item : Option Value)
  | elements (elements : ByType Constraint)
  | mode (mode : Option Mode) (first second : Option String)

/-- One side of a rule. -/
def TwoSided.side {α : Type} (r : TwoSided α) (negated : Bool) : Option α :=
  if negated then r.unwanted else r.wanted

theorem TwoSided.eq_of_side {α : Type} {r r' : TwoSided α}
    (h : ∀ negated, r.side negated = r'.side negated) : r = r' := by
  obtain ⟨wanted, unwanted⟩ := r
  obtain ⟨wanted', unwanted'⟩ := r'
  obtain rfl : wanted = wanted' := h false
  obtain rfl : unwanted = unwanted' := h true
  rfl

/-- What a keyword holds in rules for numbers. -/
def NumberRules.content (r : NumberRules) : Keyword → Bool → Content
  | .integer, false => .flag r.integer
  | .positive, false => .flag r.positive
  | .negative, false => .flag r.negative
  | .notZero, false => .flag r.notZero
  | .min, false => .bound r.min
  | .max, false => .bound r.max
  | .maxExclusive, false => .bound r.maxExclusive
  | _, _ => .nothing

/-- What a keyword holds in rules for texts. -/
def StringRules.content (r : StringRules) : Keyword → Bool → Content
  | .minLength, false => .length r.minLength
  | .maxLength, false => .length r.maxLength
  | .startsWith, negated => .text (r.startsWith.side negated)
  | .endsWith, negated => .text (r.endsWith.side negated)
  | .contains, negated => .text (r.contains.side negated)
  | .match, negated => .text (r.pattern.side negated)
  | _, _ => .nothing

/-- What a keyword holds in rules for objects. -/
def ObjectRules.content (r : ObjectRules) : Keyword → Bool → Content
  | .empty, false => .flag r.empty
  | .empty, true => .flag r.notEmpty
  | .hasProperties, false => .names r.required
  | .hasProperties, true => .names r.forbidden
  | .instanceOf, negated => .text (r.instanceOf.side negated)
  | .notNested, false => .flag r.notNested
  | .noPrototype, false => .flag r.noPrototype
  | .canSerialize, false => .flag r.canSerialize
  | .noFalseyProps, false => .flag r.noFalseyProps
  | .noTruthyProps, false => .flag r.noTruthyProps
  | _, _ => .nothing

/-- What a keyword holds in rules for arrays. -/
def ArrayRules.content (r : ArrayRules Constraint) : Keyword → Bool → Content
  | .minLength, false => .length r.minLength
  | .maxLength, false => .length r.maxLength
  | .contains, negated => .item (r.contains.side negated)
  | .each, false => .elements r.elements
  | .checkType, false => .mode r.mode r.first r.second
  | _, _ => .nothing

/-- What a keyword holds in rules. -/
def Rules.content : Rules Constraint → Keyword → Bool → Content
  | .number r => r.content
  | .string r => r.content
  | .object r => r.content
  | .array r => r.content
  | .boolean => fun _ _ => .nothing
  | .regex => fun _ _ => .nothing

/-- What a slot of a constraint holds. -/
def Constraint.content (c : Constraint) : Slot → Content
  | .note => .text c.note
  | .rule k negated => c.rules.content k negated

/-! ## Rules for one type -/

namespace Rules

variable {α : Type} {r : Rules α}

theorem eq_boolean (h : r.valueType = .boolean) : r = .boolean := by
  cases r <;> first | rfl | cases h

theorem eq_regex (h : r.valueType = .regex) : r = .regex := by
  cases r <;> first | rfl | cases h

theorem exists_number (h : r.valueType = .number) : ∃ n, r = .number n := by
  cases r <;> first | exact ⟨_, rfl⟩ | cases h

theorem exists_string (h : r.valueType = .string) : ∃ n, r = .string n := by
  cases r <;> first | exact ⟨_, rfl⟩ | cases h

theorem exists_object (h : r.valueType = .object) : ∃ n, r = .object n := by
  cases r <;> first | exact ⟨_, rfl⟩ | cases h

theorem exists_array (h : r.valueType = .array) : ∃ n, r = .array n := by
  cases r <;> first | exact ⟨_, rfl⟩ | cases h

end Rules

/-! ## Slots determine rules -/

theorem NumberRules.eq_of_content {r r' : NumberRules}
    (h : ∀ k negated, r.content k negated = r'.content k negated) : r = r' := by
  have h₁ := Content.flag.inj (h .integer false)
  have h₂ := Content.flag.inj (h .positive false)
  have h₃ := Content.flag.inj (h .negative false)
  have h₄ := Content.flag.inj (h .notZero false)
  have h₅ := Content.bound.inj (h .min false)
  have h₆ := Content.bound.inj (h .max false)
  have h₇ := Content.bound.inj (h .maxExclusive false)
  cases r
  cases r'
  simp_all

theorem StringRules.eq_of_content {r r' : StringRules}
    (h : ∀ k negated, r.content k negated = r'.content k negated) : r = r' := by
  have h₁ := Content.length.inj (h .minLength false)
  have h₂ := Content.length.inj (h .maxLength false)
  have h₃ := TwoSided.eq_of_side fun negated => Content.text.inj (h .startsWith negated)
  have h₄ := TwoSided.eq_of_side fun negated => Content.text.inj (h .endsWith negated)
  have h₅ := TwoSided.eq_of_side fun negated => Content.text.inj (h .contains negated)
  have h₆ := TwoSided.eq_of_side fun negated => Content.text.inj (h .match negated)
  cases r
  cases r'
  simp_all

theorem ObjectRules.eq_of_content {r r' : ObjectRules}
    (h : ∀ k negated, r.content k negated = r'.content k negated) : r = r' := by
  have h₁ := Content.flag.inj (h .empty false)
  have h₂ := Content.flag.inj (h .empty true)
  have h₃ := Content.names.inj (h .hasProperties false)
  have h₄ := Content.names.inj (h .hasProperties true)
  have h₅ := TwoSided.eq_of_side fun negated => Content.text.inj (h .instanceOf negated)
  have h₆ := Content.flag.inj (h .notNested false)
  have h₇ := Content.flag.inj (h .noPrototype false)
  have h₈ := Content.flag.inj (h .canSerialize false)
  have h₉ := Content.flag.inj (h .noFalseyProps false)
  have h₁₀ := Content.flag.inj (h .noTruthyProps false)
  cases r
  cases r'
  simp_all

theorem ArrayRules.eq_of_content {r r' : ArrayRules Constraint}
    (h : ∀ k negated, r.content k negated = r'.content k negated) : r = r' := by
  have h₁ := Content.length.inj (h .minLength false)
  have h₂ := Content.length.inj (h .maxLength false)
  have h₃ := TwoSided.eq_of_side fun negated => Content.item.inj (h .contains negated)
  have h₄ := Content.elements.inj (h .each false)
  obtain ⟨h₅, h₆, h₇⟩ := Content.mode.inj (h .checkType false)
  cases r
  cases r'
  simp_all

/-- **Rules for one type with the same slots are equal.** -/
theorem eq_of_content {r r' : Rules Constraint} (ht : r.valueType = r'.valueType)
    (h : ∀ k negated, r.content k negated = r'.content k negated) : r = r' := by
  cases r with
  | boolean => exact (Rules.eq_boolean ht.symm).symm
  | regex => exact (Rules.eq_regex ht.symm).symm
  | number r =>
    obtain ⟨r', rfl⟩ := Rules.exists_number ht.symm
    rw [NumberRules.eq_of_content h]
  | string r =>
    obtain ⟨r', rfl⟩ := Rules.exists_string ht.symm
    rw [StringRules.eq_of_content h]
  | object r =>
    obtain ⟨r', rfl⟩ := Rules.exists_object ht.symm
    rw [ObjectRules.eq_of_content h]
  | array r =>
    obtain ⟨r', rfl⟩ := Rules.exists_array ht.symm
    rw [ArrayRules.eq_of_content h]

/-! ## Changes write one slot -/

/-- Names that are put to those a slot holds. -/
def Content.withNames (new : List String) : Content → Content
  | .names known => .names (addNames known new)
  | content => content

/-- Constraints of blocks that are set in those a slot holds. -/
def Content.withBlocks (nested : BlockParser) (blocks : List ElementBlock) : Content → Content
  | .elements known => .elements (known.setBlocks nested blocks)
  | content => content

/-- How a slot is written: something is put in the place of what it holds, or names and blocks are
added to it. -/
inductive Content.Update where
  | put (content : Content)
  | extend (new : List String) (blocks : List ElementBlock)

/-- What a slot holds after an update. -/
def Content.Update.run (nested : BlockParser) : Content.Update → Content → Content
  | .put content, _ => content
  | .extend new blocks, content => (content.withNames new).withBlocks nested blocks

theorem Content.Update.run_extend_nil (nested : BlockParser) (content : Content) :
    (Content.Update.extend [] []).run nested content = content := by
  cases content <;> rfl

/-- A change of rules writes one slot: what the slot holds afterwards is an update of what it held
before, and every other slot stays as it is. -/
def Writes {ρ : Type} (nested : BlockParser) (content : ρ → Keyword → Bool → Content) (k : Keyword)
    (negated : Bool) (f : ρ → ρ) : Prop :=
  ∃ u : Content.Update, ∀ r k' negated', content (f r) k' negated' =
    if k' = k ∧ negated' = negated then u.run nested (content r k negated)
    else content r k' negated'

section

variable (nested : BlockParser) {k : Keyword} {negated : Bool} {d : Directive}

theorem NumberRules.writes_change? {f : NumberRules → NumberRules}
    (h : NumberRules.change? k negated d = some f) : Writes nested content k negated f := by
  cases negated with
  | true => cases h
  | false =>
    cases k with
    | integer | positive | negative | notZero =>
      cases h
      refine ⟨.put (.flag true), fun r k' negated' => ?_⟩
      cases k' <;> cases negated' <;> rfl
    | min | max | maxExclusive =>
      obtain ⟨x, -, rfl⟩ := Option.map_eq_some_iff.mp h
      refine ⟨.put (.bound (some x)), fun r k' negated' => ?_⟩
      cases k' <;> cases negated' <;> rfl
    | _ => cases h

theorem StringRules.writes_change? {f : StringRules → StringRules}
    (h : StringRules.change? k negated d = some f) : Writes nested content k negated f := by
  cases k with
  | minLength | maxLength =>
    cases negated with
    | true => cases h
    | false =>
      obtain ⟨n, -, rfl⟩ := Option.map_eq_some_iff.mp h
      refine ⟨.put (.length (some n)), fun r k' negated' => ?_⟩
      cases k' <;> cases negated' <;> rfl
  | startsWith | endsWith | contains | «match» =>
    obtain ⟨text, -, rfl⟩ := Option.map_eq_some_iff.mp h
    refine ⟨.put (.text (some text)), fun r k' negated' => ?_⟩
    cases k' <;> cases negated' <;> cases negated <;> rfl
  | _ => cases h

theorem ObjectRules.writes_change? {f : ObjectRules → ObjectRules}
    (h : ObjectRules.change? k negated d = some f) : Writes nested content k negated f := by
  cases k with
  | empty =>
    cases h
    refine ⟨.put (.flag true), fun r k' negated' => ?_⟩
    cases k' <;> cases negated' <;> cases negated <;> rfl
  | hasProperties =>
    rw [ObjectRules.change?] at h
    split at h
    · cases h
    · cases h
      refine ⟨.extend (d.argumentItems.map String.ofList) [], fun r k' negated' => ?_⟩
      cases k' <;> cases negated' <;> cases negated <;> rfl
  | instanceOf =>
    obtain ⟨name, -, rfl⟩ := Option.map_eq_some_iff.mp h
    refine ⟨.put (.text (some name)), fun r k' negated' => ?_⟩
    cases k' <;> cases negated' <;> cases negated <;> rfl
  | notNested | noPrototype | canSerialize | noFalseyProps | noTruthyProps =>
    cases negated with
    | true => cases h
    | false =>
      cases h
      refine ⟨.put (.flag true), fun r k' negated' => ?_⟩
      cases k' <;> cases negated' <;> rfl
  | _ => cases h

theorem ArrayRules.writes_change? {f : ArrayRules Constraint → ArrayRules Constraint}
    (h : ArrayRules.change? nested k negated d = some f) : Writes nested content k negated f := by
  cases k with
  | contains =>
    obtain ⟨raw, -, rfl⟩ := Option.map_eq_some_iff.mp h
    refine ⟨.put (.item (some (Value.ofLiteral raw))), fun r k' negated' => ?_⟩
    cases k' <;> cases negated' <;> cases negated <;> rfl
  | minLength | maxLength =>
    cases negated with
    | true => cases h
    | false =>
      obtain ⟨n, -, rfl⟩ := Option.map_eq_some_iff.mp h
      refine ⟨.put (.length (some n)), fun r k' negated' => ?_⟩
      cases k' <;> cases negated' <;> rfl
  | each =>
    cases negated with
    | true => cases h
    | false =>
      obtain ⟨raw, -, rfl⟩ := Option.map_eq_some_iff.mp h
      refine ⟨.extend [] (ElementBlock.ofArgument raw), fun r k' negated' => ?_⟩
      cases k' <;> cases negated' <;> rfl
  | checkType =>
    cases negated with
    | true => cases h
    | false =>
      obtain ⟨⟨mode, first, second⟩, -, rfl⟩ := Option.map_eq_some_iff.mp h
      refine ⟨.put (.mode (some mode) first second), fun r k' negated' => ?_⟩
      cases k' <;> cases negated' <;> rfl
  | _ => cases h

end

/-- **A change of rules for a type writes one slot** of rules for that type. -/
theorem writes_change? {nested : BlockParser} {t : ValueType} {k : Keyword} {negated : Bool}
    {d : Directive} {f : Rules Constraint → Rules Constraint}
    (h : Rules.change? nested t k negated d = some f) :
    ∃ u : Content.Update, ∀ r, r.valueType = t → ∀ k' negated', (f r).content k' negated' =
      if k' = k ∧ negated' = negated then u.run nested (r.content k negated)
      else r.content k' negated' := by
  cases t with
  | none | boolean | regex => cases h
  | number =>
    obtain ⟨f, hf, rfl⟩ := Option.map_eq_some_iff.mp h
    obtain ⟨u, hu⟩ := NumberRules.writes_change? nested hf
    refine ⟨u, fun r hr => ?_⟩
    obtain ⟨r, rfl⟩ := Rules.exists_number hr
    exact hu r
  | string =>
    obtain ⟨f, hf, rfl⟩ := Option.map_eq_some_iff.mp h
    obtain ⟨u, hu⟩ := StringRules.writes_change? nested hf
    refine ⟨u, fun r hr => ?_⟩
    obtain ⟨r, rfl⟩ := Rules.exists_string hr
    exact hu r
  | object =>
    obtain ⟨f, hf, rfl⟩ := Option.map_eq_some_iff.mp h
    obtain ⟨u, hu⟩ := ObjectRules.writes_change? nested hf
    refine ⟨u, fun r hr => ?_⟩
    obtain ⟨r, rfl⟩ := Rules.exists_object hr
    exact hu r
  | array =>
    obtain ⟨f, hf, rfl⟩ := Option.map_eq_some_iff.mp h
    obtain ⟨u, hu⟩ := ArrayRules.writes_change? nested hf
    refine ⟨u, fun r hr => ?_⟩
    obtain ⟨r, rfl⟩ := Rules.exists_array hr
    exact hu r

/-! ## Directives -/

section

variable {nested : BlockParser} {t : ValueType} {d : Directive} {c c' : Constraint} {slot : Slot}

theorem Directive.slot?_of_change {f : Rules Constraint → Rules Constraint}
    (h : d.step nested t = .change f) :
    ∃ k negated, d.slot? = some (.rule k negated) ∧ Rules.change? nested t k negated d = some f := by
  obtain ⟨k, implied, hname, hnote, hf⟩ := step_eq_change h
  refine ⟨k, d.negated != implied, ?_, hf⟩
  rw [slot?, hname]
  cases k with
  | note => exact absurd rfl hnote
  | _ => rfl

theorem Directive.slot?_of_note {text : Option (List Char)} (h : d.step nested t = .note text) :
    d.slot? = some .note := by
  rw [step] at h
  split at h
  · cases h
  · rw [slot?, ‹Keyword.ofName? d.name = _›]
  · split at h <;> cases h
  · cases h

/-- A directive leaves every slot but its own as it is. -/
theorem content_apply_of_ne (ht : c.valueType = t) (h : d.slot? ≠ some slot) :
    (c.apply nested t d).content slot = c.content slot := by
  unfold Constraint.apply
  cases hstep : d.step nested t with
  | clear => rfl
  | reject => cases slot <;> rfl
  | note text =>
    cases slot with
    | note => exact absurd (Directive.slot?_of_note hstep) h
    | rule k negated => rfl
  | change f =>
    obtain ⟨k, negated, hslot, hf⟩ := Directive.slot?_of_change hstep
    cases slot with
    | note => rfl
    | rule k' negated' =>
      obtain ⟨u, hu⟩ := writes_change? hf
      have hne : ¬(k' = k ∧ negated' = negated) := by
        rintro ⟨rfl, rfl⟩
        exact h hslot
      show (f c.rules).content k' negated' = _
      rw [hu c.rules ht, if_neg hne]
      rfl

/-- **A directive makes one update of a slot**, whatever the constraint for the type is. -/
theorem exists_update_apply (nested : BlockParser) (t : ValueType) (d : Directive) (slot : Slot) :
    ∃ u : Content.Update, ∀ c : Constraint, c.valueType = t →
      (c.apply nested t d).content slot = u.run nested (c.content slot) := by
  by_cases hslot : d.slot? = some slot
  · unfold Constraint.apply
    cases hstep : d.step nested t with
    | clear => exact ⟨.extend [] [], fun c _ => (Content.Update.run_extend_nil nested _).symm⟩
    | reject =>
      refine ⟨.extend [] [], fun c _ => ?_⟩
      rw [Content.Update.run_extend_nil]
      cases slot <;> rfl
    | note text =>
      obtain rfl := Option.some.inj (hslot.symm.trans (Directive.slot?_of_note hstep))
      exact ⟨.put (.text (text.map String.ofList)), fun c _ => rfl⟩
    | change f =>
      obtain ⟨k, negated, hown, hf⟩ := Directive.slot?_of_change hstep
      obtain rfl := Option.some.inj (hslot.symm.trans hown)
      obtain ⟨u, hu⟩ := writes_change? hf
      refine ⟨u, fun c ht => ?_⟩
      show (f c.rules).content k negated = _
      rw [hu c.rules ht, if_pos ⟨rfl, rfl⟩]
      rfl
  · refine ⟨.extend [] [], fun c ht => ?_⟩
    rw [content_apply_of_ne ht hslot, Content.Update.run_extend_nil]

/-- What a slot holds after a directive depends on what it held before and on nothing else. -/
theorem content_apply_congr (ht : c.valueType = t) (ht' : c'.valueType = t)
    (h : c.content slot = c'.content slot) :
    (c.apply nested t d).content slot = (c'.apply nested t d).content slot := by
  obtain ⟨u, hu⟩ := exists_update_apply nested t d slot
  rw [hu c ht, hu c' ht', h]

end

/-! ## Lists of directives -/

section

variable {nested : BlockParser} {t : ValueType}

/-- **What a slot holds comes from the directives of that slot**, in their order, and from what the
slot held at first. -/
theorem content_foldl {slot : Slot} : ∀ {ds : List Directive} {c c' : Constraint},
    c.valueType = t → c'.valueType = t → c.content slot = c'.content slot →
    (ds.foldl (Constraint.apply nested t) c).content slot =
      ((ds.filter (·.slot? = some slot)).foldl (Constraint.apply nested t) c').content slot
  | [], _, _, _, _, h => h
  | d :: ds, c, c', ht, ht', h => by
    have hnext : (c.apply nested t d).valueType = t := (valueType_apply nested t c d).trans ht
    by_cases hslot : d.slot? = some slot
    · rw [List.filter_cons_of_pos (by simpa using hslot)]
      exact content_foldl hnext ((valueType_apply nested t c' d).trans ht')
        (content_apply_congr ht ht' h)
    · rw [List.filter_cons_of_neg (by simpa using hslot)]
      exact content_foldl hnext ht' ((content_apply_of_ne ht hslot).trans h)

theorem content_foldl_congr {slot : Slot} {ds : List Directive} {c c' : Constraint}
    (ht : c.valueType = t) (ht' : c'.valueType = t) (h : c.content slot = c'.content slot) :
    (ds.foldl (Constraint.apply nested t) c).content slot =
      (ds.foldl (Constraint.apply nested t) c').content slot := by
  rw [content_foldl ht ht' h, ← content_foldl ht' ht' rfl]

/-- Constraints of one type whose slots hold the same are alike. -/
theorem Constraint.Alike.of_content {c c' : Constraint} (ht : c.valueType = c'.valueType)
    (h : ∀ slot, c.content slot = c'.content slot) : c.Alike c' where
  rules := eq_of_content ht fun k negated => h (.rule k negated)
  note := Content.text.inj (h .note)

/-- Lists with the same directives of each slot, in the same order, lead to the same rules and the
same note. -/
theorem alike_foldl_of_slots {ds₁ ds₂ : List Directive}
    (h : ∀ slot, ds₁.filter (·.slot? = some slot) = ds₂.filter (·.slot? = some slot))
    {c : Constraint} (ht : c.valueType = t) :
    (ds₁.foldl (Constraint.apply nested t) c).Alike (ds₂.foldl (Constraint.apply nested t) c) := by
  refine .of_content (by rw [valueType_foldl, valueType_foldl]) fun slot => ?_
  rw [content_foldl ht ht rfl, h slot, ← content_foldl ht ht rfl]

end

/-- Two lists hold the same directives, and those of each slot in the same order. -/
structure Directive.SameBySlot (ds₁ ds₂ : List Directive) : Prop where
  perm : ds₁.Perm ds₂
  order : ∀ slot, ds₁.filter (·.slot? = some slot) = ds₂.filter (·.slot? = some slot)

/-- **The order of directives matters only within a slot.**  Directives that do not clear the
constraint may be rearranged, as long as those of each slot keep their order: they build the same
rules and the same note for every type, so all checks against what they build are the same. -/
theorem slot_order {ds₁ ds₂ : List Directive} (h : Directive.SameBySlot ds₁ ds₂)
    (hclear : ∀ d ∈ ds₁, d.clears = false) (t : ValueType) :
    (build t ds₁).isSome = (build t ds₂).isSome ∧
      ∀ c₁ ∈ build t ds₁, ∀ c₂ ∈ build t ds₂, c₁.rules = c₂.rules ∧ c₁.note = c₂.note ∧
        ∀ {σ : Type} (sampler : Sampler σ) (v : Value) (s : σ),
          c₁.test sampler v s = c₂.test sampler v s := by
  rcases eq_or_ne ds₁ [] with rfl | hne₁
  · obtain rfl : ds₂ = [] := h.perm.nil_eq.symm
    exact ⟨rfl, nofun⟩
  · have hne₂ : ds₂ ≠ [] := fun hnil => hne₁ (hnil ▸ h.perm).eq_nil
    have hclear₂ : ∀ d ∈ ds₂, d.clears = false := fun d hd => hclear d (h.perm.mem_iff.mpr hd)
    cases hfirst : Constraint.initial? t with
    | none =>
      have hnone : ∀ ds, build t ds = none := fun ds => by simp [build, buildWith, hfirst]
      rw [hnone, hnone]
      exact ⟨rfl, fun _ hc₁ => absurd hc₁ (Option.not_mem_none _)⟩
    | some first =>
      have halike : (ds₁.foldl (Constraint.apply parse t) first).Alike
          (ds₂.foldl (Constraint.apply parse t) first) :=
        alike_foldl_of_slots h.order (Constraint.valueType_of_initial? hfirst)
      rw [build_eq_foldl hfirst hne₁ hclear, build_eq_foldl hfirst hne₂ hclear₂]
      refine ⟨rfl, ?_⟩
      rintro c₁ ⟨⟩ c₂ ⟨⟩
      exact ⟨halike.rules, halike.note, fun sampler v s => halike.test sampler v s⟩

/-- Two constraints for elements that keep their order, and an unwanted element that moves. -/
theorem slot_order_each :
    let long := Directive.ofCall false "each".toList "string,minLength=2".toList
    let any := Directive.ofCall false "each".toList "string".toList
    let noNull := Directive.ofKeyed true "contains".toList "null".toList
    Directive.SameBySlot [long, noNull, any] [noNull, long, any] ∧
      (∀ d ∈ [long, noNull, any], d.clears = false) ∧
      ∃ c₁ c₂, build .array [long, noNull, any] = some c₁ ∧
        build .array [noNull, long, any] = some c₂ ∧ c₁.rules = c₂.rules := by
  intro long any noNull
  have hlong : long.slot? = some (.rule .each false) := by decide +kernel
  have hany : any.slot? = some (.rule .each false) := by decide +kernel
  have hnull : noNull.slot? = some (.rule .contains true) := by decide +kernel
  have hsame : Directive.SameBySlot [long, noNull, any] [noNull, long, any] := by
    refine ⟨.swap noNull long [any], fun slot => ?_⟩
    by_cases hslot : slot = .rule .each false
    · simp [hlong, hany, hnull, hslot]
    · simp [List.filter_cons, hlong, hany, hnull, Ne.symm hslot]
  have hclear : ∀ d ∈ [long, noNull, any], d.clears = false := by decide +kernel
  obtain ⟨c₁, hc₁⟩ : ∃ c, build .array [long, noNull, any] = some c := ⟨_, rfl⟩
  obtain ⟨c₂, hc₂⟩ : ∃ c, build .array [noNull, long, any] = some c := ⟨_, rfl⟩
  exact ⟨hsame, hclear, c₁, c₂, hc₁, hc₂, ((slot_order hsame hclear .array).2 c₁ hc₁ c₂ hc₂).1⟩

end ShapeCheck
