import Mathlib.Data.Option.Basic
import ShapeCheck.Constraint.BuildLog

/-!
# What directives change

Whether a directive is understood, and what it does then, is decided from the type and the directive
alone, whatever the rules hold by then. `Rules.change?` gives this as a function on rules, and
`Directive.step` as one of four things that a directive can do to the constraint for a type.

* `Rules.adopt_eq` — the setters do what the change says, or nothing;
* `Rules.understood_adopt`, `Rules.record_adopt_of_not_understood` — so whether one fails depends on
  the type of the rules alone, and one that does leaves them untouched;
* `next?_eq`, `buildWith_eq` — building goes through the directives with these steps, and one that
  clears makes all others void.
-/

set_option autoImplicit false

namespace ShapeCheck

/-! ## Changes of rules -/

/-- The change of rules for numbers that a directive makes. -/
def NumberRules.change? (k : Keyword) (negated : Bool) (d : Directive) :
    Option (NumberRules → NumberRules) :=
  if negated then none
  else
    match k with
    | .integer => some fun r => { r with integer := true }
    | .positive => some fun r => { r with positive := true }
    | .negative => some fun r => { r with negative := true }
    | .notZero => some fun r => { r with notZero := true }
    | .min => d.number?.map fun x r => { r with min := some x }
    | .max => d.number?.map fun x r => { r with max := some x }
    | .maxExclusive => d.number?.map fun x r => { r with maxExclusive := some x }
    | _ => none

/-- The change of rules for texts that a directive makes. -/
def StringRules.change? (k : Keyword) (negated : Bool) (d : Directive) :
    Option (StringRules → StringRules) :=
  match k with
  | .minLength =>
    if negated then none else d.length?.map fun n r => { r with minLength := some n }
  | .maxLength =>
    if negated then none else d.length?.map fun n r => { r with maxLength := some n }
  | .startsWith => d.string?.map fun s r => { r with startsWith := r.startsWith.set negated s }
  | .endsWith => d.string?.map fun s r => { r with endsWith := r.endsWith.set negated s }
  | .contains => d.string?.map fun s r => { r with contains := r.contains.set negated s }
  | .match => d.string?.map fun s r => { r with pattern := r.pattern.set negated s }
  | _ => none

/-- The change of rules for objects that a directive makes. -/
def ObjectRules.change? (k : Keyword) (negated : Bool) (d : Directive) :
    Option (ObjectRules → ObjectRules) :=
  match k with
  | .empty =>
    some fun r => if negated then { r with notEmpty := true } else { r with empty := true }
  | .hasProperties =>
    let names := d.argumentItems.map String.ofList
    if names.isEmpty then none
    else some fun r =>
      if negated then { r with forbidden := addNames r.forbidden names }
      else { r with required := addNames r.required names }
  | .instanceOf =>
    (d.string?.filter fun name => !name.isEmpty).map fun name r =>
      { r with instanceOf := r.instanceOf.set negated name }
  | .notNested => if negated then none else some fun r => { r with notNested := true }
  | .noPrototype => if negated then none else some fun r => { r with noPrototype := true }
  | .canSerialize => if negated then none else some fun r => { r with canSerialize := true }
  | .noFalseyProps => if negated then none else some fun r => { r with noFalseyProps := true }
  | .noTruthyProps => if negated then none else some fun r => { r with noTruthyProps := true }
  | _ => none

/-- The change of rules for arrays that a directive makes. -/
def ArrayRules.change? (nested : BlockParser) (k : Keyword) (negated : Bool) (d : Directive) :
    Option (ArrayRules Constraint → ArrayRules Constraint) :=
  match k with
  | .contains =>
    d.rawArgument?.map fun raw r =>
      { r with contains := r.contains.set negated (Value.ofLiteral raw) }
  | .minLength =>
    if negated then none else d.length?.map fun n r => { r with minLength := some n }
  | .maxLength =>
    if negated then none else d.length?.map fun n r => { r with maxLength := some n }
  | .each =>
    if negated then none
    else d.argumentText?.map fun raw r =>
      { r with elements := r.elements.setBlocks nested (ElementBlock.ofArgument raw) }
  | .checkType =>
    if negated then none
    else d.mode?.map fun (mode, first, second) r =>
      { r with mode := some mode, first := first, second := second }
  | _ => none

/-- The change of the rules of a type that a directive makes; rules of other types stay. -/
def Rules.change? (nested : BlockParser) (t : ValueType) (k : Keyword) (negated : Bool)
    (d : Directive) : Option (Rules Constraint → Rules Constraint) :=
  match t with
  | .number => (NumberRules.change? k negated d).map fun f rules =>
    match rules with
    | .number r => .number (f r)
    | rules => rules
  | .string => (StringRules.change? k negated d).map fun f rules =>
    match rules with
    | .string r => .string (f r)
    | rules => rules
  | .object => (ObjectRules.change? k negated d).map fun f rules =>
    match rules with
    | .object r => .object (f r)
    | rules => rules
  | .array => (ArrayRules.change? nested k negated d).map fun f rules =>
    match rules with
    | .array r => .array (f r)
    | rules => rules
  | .none => none
  | .boolean => none
  | .regex => none

/-! ## Setters and changes -/

/-- A record after a change of it, which is untouched where there is none. -/
def Adopted.of {ρ : Type} (r : ρ) (change? : Option (ρ → ρ)) : Adopted ρ :=
  match change? with
  | some f => ⟨f r, true⟩
  | none => ⟨r, false⟩

section

variable {nested : BlockParser} {k : Keyword} {negated : Bool} {d : Directive}

theorem NumberRules.adopt_eq (r : NumberRules) :
    r.adopt k negated d = .of r (change? k negated d) := by
  cases negated with
  | true => rfl
  | false =>
    cases k with
    | min | max | maxExclusive =>
      simp only [adopt, change?, Directive.setNumber]
      cases d.number? <;> rfl
    | _ => rfl

theorem StringRules.adopt_eq (r : StringRules) :
    r.adopt k negated d = .of r (change? k negated d) := by
  cases k with
  | minLength | maxLength =>
    cases negated with
    | true => rfl
    | false =>
      simp only [adopt, change?, Directive.setLength]
      cases d.length? <;> rfl
  | startsWith | endsWith | contains | «match» =>
    simp only [adopt, change?, Directive.setText]
    cases d.string? <;> rfl
  | _ => rfl

theorem ObjectRules.adopt_eq (r : ObjectRules) :
    r.adopt k negated d = .of r (change? k negated d) := by
  cases k with
  | empty => rfl
  | hasProperties =>
    simp only [adopt, change?]
    cases (d.argumentItems.map String.ofList).isEmpty with
    | true => rfl
    | false => cases negated <;> rfl
  | instanceOf =>
    simp only [adopt, change?]
    cases d.string?.filter fun name => !name.isEmpty <;> rfl
  | _ => cases negated <;> rfl

theorem ArrayRules.adopt_eq (r : ArrayRules Constraint) :
    r.adopt nested k negated d = .of r (change? nested k negated d) := by
  cases k with
  | contains =>
    simp only [adopt, change?]
    cases d.rawArgument? <;> rfl
  | minLength | maxLength =>
    cases negated with
    | true => rfl
    | false =>
      simp only [adopt, change?, Directive.setLength]
      cases d.length? <;> rfl
  | each =>
    cases negated with
    | true => rfl
    | false =>
      simp only [adopt, change?]
      cases d.argumentText? <;> rfl
  | checkType =>
    cases negated with
    | true => rfl
    | false =>
      simp only [adopt, change?, setMode]
      cases d.mode? <;> rfl
  | _ => cases negated <;> rfl

theorem Rules.valueType_change? {t : ValueType} {f : Rules Constraint → Rules Constraint}
    (h : Rules.change? nested t k negated d = some f) (r : Rules Constraint) :
    (f r).valueType = r.valueType := by
  cases t with
  | none | boolean | regex => cases h
  | number | string | object | array =>
    obtain ⟨g, -, rfl⟩ := Option.map_eq_some_iff.mp h
    cases r <;> rfl

/-- **The setters do what the change says, or nothing.** -/
theorem Rules.adopt_eq (r : Rules Constraint) :
    r.adopt nested k negated d = .of r (change? nested r.valueType k negated d) := by
  cases r with
  | boolean => rfl
  | regex => rfl
  | number r =>
    simp only [adopt, r.adopt_eq, change?, valueType]
    cases NumberRules.change? k negated d <;> rfl
  | string r =>
    simp only [adopt, r.adopt_eq, change?, valueType]
    cases StringRules.change? k negated d <;> rfl
  | object r =>
    simp only [adopt, r.adopt_eq, change?, valueType]
    cases ObjectRules.change? k negated d <;> rfl
  | array r =>
    simp only [adopt, r.adopt_eq, change?, valueType]
    cases ArrayRules.change? nested k negated d <;> rfl

/-- Whether a setter understands a directive depends on the type of the rules, not on what they
hold. -/
theorem Rules.understood_adopt (r : Rules Constraint) :
    (r.adopt nested k negated d).understood = (change? nested r.valueType k negated d).isSome := by
  rw [r.adopt_eq]
  cases change? nested r.valueType k negated d <;> rfl

/-- **A setter that fails leaves the rules untouched**, whatever was built by then. -/
theorem Rules.record_adopt_of_not_understood {r : Rules Constraint}
    (h : (r.adopt nested k negated d).understood = false) :
    (r.adopt nested k negated d).record = r := by
  rw [r.understood_adopt, Option.isSome_eq_false_iff, Option.isNone_iff_eq_none] at h
  rw [r.adopt_eq, h]
  rfl

end

/-! ## Steps -/

/-- What a directive does to the constraint that is being built. -/
inductive Step where
  /-- The constraint asks for nothing, whatever else is said. -/
  | clear
  | note (text : Option (List Char))
  | change (f : Rules Constraint → Rules Constraint)
  | reject

/-- What a directive does to a constraint for a type. -/
def Directive.step (nested : BlockParser) (t : ValueType) (d : Directive) : Step :=
  match Keyword.ofName? d.name with
  | some (.noConstraint, _) => .clear
  | some (.note, _) => .note d.rawArgument?
  | some (k, implied) =>
    match Rules.change? nested t k (d.negated != implied) d with
    | some f => .change f
    | none => .reject
  | none => .reject

/-- A constraint after one more directive. One that clears it is followed by no other, so what stands
here for it is never reached (`next?_eq`). -/
def Constraint.apply (nested : BlockParser) (t : ValueType) (c : Constraint) (d : Directive) :
    Constraint :=
  match d.step nested t with
  | .clear => c
  | .note text => { c with note := text.map String.ofList }
  | .change f => { c with rules := f c.rules }
  | .reject => { c with badName := c.badName <|> some (String.ofList d.text) }

section

variable {nested : BlockParser} {t : ValueType} {d : Directive}

theorem Directive.step_eq_change {f : Rules Constraint → Rules Constraint}
    (h : d.step nested t = .change f) :
    ∃ k implied, Keyword.ofName? d.name = some (k, implied) ∧ k ≠ .note ∧
      Rules.change? nested t k (d.negated != implied) d = some f := by
  rw [Directive.step] at h
  split at h
  · cases h
  · cases h
  · rename_i k implied _ hnote hname
    split at h
    · cases h
      exact ⟨k, implied, hname, hnote, ‹_›⟩
    · cases h
  · cases h

/-- **One directive is one step**, unless it clears what was built. -/
theorem next?_eq {c : Constraint} (hc : c.valueType = t) :
    c.next? nested d = if d.clears then none else some (c.apply nested t d) := by
  subst hc
  unfold Constraint.next? Directive.clears Constraint.apply Directive.step
  cases Keyword.ofName? d.name with
  | none => rfl
  | some spelled =>
    obtain ⟨k, implied⟩ := spelled
    cases k with
    | noConstraint => rfl
    | note => rfl
    | _ =>
      -- a keyword for rules: the constraint keeps what the setter left, whether it failed or not
      simp only [Rules.adopt_eq, Constraint.valueType, Bool.false_eq_true, if_false]
      cases Rules.change? nested c.rules.valueType _ (d.negated != implied) d <;> rfl

theorem valueType_apply (nested : BlockParser) (t : ValueType) (c : Constraint) (d : Directive) :
    (c.apply nested t d).valueType = c.valueType := by
  unfold Constraint.apply
  cases hstep : d.step nested t with
  | change f =>
    obtain ⟨k, implied, -, -, hf⟩ := Directive.step_eq_change hstep
    exact Rules.valueType_change? hf c.rules
  | _ => rfl

theorem valueType_foldl (nested : BlockParser) (t : ValueType) (ds : List Directive)
    (c : Constraint) : (ds.foldl (Constraint.apply nested t) c).valueType = c.valueType := by
  induction ds generalizing c with
  | nil => rfl
  | cons d ds ih => rw [List.foldl_cons, ih, valueType_apply]

end

/-! ## Directives one by one -/

section

variable (nested : BlockParser) {t : ValueType} (first : Constraint)

/-- **Whatever was built so far, and whatever follows, a clearing directive leads back.** -/
theorem applyUntilClear_of_clears : ∀ {c : Constraint} {ds : List Directive}, c.valueType = t →
    ds.any Directive.clears = true → c.applyUntilClear nested first ds = first
  | _, [], _, h => by cases h
  | c, d :: ds, hc, h => by
    rw [Constraint.applyUntilClear, next?_eq hc]
    cases hd : d.clears with
    | true => rfl
    | false =>
      rw [List.any_cons, hd, Bool.false_or] at h
      exact applyUntilClear_of_clears ((valueType_apply nested t c d).trans hc) h

theorem applyUntilClear_of_not_clears : ∀ {c : Constraint} {ds : List Directive},
    c.valueType = t → ds.any Directive.clears = false →
      c.applyUntilClear nested first ds = ds.foldl (Constraint.apply nested t) c
  | _, [], _, _ => rfl
  | c, d :: ds, hc, h => by
    obtain ⟨hd, hds⟩ := Bool.or_eq_false_iff.mp h
    rw [Constraint.applyUntilClear, next?_eq hc, hd]
    exact applyUntilClear_of_not_clears ((valueType_apply nested t c d).trans hc) hds

end

/-- **Building goes through the steps**, and one clearing directive makes all others void. -/
theorem buildWith_eq (nested : BlockParser) (t : ValueType) (ds : List Directive) :
    buildWith nested t ds =
      if ds.isEmpty then none
      else (Constraint.initial? t).map fun first =>
        if ds.any Directive.clears then first else ds.foldl (Constraint.apply nested t) first := by
  rw [buildWith]
  split
  · rfl
  · refine Option.map_congr fun first hfirst => ?_
    have ht : first.valueType = t := Constraint.valueType_of_initial? hfirst
    cases hany : ds.any Directive.clears with
    | true => exact applyUntilClear_of_clears nested first ht hany
    | false => exact applyUntilClear_of_not_clears nested first ht hany

end ShapeCheck
