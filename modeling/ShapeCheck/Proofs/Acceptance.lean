import ShapeCheck.Check.Basic
import ShapeCheck.Proofs.EveryDepth

/-!
# Which directives are understood

The builder decides directive by directive whether it understands one.  `Keyword.form?` lists what
each keyword takes as its argument in the constraints of a type, and `Directive.accepted` asks for
a keyword of that type, in a polarity that it has, with an argument of that form.  Neither looks at
the constraint that is being built.

* `isSome_change?` — the rules of a type change exactly under accepted directives;
* `Rules.understood_adopt_eq`, `Rules.understand_eq` — so the setters understand these and no others,
  and the others are reported;
* `apply_of_rejected`, `badName_apply_of_accepted` — one directive: what is not understood is
  remembered and has no other effect;
* `alike_foldl_accepted`, `badName_foldl` — a list of directives: rules and note come from the
  accepted ones, and the first one that is not understood is remembered;
* `rejected_inert` — what follows for what is built and for checks against it.
-/

set_option autoImplicit false

namespace ShapeCheck

/-! ## Accepted directives -/

/-- What a keyword takes as its argument. -/
inductive ArgumentForm where
  | nothing
  | number
  | length
  | text
  | name
  | names
  | literal
  | mode
  deriving DecidableEq, Repr

/-- The argument that a keyword takes in the constraints of a type, by polarity; there is none where
values of the type have no such rule. -/
def Keyword.form? (k : Keyword) : ValueType → Bool → Option ArgumentForm
  | .number, false =>
    match k with
    | .integer | .positive | .negative | .notZero => some .nothing
    | .min | .max | .maxExclusive => some .number
    | _ => none
  | .string, negated =>
    match k with
    | .minLength | .maxLength => if negated then none else some .length
    | .startsWith | .endsWith | .contains | .match => some .text
    | _ => none
  | .object, negated =>
    match k with
    | .empty => some .nothing
    | .hasProperties => some .names
    | .instanceOf => some .name
    | .notNested | .noPrototype | .canSerialize | .noFalseyProps | .noTruthyProps =>
      if negated then none else some .nothing
    | _ => none
  | .array, negated =>
    match k with
    | .contains => some .literal
    | .minLength | .maxLength => if negated then none else some .length
    | .each => if negated then none else some .text
    | .checkType => if negated then none else some .mode
    | _ => none
  | _, _ => none

namespace Directive

/-- Whether a directive has an argument of a form. -/
def gives (d : Directive) : ArgumentForm → Bool
  | .nothing => true
  | .number => d.number?.isSome
  | .length => d.length?.isSome
  | .text => d.string?.isSome
  | .name => d.string?.any fun name => !name.isEmpty
  | .names => !d.argumentItems.isEmpty
  | .literal => d.rawArgument?.isSome
  | .mode => d.mode?.isSome

/-- Whether a directive is understood in a constraint for a type: it is a note, or its keyword is
one of the type in the polarity given, and it has the argument that the keyword takes. -/
def accepted (t : ValueType) (d : Directive) : Bool :=
  match Keyword.ofName? d.name with
  | some (.note, _) => true
  | some (k, implied) => (k.form? t (d.negated != implied)).any d.gives
  | none => false

/-- The text of the first directive that is not understood. -/
def firstRejected? (t : ValueType) (ds : List Directive) : Option String :=
  (ds.find? fun d => !d.accepted t).map fun d => String.ofList d.text

end Directive

/-! ## One directive -/

section

variable {nested : BlockParser} {t : ValueType} {k : Keyword} {negated : Bool} {d : Directive}

theorem NumberRules.isSome_change? :
    (NumberRules.change? k negated d).isSome = (k.form? .number negated).any d.gives := by
  cases negated with
  | true => rfl
  | false => cases k <;> simp [change?, Keyword.form?, Directive.gives]

theorem StringRules.isSome_change? :
    (StringRules.change? k negated d).isSome = (k.form? .string negated).any d.gives := by
  cases k <;> cases negated <;> simp [change?, Keyword.form?, Directive.gives]

theorem ObjectRules.isSome_change? :
    (ObjectRules.change? k negated d).isSome = (k.form? .object negated).any d.gives := by
  cases k with
  | hasProperties =>
    unfold change?
    cases hitems : d.argumentItems with
    | nil => simp [hitems, Keyword.form?, Directive.gives]
    | cons item items => simp [hitems, Keyword.form?, Directive.gives]
  | instanceOf =>
    unfold change?
    cases hname : d.string? with
    | none => simp [hname, Keyword.form?, Directive.gives]
    | some name => cases h : name.isEmpty <;> simp [hname, h, Keyword.form?, Directive.gives]
  | _ => cases negated <;> simp [change?, Keyword.form?, Directive.gives]

theorem ArrayRules.isSome_change? :
    (ArrayRules.change? nested k negated d).isSome = (k.form? .array negated).any d.gives := by
  cases k <;> cases negated <;>
    simp [change?, Keyword.form?, Directive.gives, Directive.string?]

/-- **A directive changes the rules of a type iff its keyword has the right form**, whatever the
rules are by then. -/
theorem isSome_change? (nested : BlockParser) (t : ValueType) (k : Keyword) (negated : Bool)
    (d : Directive) :
    (Rules.change? nested t k negated d).isSome = (k.form? t negated).any d.gives := by
  cases t with
  | none | boolean | regex => rfl
  | number => rw [← NumberRules.isSome_change?]; simp [Rules.change?]
  | string => rw [← StringRules.isSome_change?]; simp [Rules.change?]
  | object => rw [← ObjectRules.isSome_change?]; simp [Rules.change?]
  | array => rw [← @ArrayRules.isSome_change? nested]; simp [Rules.change?]

theorem Rules.understood_adopt_eq (r : Rules Constraint) :
    (r.adopt nested k negated d).understood = (k.form? r.valueType negated).any d.gives := by
  rw [r.understood_adopt, isSome_change?]

/-- What is reported as not understood while a constraint is built are the directives that its
setters do not understand. -/
theorem Rules.understand_eq (t : ValueType) :
    Rules.understand t k negated d = (k.form? t negated).any d.gives := by
  unfold Rules.understand
  cases hfirst : Rules.initial? t with
  | none =>
    cases t with
    | none => rfl
    | _ => cases hfirst
  | some first =>
    rw [Option.any_some, first.understood_adopt_eq, Rules.valueType_of_initial? hfirst]

section

variable {implied : Bool} (hname : Keyword.ofName? d.name = some (k, implied))
  (heffective : k ≠ .noConstraint ∧ k ≠ .note)

include hname heffective

theorem Directive.clears_of_keyword : d.clears = false := by
  unfold Directive.clears
  rw [hname]
  cases k with
  | noConstraint => exact absurd rfl heffective.1
  | _ => rfl

theorem apply_of_keyword (c : Constraint) :
    c.apply nested t d =
      match Rules.change? nested t k (d.negated != implied) d with
      | some f => { c with rules := f c.rules }
      | none => { c with badName := c.badName <|> some (String.ofList d.text) } := by
  have hstep : d.step nested t =
      match Rules.change? nested t k (d.negated != implied) d with
      | some f => .change f
      | none => .reject := by
    unfold Directive.step
    rw [hname]
    cases k with
    | noConstraint => exact absurd rfl heffective.1
    | note => exact absurd rfl heffective.2
    | _ => rfl
  rw [Constraint.apply, hstep]
  cases Rules.change? nested t k (d.negated != implied) d <;> rfl

end

/-- A directive that does not clear the constraint sets the note, changes the rules, or is rejected,
as its keyword has it. -/
theorem step_of_not_clears (nested : BlockParser) (t : ValueType) (hclear : d.clears = false) :
    d.step nested t = .note d.rawArgument? ∧ d.accepted t = true ∨
      (∃ f, d.step nested t = .change f ∧ d.accepted t = true) ∨
      d.step nested t = .reject ∧ d.accepted t = false := by
  unfold Directive.clears at hclear
  unfold Directive.step Directive.accepted
  split at hclear
  · cases hclear
  · rename_i hother
    split
    · exact absurd ‹_› (hother _)
    · exact Or.inl ⟨rfl, by simp [*]⟩
    · rename_i k implied hk hnote hname
      have hsome := isSome_change? nested t k (d.negated != implied) d
      refine Or.inr ?_
      simp only [hname]
      cases hf : Rules.change? nested t k (d.negated != implied) d with
      | some f => exact Or.inl ⟨f, rfl, by simpa [hf] using hsome.symm⟩
      | none => exact Or.inr ⟨rfl, by simpa [hf] using hsome.symm⟩
    · exact Or.inr (Or.inr ⟨rfl, by simp [*]⟩)

/-- A directive that is not understood is remembered if it is the first one, and has no other
effect. -/
theorem apply_of_rejected (hclear : d.clears = false) (h : d.accepted t = false) (c : Constraint) :
    c.apply nested t d =
      { c with badName := c.badName <|> some (String.ofList d.text) } := by
  unfold Constraint.apply
  rcases step_of_not_clears nested t hclear with ⟨_, ha⟩ | ⟨_, _, ha⟩ | ⟨hs, _⟩
  · simp [h] at ha
  · simp [h] at ha
  · simp only [hs]

theorem badName_apply_of_accepted (hclear : d.clears = false) (h : d.accepted t = true)
    (c : Constraint) : (c.apply nested t d).badName = c.badName := by
  unfold Constraint.apply
  rcases step_of_not_clears nested t hclear with ⟨hs, _⟩ | ⟨f, hs, _⟩ | ⟨_, ha⟩
  · simp only [hs]
  · simp only [hs]
  · simp [h] at ha

end

/-! ## A list of directives -/

/-- Two constraints ask for the same and have the same note. -/
structure Constraint.Alike (c c' : Constraint) : Prop where
  rules : c.rules = c'.rules
  note : c.note = c'.note

theorem Constraint.Alike.refl (c : Constraint) : c.Alike c := ⟨rfl, rfl⟩

/-- What a directive does to rules and note does not depend on what was not understood before. -/
theorem Constraint.Alike.apply {c c' : Constraint} (h : c.Alike c') (nested : BlockParser)
    (t : ValueType) (d : Directive) : (c.apply nested t d).Alike (c'.apply nested t d) := by
  unfold Constraint.apply
  cases d.step nested t with
  | clear => exact h
  | note text => exact ⟨h.rules, rfl⟩
  | change f => exact ⟨congrArg f h.rules, h.note⟩
  | reject => exact ⟨h.rules, h.note⟩

theorem Constraint.test_eq (c : Constraint) {σ : Type} (sampler : Sampler σ) (v : Value) (s : σ) :
    c.test sampler v s = testRules sampler c.rules v s := by
  obtain ⟨rules, note, badName⟩ := c
  rw [Constraint.test]

theorem Constraint.Alike.test {c c' : Constraint} (h : c.Alike c') {σ : Type} (sampler : Sampler σ)
    (v : Value) (s : σ) : c.test sampler v s = c'.test sampler v s := by
  rw [test_eq, test_eq, h.rules]

section

variable {nested : BlockParser} {t : ValueType}

/-- **Rules and note come from the accepted directives alone.** -/
theorem alike_foldl_accepted : ∀ {ds : List Directive} {c c' : Constraint},
    (∀ d ∈ ds, d.clears = false) → c.Alike c' →
    (ds.foldl (Constraint.apply nested t) c).Alike
      ((ds.filter (Directive.accepted t)).foldl (Constraint.apply nested t) c')
  | [], _, _, _, h => h
  | d :: ds, c, c', hclear, h => by
    obtain ⟨hd, hds⟩ := List.forall_mem_cons.mp hclear
    cases ha : d.accepted t with
    | true =>
      rw [List.filter_cons_of_pos ha]
      exact alike_foldl_accepted hds (h.apply nested t d)
    | false =>
      rw [List.filter_cons_of_neg (by simp [ha]), List.foldl_cons, apply_of_rejected hd ha]
      exact alike_foldl_accepted hds ⟨h.rules, h.note⟩

/-- **The first directive that is not understood is remembered.** -/
theorem badName_foldl : ∀ {ds : List Directive} (c : Constraint),
    (∀ d ∈ ds, d.clears = false) →
    (ds.foldl (Constraint.apply nested t) c).badName =
      (c.badName <|> Directive.firstRejected? t ds)
  | [], c, _ => by cases h : c.badName <;> simp [h, Directive.firstRejected?]
  | d :: ds, c, hclear => by
    obtain ⟨hd, hds⟩ := List.forall_mem_cons.mp hclear
    have ih := badName_foldl (c.apply nested t d) hds
    rw [List.foldl_cons, ih]
    unfold Directive.firstRejected?
    cases ha : d.accepted t with
    | true => rw [badName_apply_of_accepted hd ha, List.find?_cons_of_neg (by simp [ha])]
    | false =>
      rw [apply_of_rejected hd ha, List.find?_cons_of_pos (by simp [ha])]
      cases c.badName <;> simp

end

/-! ## What is built -/

/-- Without a directive that clears the constraint, building goes through the directives. -/
theorem build_eq_foldl {t : ValueType} {first : Constraint}
    (hfirst : Constraint.initial? t = some first) {ds : List Directive} (hne : ds ≠ [])
    (hclear : ∀ d ∈ ds, d.clears = false) :
    build t ds = some (ds.foldl (Constraint.apply parse t) first) := by
  have hempty : ds.isEmpty = false := by simpa using hne
  have hany : ds.any Directive.clears = false := by simpa using hclear
  rw [build, buildWith_eq, hempty, hfirst, hany]
  rfl

theorem exists_initial? {t : ValueType} (ht : t ≠ .none) :
    ∃ first, Constraint.initial? t = some first ∧ first.note = none ∧ first.badName = none := by
  cases t with
  | none => exact absurd rfl ht
  | _ => exact ⟨_, rfl, rfl, rfl⟩

theorem Verdict.ofType_of {t : ValueType} {v : Value} (hv : ValueType.of v = t) :
    ofType t v = .ok () := by
  rw [ofType, hv, beq_self_eq_true]
  rfl

theorem test_first {t : ValueType} {first : Constraint} (h : Constraint.initial? t = some first)
    {σ : Type} (sampler : Sampler σ) (v : Value) (s : σ) :
    first.test sampler v s = .ofType t v s := by
  cases t with
  | none => cases h
  | _ => cases h; cases v <;> rfl

theorem test_initial? {t : ValueType} {first : Constraint}
    (hfirst : Constraint.initial? t = some first) {v : Value} (hv : ValueType.of v = t) {σ : Type}
    (sampler : Sampler σ) (s : σ) : (first.test sampler v s).verdict = .ok () := by
  rw [test_first hfirst]
  exact Verdict.ofType_of hv

/-- **Directives that are not understood are inert.**  Whether a directive is understood depends on
the type and the directive alone.  One that is not leaves rules and note as they are, whatever was
built before, and is remembered if it is the first; one that is understood leaves that memory.  The
step that this is said of is the one that building takes from a constraint for the type.  So a
list of directives builds the rules and the note of those that are understood, or those of the first
constraint where none is, remembers the first that is not, and checks the values of the type as the
understood ones do. -/
theorem rejected_inert {t : ValueType} (ht : t ≠ .none) :
    (∀ (c : Constraint) (d : Directive), d.clears = false →
      (c.valueType = t → c.next? parse d = some (c.apply parse t d)) ∧
      (d.accepted t = false →
        (c.apply parse t d).rules = c.rules ∧ (c.apply parse t d).note = c.note ∧
          (c.apply parse t d).badName = (c.badName <|> some (String.ofList d.text))) ∧
      (d.accepted t = true → (c.apply parse t d).badName = c.badName)) ∧
    ∀ ds : List Directive, ds ≠ [] → (∀ d ∈ ds, d.clears = false) →
      ∃ c first, build t ds = some c ∧ Constraint.initial? t = some first ∧ first.note = none ∧
        c.rules = ((build t (ds.filter (Directive.accepted t))).getD first).rules ∧
        c.note = ((build t (ds.filter (Directive.accepted t))).getD first).note ∧
        c.badName = Directive.firstRejected? t ds ∧
        ∀ v : Value, ValueType.of v = t → ∀ {σ : Type} (sampler : Sampler σ) (s : σ),
          (c.test sampler v s).verdict =
            match build t (ds.filter (Directive.accepted t)) with
            | none => .ok ()
            | some kept => (kept.test sampler v s).verdict := by
  refine ⟨fun c d hd =>
    ⟨fun hc => ?_, fun ha => ?_, fun ha => badName_apply_of_accepted hd ha c⟩, ?_⟩
  · rw [next?_eq hc, hd]
    rfl
  · rw [apply_of_rejected hd ha]
    exact ⟨rfl, rfl, rfl⟩
  · intro ds hne hclear
    obtain ⟨first, hfirst, hnote, hbad⟩ := exists_initial? ht
    have hmemory : (ds.foldl (Constraint.apply parse t) first).badName =
        Directive.firstRejected? t ds := by
      rw [badName_foldl first hclear, hbad]
      simp
    have halike : (ds.foldl (Constraint.apply parse t) first).Alike
        ((ds.filter (Directive.accepted t)).foldl (Constraint.apply parse t) first) :=
      alike_foldl_accepted hclear (.refl first)
    have hclear' : ∀ d ∈ ds.filter (Directive.accepted t), d.clears = false :=
      fun d hd => hclear d (List.mem_filter.mp hd).1
    refine ⟨_, first, build_eq_foldl hfirst hne hclear, hfirst, hnote, ?_⟩
    rcases eq_or_ne (ds.filter (Directive.accepted t)) [] with hnil | hsome
    · -- nothing is understood: the first constraint is left, and every value passes
      rw [hnil] at halike ⊢
      refine ⟨halike.rules, halike.note, hmemory, fun v hv σ sampler s => ?_⟩
      rw [halike.test sampler v s]
      exact test_initial? hfirst hv sampler s
    · rw [build_eq_foldl hfirst hsome hclear']
      exact ⟨halike.rules, halike.note, hmemory, fun v _ σ sampler s =>
        congrArg Outcome.verdict (halike.test sampler v s)⟩

/-- An unknown keyword, a malformed number and a polarity that numbers do not have, between two
directives that are understood. -/
theorem rejected_inert_three :
    let ds := Directive.tokenize "foobar,positive,min=abc,!max=3,note=sign".toList
    (ValueType.number ≠ .none ∧ ds ≠ [] ∧ ∀ d ∈ ds, d.clears = false) ∧
      ∃ c r, build .number ds = some c ∧ c.rules = .number r ∧ r.positive = true ∧ r.min = none ∧
        r.max = none ∧ c.note = some "sign" ∧ c.badName = some "foobar" := by
  intro ds
  have hne : ds ≠ [] := by decide +kernel
  have hclear : ∀ d ∈ ds, d.clears = false := by decide +kernel
  refine ⟨⟨by decide, hne, hclear⟩, ?_⟩
  obtain ⟨c, first, hc, -, -, hrules, hnote, hbad, -⟩ :=
    (@rejected_inert .number (by decide)).2 ds hne hclear
  obtain ⟨kept, r, hkept, hr, hpositive, hmin, hmax, hsign⟩ : ∃ kept r,
      build .number (ds.filter (Directive.accepted .number)) = some kept ∧
        kept.rules = .number r ∧ r.positive = true ∧ r.min = none ∧ r.max = none ∧
        kept.note = some "sign" :=
    ⟨_, _, rfl, rfl, rfl, rfl, rfl, by decide +kernel⟩
  rw [hkept] at hrules hnote
  exact ⟨c, r, hc, hrules.trans hr, hpositive, hmin, hmax, hnote.trans hsign,
    hbad.trans (by decide +kernel)⟩

end ShapeCheck
