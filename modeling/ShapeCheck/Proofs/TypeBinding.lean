import ShapeCheck.Check.Checker
import ShapeCheck.Proofs.EveryDepth
import ShapeCheck.Proofs.Traversal

/-!
# Constraints are bound to the type they were written for

* `boundTo_parse` — the rules that a text writes for a type are of the variant for that type, and
  so are those of every nested constraint;
* `test_sparesType` — a value of the type that a constraint is bound to never breaks it, or a
  constraint nested in it, by its type;
* `test_of_other_type` — a value of another type breaks it at once;
* `type_binding` — what follows for checks of texts.
-/

set_option autoImplicit false

namespace ShapeCheck

/-! ## The variant of rules -/

/-- Whether two rules are of the same variant, whatever they ask for. -/
def Rules.sameVariant {α : Type} : Rules α → Rules α → Bool
  | .boolean, .boolean => true
  | .regex, .regex => true
  | .number _, .number _ => true
  | .string _, .string _ => true
  | .object _, .object _ => true
  | .array _, .array _ => true
  | _, _ => false

/-- Rules are bound to a type: the type of some values that can have rules, and of the variant that
the first rules for it have. -/
structure Rules.BoundTo {α : Type} (t : ValueType) (r : Rules α) : Prop where
  ne_none : t ≠ .none
  valueType_eq : r.valueType = t
  variant : ∃ first, Rules.initial? t = some first ∧ r.sameVariant first = true

theorem Rules.boundTo_valueType {α : Type} (r : Rules α) : r.BoundTo r.valueType := by
  cases r with
  | boolean => exact ⟨nofun, rfl, .boolean, rfl, rfl⟩
  | regex => exact ⟨nofun, rfl, .regex, rfl, rfl⟩
  | number _ => exact ⟨nofun, rfl, .number {}, rfl, rfl⟩
  | string _ => exact ⟨nofun, rfl, .string {}, rfl, rfl⟩
  | object _ => exact ⟨nofun, rfl, .object {}, rfl, rfl⟩
  | array _ => exact ⟨nofun, rfl, .array {}, rfl, rfl⟩

theorem Rules.boundTo_of_initial? {α : Type} {t : ValueType} {r : Rules α}
    (h : Rules.initial? t = some r) : r.BoundTo t :=
  valueType_of_initial? h ▸ r.boundTo_valueType

/-- **What a text writes for a type is bound to it at every depth.** -/
theorem boundTo_parse {t : ValueType} {block : List Char} {c : Constraint}
    (h : parse t block = some c) : c.EveryDepth Rules.BoundTo t := by
  refine everyDepth_parse (fun _ _ => Rules.boundTo_of_initial?) ?_ h
  intro nested t k negated d f r hf hr
  have ht : (f r).valueType = t := (Rules.valueType_change? hf r).trans hr.valueType_eq
  exact ht ▸ (f r).boundTo_valueType

/-! ## Violations that are not about the type -/

/-- A verdict does not blame the type of a value. -/
def Verdict.SparesType (verdict : Verdict) : Prop :=
  ∀ expected actual, verdict ≠ .error (.basicType expected actual)

namespace Verdict

theorem sparesType_ok : SparesType (.ok ()) := nofun

theorem sparesType_unless {holds : Bool} {violation : Violation}
    (h : ∀ expected actual, violation ≠ .basicType expected actual) :
    SparesType (.unless holds violation) := by
  intro expected actual hv
  cases holds with
  | true => cases hv
  | false => exact h expected actual (Except.error.inj hv)

theorem sparesType_first {verdicts : List Verdict} (h : ∀ v ∈ verdicts, SparesType v) :
    SparesType (first verdicts) := by
  induction verdicts with
  | nil => exact sparesType_ok
  | cons v rest ih =>
    cases v with
    | ok _ => exact ih fun v hv => h v (List.mem_cons_of_mem _ hv)
    | error violation => exact h (.error violation) List.mem_cons_self

theorem sparesType_testBound {α : Type} {bound : Option α} {test : α → Verdict}
    (h : ∀ a, SparesType (test a)) : SparesType (testBound bound test) := by
  cases bound with
  | none => exact sparesType_ok
  | some a => exact h a

theorem sparesType_twoSided {α : Type} {r : TwoSided α} {conflict : Conflict}
    {wanted unwanted : α → Verdict} (hw : ∀ a, SparesType (wanted a))
    (hu : ∀ a, SparesType (unwanted a)) : SparesType (r.test conflict wanted unwanted) := by
  obtain ⟨w, u⟩ := r
  cases w with
  | none =>
    cases u with
    | none => exact sparesType_ok
    | some b => exact hu b
  | some a =>
    cases u with
    | none => exact hw a
    | some b => exact nofun

theorem sparesType_testNames {names : List String} {bad : String → Bool}
    {report : String → Violation}
    (h : ∀ name expected actual, report name ≠ .basicType expected actual) :
    SparesType (testNames names bad report) := by
  intro expected actual hv
  rw [testNames] at hv
  split at hv
  · exact h _ _ _ (Except.error.inj hv)
  · cases hv

theorem sparesType_testProperties (enabled : Bool) (o : Object Value) (bad : Value → Bool)
    (report : String → Value → BrokenRule) :
    SparesType (testProperties enabled o bad report) := by
  intro expected actual hv
  rw [testProperties] at hv
  split at hv
  · split at hv <;> cases hv
  · cases hv

theorem sparesType_testJson (enabled : Bool) (o : Object Value) :
    SparesType (testJson enabled o) := by
  intro expected actual hv
  rw [testJson] at hv
  split at hv
  · split at hv <;> cases hv
  · cases hv

theorem sparesType_testPattern {source subject : String} {wanted : Bool} {violation : Violation}
    (h : ∀ expected actual, violation ≠ .basicType expected actual) :
    SparesType (testPattern source subject wanted violation) := by
  rw [testPattern]
  split
  · exact sparesType_unless h
  · exact nofun

theorem sparesType_testLength (minLength maxLength : Option Nat) (length : Nat) :
    SparesType (testLength minLength maxLength length) := by
  refine sparesType_first ?_
  simp only [List.forall_mem_cons]
  exact ⟨sparesType_testBound fun _ => sparesType_unless nofun,
    sparesType_testBound fun _ => sparesType_unless nofun, nofun⟩

theorem sparesType_relation (relation : TextRelation) (r : TwoSided String) (subject : String) :
    SparesType (relation.test r subject) :=
  sparesType_twoSided (fun _ => sparesType_unless nofun) fun _ => sparesType_unless nofun

theorem sparesType_number (r : NumberRules) (x : Float) : SparesType (r.test x) := by
  refine sparesType_first ?_
  simp only [List.forall_mem_cons]
  exact ⟨sparesType_unless nofun, sparesType_unless nofun, sparesType_unless nofun,
    sparesType_unless nofun, sparesType_unless nofun,
    sparesType_testBound fun _ => sparesType_unless nofun,
    sparesType_testBound fun _ => sparesType_unless nofun,
    sparesType_testBound fun _ => sparesType_unless nofun, nofun⟩

theorem sparesType_string (r : StringRules) (subject : String) : SparesType (r.test subject) := by
  refine sparesType_first ?_
  simp only [List.forall_mem_cons]
  exact ⟨sparesType_testLength _ _ _, sparesType_relation _ _ _, sparesType_relation _ _ _,
    sparesType_relation _ _ _,
    sparesType_twoSided (fun _ => sparesType_testPattern nofun)
      fun _ => sparesType_testPattern nofun, nofun⟩

theorem sparesType_consistent (r : ObjectRules) : SparesType r.consistent := by
  refine sparesType_first ?_
  simp only [List.forall_mem_cons]
  exact ⟨sparesType_unless nofun, sparesType_testNames nofun, nofun⟩

theorem sparesType_object (r : ObjectRules) (o : Object Value) : SparesType (r.test o) := by
  refine sparesType_first ?_
  simp only [List.forall_mem_cons]
  exact ⟨sparesType_consistent r, sparesType_unless nofun, sparesType_unless nofun,
    sparesType_testNames nofun, sparesType_testNames nofun, sparesType_testProperties _ _ _ _,
    sparesType_unless nofun, sparesType_testJson _ _, sparesType_testProperties _ _ _ _,
    sparesType_testProperties _ _ _ _,
    sparesType_testBound fun _ => sparesType_unless nofun,
    sparesType_testBound fun _ => sparesType_unless nofun, nofun⟩

theorem sparesType_testOwn {α : Type} (r : ArrayRules α) (items : List Value) :
    SparesType (r.testOwn items) := by
  refine sparesType_first ?_
  simp only [List.forall_mem_cons]
  exact ⟨sparesType_testLength _ _ _,
    sparesType_twoSided (fun _ => sparesType_unless nofun) fun _ => sparesType_unless nofun, nofun⟩

end Verdict

/-! ## Tests of values -/

section

variable {σ : Type} (sampler : Sampler σ)

/-- The test of an array blames its own rules or what a test of an element blames. -/
theorem testArray_error {r : ArrayRules Constraint} {items : List Value} {s : σ}
    {violation : Violation}
    (h : (testArray sampler r items s).verdict = .error violation) :
    r.testOwn items = .error violation ∨
      ∃ c item m, r.elements.get? (.of item) = some c ∧
        (c.test sampler item m).verdict = .error violation := by
  obtain ⟨minLength, maxLength, contains, elements, mode, first, second⟩ := r
  rw [testArray] at h
  split at h
  · rename_i own _ howh
    exact Or.inl (howh.trans h)
  · split at h
    · obtain ⟨_, i, _, m, c, item, _, _, he, hc, _⟩ := checkPlaces_error_iff.mp ⟨h, rfl⟩
      exact Or.inr ⟨c, item, m, (entryAt?_eq_some.mp he).2, hc⟩
    · cases h

/-- **A value of the bound type is never blamed for its type**, nor is an element at any depth.  The
induction is on the depth of the constraint: an element is only tested against the constraint that
is bound to its own type. -/
theorem test_sparesType {t : ValueType} {c : Constraint} (h : c.EveryDepth Rules.BoundTo t)
    {v : Value} (hv : ValueType.of v = t) (s : σ) : (c.test sampler v s).verdict.SparesType := by
  induction h generalizing v s with
  | @intro t c here _ ih =>
    obtain ⟨rules, note, badName⟩ := c
    rw [Constraint.test]
    have ht : rules.valueType = ValueType.of v := here.valueType_eq.trans hv.symm
    cases rules with
    | boolean =>
      cases v with
      | bool _ => rw [testRules]; exact Verdict.sparesType_ok
      | _ => cases ht
    | regex =>
      cases v with
      | regex _ => rw [testRules]; exact Verdict.sparesType_ok
      | _ => cases ht
    | number r =>
      cases v with
      | number x => rw [testRules]; exact Verdict.sparesType_number r x
      | _ => cases ht
    | string r =>
      cases v with
      | string text => rw [testRules]; exact Verdict.sparesType_string r text
      | _ => cases ht
    | object r =>
      cases v with
      | object o => rw [testRules]; exact Verdict.sparesType_object r o
      | _ => cases ht
    | array r =>
      cases v with
      | array items =>
        rw [testRules]
        intro expected actual herror
        -- an element is tested against the constraint for its own type, so the hypothesis applies to it
        rcases testArray_error sampler herror with hown | ⟨d, item, m, hd, htest⟩
        · exact Verdict.sparesType_testOwn r items expected actual hown
        · exact ih _ d hd rfl m expected actual htest
      | _ => cases ht

/-- A value of another type than that of the rules breaks a constraint by its type. -/
theorem test_of_other_type {c : Constraint} {v : Value} (hv : ValueType.of v ≠ c.valueType)
    (s : σ) :
    (c.test sampler v s).verdict = .error (.basicType c.valueType (.of v)) := by
  obtain ⟨rules, note, badName⟩ := c
  change ValueType.of v ≠ rules.valueType at hv
  show (Constraint.test sampler ⟨rules, note, badName⟩ v s).verdict =
    .error (.basicType rules.valueType (.of v))
  have hof : Verdict.ofType rules.valueType v = .error (.basicType rules.valueType (.of v)) := by
    rw [Verdict.ofType, Verdict.unless, if_neg]
    rwa [beq_iff_eq]
  rw [Constraint.test, ← hof]
  cases rules <;> cases v <;> first | rfl | exact absurd rfl hv

end

/-! ## Checks of texts -/

section

variable {σ : Type} (sampler : Sampler σ)

theorem verdict_checkText (v : Value) (t : ValueType) (text : String) (s : σ) :
    (checkText sampler v t text s).verdict =
      match parse t text.toList with
      | none => .ok ()
      | some c => (c.test sampler v s).verdict := by
  rw [checkText]
  cases parse t text.toList <;> rfl

/-- A check blames the type of a value iff the text writes a constraint for another type. -/
theorem verdict_checkText_eq_basicType {v : Value} {t : ValueType} {text : String} {s : σ}
    {expected actual : ValueType} :
    (checkText sampler v t text s).verdict = .error (.basicType expected actual) ↔
      (parse t text.toList).isSome = true ∧ t ≠ ValueType.of v ∧
        expected = t ∧ actual = ValueType.of v := by
  rw [verdict_checkText]
  cases hc : parse t text.toList with
  | none =>
    refine ⟨fun h => ?_, fun h => ?_⟩
    · cases h
    · exact absurd h.1 nofun
  | some c =>
    have hbound := boundTo_parse hc
    have htype : c.valueType = t := hbound.rules.valueType_eq
    have hsome : (some c).isSome = true := rfl
    by_cases hv : ValueType.of v = t
    · refine ⟨fun h => ?_, fun h => ?_⟩
      · exact absurd h (test_sparesType sampler hbound hv s expected actual)
      · exact absurd hv.symm h.2.1
    · have htest := test_of_other_type sampler (htype ▸ hv) s
      rw [htype] at htest
      show (c.test sampler v s).verdict = _ ↔ _
      rw [htest]
      constructor
      · intro h
        cases h
        exact ⟨hsome, Ne.symm hv, rfl, rfl⟩
      · rintro ⟨-, -, rfl, rfl⟩
        rfl

end

/-- **A constraint is bound to its type.**  What a text writes for a type is of the variant for that
type, which is not that of null, and so is every constraint nested in it at every depth.  So no
check against a constraint for a value's own type blames the type of the value or of an element,
whatever the sampler; and a check for a declared type does so exactly when the text writes a
constraint and the value is of another type. -/
theorem type_binding :
    (∀ (t : ValueType) (block : List Char) (c : Constraint), parse t block = some c →
      t ≠ .none ∧ c.valueType = t ∧ c.EveryDepth Rules.BoundTo t) ∧
    (∀ {σ : Type} (sampler : Sampler σ) (v : Value) (text : String) (s : σ)
      (expected actual : ValueType),
      (checkWith sampler v text s).verdict ≠ .error (.basicType expected actual)) ∧
    (∀ (k : Checker) (v : Value) (text : String) (expected actual : ValueType),
      k.check v text ≠ .error (.basicType expected actual)) ∧
    (∀ {σ : Type} (sampler : Sampler σ) (v : Value) (declared text : String) (s : σ)
      (expected actual : ValueType),
      (checkText sampler v (.ofName declared.toList) text s).verdict =
          .error (.basicType expected actual) ↔
        (parse (.ofName declared.toList) text.toList).isSome = true ∧
        ValueType.ofName declared.toList ≠ ValueType.of v ∧
        expected = ValueType.ofName declared.toList ∧ actual = ValueType.of v) ∧
    (∀ (k : Checker) (v : Value) (declared text : String) (expected actual : ValueType),
      k.checkAs v declared text = .error (.basicType expected actual) ↔
        (parse (.ofName declared.toList) text.toList).isSome = true ∧
        ValueType.ofName declared.toList ≠ ValueType.of v ∧
        expected = ValueType.ofName declared.toList ∧ actual = ValueType.of v) := by
  refine ⟨?_, ?_, ?_, ?_, ?_⟩
  · intro t block c hc
    have hbound := boundTo_parse hc
    exact ⟨hbound.rules.ne_none, hbound.rules.valueType_eq, hbound⟩
  · intro σ sampler v text s expected actual h
    exact ((verdict_checkText_eq_basicType sampler).mp h).2.1 rfl
  · intro k v text expected actual h
    exact ((verdict_checkText_eq_basicType Sampling.seeded).mp h).2.1 rfl
  · intro σ sampler v declared text s expected actual
    exact verdict_checkText_eq_basicType sampler
  · intro k v declared text expected actual
    exact verdict_checkText_eq_basicType Sampling.seeded

/-- A constraint two levels below an array, and a declared type that does not fit. -/
theorem type_binding_two_levels :
    (∃ c d e, parse .array "each(array,each(string,minLength=2)|number)".toList = some c ∧
      c.rules.elements.get? .array = some d ∧ d.rules.elements.get? .string = some e ∧
      e.valueType = .string) ∧
    ({} : Checker).checkAs (.string "5") "number" "positive" =
      .error (.basicType .number .string) := by
  constructor
  · have hsome : ((parse .array "each(array,each(string,minLength=2)|number)".toList).bind fun c =>
        (c.rules.elements.get? .array).bind fun d => d.rules.elements.get? .string).isSome = true := by
      decide +kernel
    obtain ⟨e, he⟩ := Option.isSome_iff_exists.mp hsome
    obtain ⟨c, hc, he⟩ := Option.bind_eq_some_iff.mp he
    obtain ⟨d, hd, he⟩ := Option.bind_eq_some_iff.mp he
    have hbound := (type_binding.1 .array _ c hc).2.2
    exact ⟨c, d, e, hc, hd, he, ((hbound.element hd).element he).rules.valueType_eq⟩
  · exact (type_binding.2.2.2.2 {} (.string "5") "number" "positive" .number .string).mpr
      ⟨by decide +kernel, by decide +kernel, by decide +kernel, rfl⟩

end ShapeCheck
