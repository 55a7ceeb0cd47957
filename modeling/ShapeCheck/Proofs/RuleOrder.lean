import ShapeCheck.Proofs.Contradictions

/-!
# Rules are tested one by one, in their order

Rules are taken apart into records that keep one rule each.  Testing a value against all of them is
testing it against these records in order up to the first that fails.

* `Verdict.IsFirstOf` — what it means that a verdict is that of the first test that fails;
* `NumberRules.parts`, `StringRules.parts`, `ArrayRules.parts`, `ObjectRules.parts` — the records,
  in the order of the rules;
* `StringRules.testWith` — tests of texts with any engine for patterns;
* `test_eq_first` for each variant, `ObjectRules.test_of_consistent` — a test is the tests of the
  parts in order;
* `first_failing_rule_reported` — so it reports the first rule that fails.
-/

set_option autoImplicit false

namespace ShapeCheck

/-! ## The first of several tests that fails -/

namespace Verdict

/-- A verdict passes iff all tests of a list pass, and blames what the first one that fails
blames. -/
structure IsFirstOf (v : Verdict) (tests : List Verdict) : Prop where
  ok_iff : v = .ok () ↔ ∀ t ∈ tests, t = .ok ()
  error_iff : ∀ violation, v = .error violation ↔
    ∃ before after, tests = before ++ .error violation :: after ∧ ∀ t ∈ before, t = .ok ()

theorem isFirstOf_first (tests : List Verdict) : (first tests).IsFirstOf tests := by
  induction tests with
  | nil => exact ⟨by simp [first], by simp [first]⟩
  | cons t tests ih =>
    cases t with
    | ok _ =>
      refine ⟨ih.ok_iff.trans (by simp), fun violation => (ih.error_iff violation).trans ?_⟩
      constructor
      · rintro ⟨before, after, rfl, hbefore⟩
        exact ⟨.ok () :: before, after, rfl, List.forall_mem_cons.mpr ⟨rfl, hbefore⟩⟩
      · rintro ⟨before, after, htests, hbefore⟩
        cases before with
        | nil => cases htests
        | cons _ before =>
          exact ⟨before, after, (List.cons.inj htests).2, (List.forall_mem_cons.mp hbefore).2⟩
    | error blamed =>
      have hfails : ¬ ∀ t ∈ .error blamed :: tests, t = .ok () := fun h => by
        cases (List.forall_mem_cons.mp h).1
      refine ⟨iff_of_false (fun h => by cases h) hfails, fun violation => ?_⟩
      constructor
      · intro h
        cases h
        exact ⟨[], tests, rfl, List.forall_mem_nil _⟩
      · rintro ⟨before, after, htests, hbefore⟩
        cases before with
        | nil => exact (List.cons.inj htests).1
        | cons t before =>
          obtain rfl := (List.cons.inj htests).1
          cases (List.forall_mem_cons.mp hbefore).1

theorem first_ok_cons (rest : List Verdict) : first (.ok () :: rest) = first rest := rfl

theorem first_cons_ok (v : Verdict) (rest : List Verdict) :
    first (v :: .ok () :: rest) = first (v :: rest) := by
  cases v <;> rfl

theorem first_singleton (v : Verdict) : first [v] = v := by
  cases v <;> rfl

theorem first_append_of_ok {rest : List Verdict} (h : first rest = .ok ()) (vs : List Verdict) :
    first (vs ++ rest) = first vs := by
  induction vs with
  | nil => exact h
  | cons v vs ih =>
    cases v with
    | ok _ => exact ih
    | error _ => rfl

theorem unless_true (violation : Violation) : Verdict.unless true violation = .ok () := rfl

end Verdict

/-! ## Tests of rules that ask for nothing -/

theorem testBound_none {α : Type} (test : α → Verdict) : testBound none test = .ok () := rfl

theorem TwoSided.test_default {α : Type} (conflict : Conflict) (wanted unwanted : α → Verdict) :
    ({} : TwoSided α).test conflict wanted unwanted = .ok () := rfl

theorem TextRelation.test_default (relation : TextRelation) (subject : String) :
    relation.test {} subject = .ok () := rfl

theorem testNames_nil (bad : String → Bool) (report : String → Violation) :
    testNames [] bad report = .ok () := rfl

theorem testNames_contains_nil (names : List String) (report : String → Violation) :
    testNames names [].contains report = .ok () := by
  have hnone : names.find? [].contains = none :=
    List.find?_eq_none.mpr fun _ _ => Bool.false_ne_true
  rw [testNames, hnone]

theorem testProperties_false (o : Object Value) (bad : Value → Bool)
    (report : String → Value → BrokenRule) : testProperties false o bad report = .ok () := rfl

theorem testJson_false (o : Object Value) : testJson false o = .ok () := rfl

/-! ## Numbers -/

/-- The rules for numbers one by one; the two signs are one of them. -/
def NumberRules.parts (r : NumberRules) : List NumberRules :=
  [{ integer := r.integer },
   { notZero := r.notZero },
   { positive := r.positive, negative := r.negative },
   { min := r.min },
   { max := r.max },
   { maxExclusive := r.maxExclusive }]

theorem NumberRules.test_eq_first (r : NumberRules) (x : Float) :
    r.test x = Verdict.first (r.parts.map (·.test x)) := by
  -- the signs are three tests of one part, and the tests of bounds behind them pass
  have hsigns (u v w : Verdict) :
      Verdict.first [u, v, w, .ok (), .ok (), .ok ()] = Verdict.first [u, v, w] :=
    Verdict.first_append_of_ok rfl [u, v, w]
  simp only [parts, List.map_cons, List.map_nil, test, Bool.not_false, Bool.true_or, Bool.and_self,
    Verdict.unless_true, testBound_none, Verdict.first_ok_cons, Verdict.first_cons_ok,
    Verdict.first_singleton, hsigns]
  exact (Verdict.first_append_first [_, _] [_, _, _] _).symm

/-! ## Texts -/

/-- Tests whether a text matches a pattern as wanted, with an engine that says whether a pattern
occurs in a text or is not valid. -/
def testPatternWith (engine : String → String → Option Bool) (source subject : String)
    (wanted : Bool) (violation : Violation) : Verdict :=
  match engine source subject with
  | some found => .unless (found == wanted) violation
  | none => .error (.rule (.invalidPattern source))

namespace StringRules

/-- Tests a text with an engine for patterns. -/
def testWith (engine : String → String → Option Bool) (r : StringRules) (subject : String) :
    Verdict :=
  Verdict.first
    [testLength r.minLength r.maxLength subject.length,
     TextRelation.startsWith.test r.startsWith subject,
     TextRelation.endsWith.test r.endsWith subject,
     TextRelation.contains.test r.contains subject,
     r.pattern.test .pattern
      (fun source => testPatternWith engine source subject true (.rule (.noMatch subject source)))
      (fun source =>
        testPatternWith engine source subject false (.rule (.unwantedMatch subject source)))]

theorem test_eq_testWith (r : StringRules) (subject : String) :
    r.test subject = r.testWith Pattern.test? subject := rfl

/-- The rules for texts one by one. -/
def parts (r : StringRules) : List StringRules :=
  [{ minLength := r.minLength },
   { maxLength := r.maxLength },
   { startsWith := r.startsWith },
   { endsWith := r.endsWith },
   { contains := r.contains },
   { pattern := r.pattern }]

theorem testWith_eq_first (engine : String → String → Option Bool) (r : StringRules)
    (subject : String) :
    r.testWith engine subject = Verdict.first (r.parts.map (·.testWith engine subject)) := by
  simp only [parts, List.map_cons, List.map_nil, testWith, testLength, testBound_none,
    TextRelation.test_default, TwoSided.test_default, Verdict.first_ok_cons, Verdict.first_cons_ok,
    Verdict.first_singleton]
  exact Verdict.first_cons_first [_, _] _

end StringRules

/-! ## Objects -/

namespace ObjectRules

/-- The rules for objects one by one; conflicts between them are looked for before. -/
def parts (r : ObjectRules) : List ObjectRules :=
  [{ empty := r.empty },
   { notEmpty := r.notEmpty },
   { required := r.required },
   { forbidden := r.forbidden },
   { notNested := r.notNested },
   { noPrototype := r.noPrototype },
   { canSerialize := r.canSerialize },
   { noFalseyProps := r.noFalseyProps },
   { noTruthyProps := r.noTruthyProps },
   { instanceOf := { wanted := r.instanceOf.wanted } },
   { instanceOf := { unwanted := r.instanceOf.unwanted } }]

theorem consistent_of_both {r : ObjectRules} (hempty : r.empty = true)
    (hnotEmpty : r.notEmpty = true) : r.consistent = .error (.conflict .emptiness) := by
  rw [consistent, hempty, hnotEmpty]
  rfl

theorem consistent_of_not_both {r : ObjectRules} (h : ¬ (r.empty = true ∧ r.notEmpty = true)) :
    r.consistent = testNames r.required r.forbidden.contains
      fun name => .conflict (.property name) := by
  have hboth : (r.empty && r.notEmpty) = false := by
    rwa [← Bool.and_eq_true, Bool.not_eq_true] at h
  rw [consistent, hboth]
  exact Verdict.first_singleton _

theorem test_of_conflict {r : ObjectRules} {violation : Violation}
    (h : r.consistent = .error violation) (o : Object Value) : r.test o = .error violation := by
  rw [test, h]
  rfl

/-- Rules without a conflict are tested one by one; a single rule is in no conflict. -/
theorem test_of_consistent {r : ObjectRules} (h : r.consistent = .ok ()) (o : Object Value) :
    r.test o = Verdict.first (r.parts.map (·.test o)) := by
  rw [test, h, Verdict.first_ok_cons]
  simp only [parts, List.map_cons, List.map_nil, test, consistent, Bool.and_false, Bool.false_and,
    Bool.not_false, Bool.true_or, Verdict.unless_true, testBound_none, testNames_nil,
    testNames_contains_nil, testProperties_false, testJson_false, Verdict.first_ok_cons,
    Verdict.first_cons_ok, Verdict.first_singleton]

end ObjectRules

/-! ## Arrays -/

/-- The rules for arrays one by one; all that is said of elements is one of them. -/
def ArrayRules.parts {α : Type} (r : ArrayRules α) : List (ArrayRules α) :=
  [{ minLength := r.minLength },
   { maxLength := r.maxLength },
   { contains := r.contains },
   { elements := r.elements, mode := r.mode, first := r.first, second := r.second }]

theorem ArrayRules.test_eq_first {σ : Type} (sampler : Sampler σ) (r : ArrayRules Constraint)
    (items : List Value) (s : σ) : (testArray sampler r items s).verdict =
      Verdict.first (r.parts.map fun part => (testArray sampler part items s).verdict) := by
  -- rules that say nothing of elements pass them, and what a part says of them is all there is
  have hnothing (minLength maxLength : Option Nat) (contains : TwoSided Value) :
      verdictOfElements sampler items s { minLength, maxLength, contains } = .ok () := rfl
  have helements : verdictOfElements sampler items s
      { elements := r.elements, mode := r.mode, first := r.first, second := r.second } =
        verdictOfElements sampler items s r := rfl
  simp only [parts, List.map_cons, List.map_nil, verdict_testArray, testOwn, testLength,
    testBound_none, TwoSided.test_default, hnothing, helements, Verdict.first_ok_cons,
    Verdict.first_cons_ok, Verdict.first_singleton]
  exact (Verdict.first_cons_first [_, _] _).trans (Verdict.first_cons_first [_, _] _)

/-! ## The first rule that fails -/

/-- **The first rule that fails is reported.**  The verdict on a number, a text or an array is that
of the first of its rules, tested one by one in their order, that fails; it passes if none does.
For texts this holds with any engine for patterns.  For objects conflicts come first: that of the
two rules on emptiness, then that of the first required name that is forbidden; without a conflict
the rules are tested one by one. -/
theorem first_failing_rule_reported :
    (∀ (r : NumberRules) (x : Float), (r.test x).IsFirstOf (r.parts.map (·.test x))) ∧
    (∀ (engine : String → String → Option Bool) (r : StringRules) (subject : String),
      (r.testWith engine subject).IsFirstOf (r.parts.map (·.testWith engine subject))) ∧
    (∀ (r : StringRules) (subject : String),
      (r.test subject).IsFirstOf (r.parts.map (·.test subject))) ∧
    (∀ {σ : Type} (sampler : Sampler σ) (r : ArrayRules Constraint) (items : List Value) (s : σ),
      (testArray sampler r items s).verdict.IsFirstOf
        (r.parts.map fun part => (testArray sampler part items s).verdict)) ∧
    ∀ (r : ObjectRules) (o : Object Value),
      (r.empty = true ∧ r.notEmpty = true → r.test o = .error (.conflict .emptiness)) ∧
      (¬ (r.empty = true ∧ r.notEmpty = true) → ∀ name,
        r.required.find? r.forbidden.contains = some name →
          r.test o = .error (.conflict (.property name))) ∧
      (¬ (r.empty = true ∧ r.notEmpty = true) →
        r.required.find? r.forbidden.contains = none →
          (r.test o).IsFirstOf (r.parts.map (·.test o))) := by
  refine ⟨?_, ?_, ?_, ?_, ?_⟩
  · intro r x
    rw [r.test_eq_first]
    exact Verdict.isFirstOf_first _
  · intro engine r subject
    rw [r.testWith_eq_first engine]
    exact Verdict.isFirstOf_first _
  · intro r subject
    rw [r.test_eq_testWith, r.testWith_eq_first Pattern.test?]
    exact Verdict.isFirstOf_first _
  · intro σ sampler r items s
    rw [r.test_eq_first sampler]
    exact Verdict.isFirstOf_first _
  · intro r o
    refine ⟨fun hboth => ?_, fun hone name hname => ?_, fun hone hnone => ?_⟩
    · exact r.test_of_conflict (ObjectRules.consistent_of_both hboth.1 hboth.2) o
    · refine r.test_of_conflict ?_ o
      rw [ObjectRules.consistent_of_not_both hone, testNames, hname]
    · have hconsistent : r.consistent = .ok () := by
        rw [ObjectRules.consistent_of_not_both hone, testNames, hnone]
      rw [r.test_of_consistent hconsistent]
      exact Verdict.isFirstOf_first _

/-- Rules that contradict each other in both ways, rules with two names on both lists, and rules
without a conflict of which the second and the third fail. -/
theorem first_failing_rule_reported_objects :
    let o : Object Value := Object.ofList [("id", .number 1)]
    let opposed : ObjectRules :=
      { empty := true, notEmpty := true, required := ["id"], forbidden := ["id"] }
    let overlapping : ObjectRules := { required := ["id", "b", "a"], forbidden := ["a", "b"] }
    let plain : ObjectRules := { notEmpty := true, required := ["name"], noTruthyProps := true }
    ((opposed.empty = true ∧ opposed.notEmpty = true) ∧
      opposed.test o = .error (.conflict .emptiness)) ∧
    ((¬ (overlapping.empty = true ∧ overlapping.notEmpty = true) ∧
        overlapping.required.find? overlapping.forbidden.contains = some "b") ∧
      overlapping.test o = .error (.conflict (.property "b"))) ∧
    (¬ (plain.empty = true ∧ plain.notEmpty = true) ∧
        plain.required.find? plain.forbidden.contains = none) ∧
      (plain.test o).IsFirstOf (plain.parts.map (·.test o)) ∧
      plain.test o = .error (.rule (.missingProperty "name")) := by
  intro o opposed overlapping plain
  obtain ⟨-, -, -, -, hobjects⟩ := first_failing_rule_reported
  have hopposed : opposed.empty = true ∧ opposed.notEmpty = true := by decide
  have hone : ¬ (overlapping.empty = true ∧ overlapping.notEmpty = true) := by decide
  have hname : overlapping.required.find? overlapping.forbidden.contains = some "b" := by decide
  have hplain : ¬ (plain.empty = true ∧ plain.notEmpty = true) := by decide
  have hnone : plain.required.find? plain.forbidden.contains = none := by decide
  refine ⟨⟨hopposed, (hobjects opposed o).1 hopposed⟩, ⟨⟨hone, hname⟩, ?_⟩, ⟨hplain, hnone⟩, ?_, ?_⟩
  · exact (hobjects overlapping o).2.1 hone "b" hname
  · exact (hobjects plain o).2.2 hplain hnone
  · with_unfolding_all rfl

end ShapeCheck
