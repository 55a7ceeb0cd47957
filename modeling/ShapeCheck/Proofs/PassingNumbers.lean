import ShapeCheck.Proofs.BuiltRules
import ShapeCheck.Proofs.Doubles
import ShapeCheck.Proofs.RuleOrder

/-!
# What the rules say of a number that passes them

Rules for numbers are flags, which ask for whole numbers, other numbers than zero, and signs, and
bounds.

* `NumberRules.FlagsHold`, `NumberRules.BoundsHold` — what the two kinds of rules say of a number;
* `NumberRules.test_eq_ok_iff` — flags hold of every number that passes, also of NaN; bounds hold of
  the others;
* `passing_number_satisfies_rules` — so a number passes iff all rules hold, except that bounds say
  nothing of NaN;
* `nan_passes_bound` — a bound that NaN does not keep and passes.
-/

set_option autoImplicit false

namespace ShapeCheck

/-! ## Single tests -/

theorem Verdict.unless_eq_ok_iff {holds : Bool} {violation : Violation} :
    Verdict.unless holds violation = .ok () ↔ holds = true := by
  cases holds with
  | true => exact iff_of_true rfl rfl
  | false => exact iff_of_false nofun nofun

theorem testBound_eq_ok_iff {α : Type} {bound : Option α} {test : α → Verdict} :
    testBound bound test = .ok () ↔ ∀ limit, bound = some limit → test limit = .ok () := by
  cases bound with
  | none => exact iff_of_true rfl nofun
  | some limit => exact ⟨fun h _ hlimit => Option.some.inj hlimit ▸ h, fun h => h limit rfl⟩

namespace NumberRules

variable {r : NumberRules} {x : Float}

/-- What the flags say of a number. -/
structure FlagsHold (r : NumberRules) (x : Float) : Prop where
  /-- It is finite and has no fractional part. -/
  integer : r.integer = true → x.isFinite = true ∧ ∃ n : ℤ, Decimal.valueOf? x = some (n : ℚ)
  notZero : r.notZero = true → Decimal.valueOf? x ≠ some 0
  positive : r.positive = true → 0.0 < x
  negative : r.negative = true → x < 0.0

/-- What the bounds say of a number, in the order of doubles. -/
structure BoundsHold (r : NumberRules) (x : Float) : Prop where
  min : ∀ m, r.min = some m → m ≤ x
  max : ∀ m, r.max = some m → x ≤ m
  maxExclusive : ∀ m, r.maxExclusive = some m → x < m

theorem test_eq_ok_iff_tests :
    r.test x = .ok () ↔
      (r.integer = true → Decimal.isWholeFloat x = true) ∧
      (r.notZero = true → ¬ (x == 0.0) = true) ∧
      ¬ (r.positive = true ∧ r.negative = true) ∧
      (r.positive = true → ¬ (x ≤ 0.0 ∨ x.isNaN = true)) ∧
      (r.negative = true → ¬ (0.0 ≤ x ∨ x.isNaN = true)) ∧
      (∀ m, r.min = some m → ¬ x < m) ∧
      (∀ m, r.max = some m → ¬ m < x) ∧
      (∀ m, r.maxExclusive = some m → ¬ m ≤ x) := by
  rw [test, (Verdict.isFirstOf_first _).ok_iff]
  simp only [List.forall_mem_cons, List.not_mem_nil, false_implies, implies_true, and_true,
    Verdict.unless_eq_ok_iff, testBound_eq_ok_iff, ← imp_iff_not_or, Bool.not_eq_true', bne,
    ← Bool.not_eq_true, Bool.and_eq_true, Bool.or_eq_true, decide_eq_true_iff, gt_iff_lt,
    ge_iff_le]

/-- **A number passes iff the flags hold of it and, unless it is NaN, the bounds do.** -/
theorem test_eq_ok_iff (hr : r.Built) (x : Float) :
    r.test x = .ok () ↔ r.FlagsHold x ∧ (x.isNaN = false → r.BoundsHold x) := by
  have hzero : (0.0 : Float).isNaN = false := rfl
  rw [test_eq_ok_iff_tests]
  constructor
  · rintro ⟨hinteger, hnotZero, -, hpositive, hnegative, hmin, hmax, hmaxExclusive⟩
    refine ⟨⟨fun h => ?_, fun h => ?_, fun h => ?_, fun h => ?_⟩, fun hx => ⟨?_, ?_, ?_⟩⟩
    · have hwhole := (Decimal.isWholeFloat_iff x).mp (hinteger h)
      exact ⟨Decimal.isFinite_of_valueOf?_eq hwhole.choose_spec, hwhole⟩
    · exact mt (Decimal.beq_zero_iff x).mpr (hnotZero h)
    · exact (Decimal.limit_lt_iff hzero).mpr (hpositive h)
    · exact (Decimal.lt_limit_iff hzero).mpr (hnegative h)
    · exact fun m hm => (Decimal.not_lt_limit_iff (hr.min m hm)).mp (hmin m hm) hx
    · exact fun m hm => (Decimal.not_limit_lt_iff (hr.max m hm)).mp (hmax m hm) hx
    · exact fun m hm =>
        (Decimal.not_limit_le_iff (hr.maxExclusive m hm)).mp (hmaxExclusive m hm) hx
  · rintro ⟨hflags, hbounds⟩
    refine ⟨fun h => ?_, fun h => ?_, fun h => ?_, fun h => ?_, fun h => ?_, ?_, ?_, ?_⟩
    · exact (Decimal.isWholeFloat_iff x).mpr (hflags.integer h).2
    · exact mt (Decimal.beq_zero_iff x).mp (hflags.notZero h)
    · exact Decimal.not_lt_of_lt (hflags.positive h.1) (hflags.negative h.2)
    · exact (Decimal.limit_lt_iff hzero).mp (hflags.positive h)
    · exact (Decimal.lt_limit_iff hzero).mp (hflags.negative h)
    · exact fun m hm =>
        (Decimal.not_lt_limit_iff (hr.min m hm)).mpr fun hx => (hbounds hx).min m hm
    · exact fun m hm =>
        (Decimal.not_limit_lt_iff (hr.max m hm)).mpr fun hx => (hbounds hx).max m hm
    · exact fun m hm => (Decimal.not_limit_le_iff (hr.maxExclusive m hm)).mpr fun hx =>
        (hbounds hx).maxExclusive m hm

end NumberRules

/-! ## Built rules -/

/-- **A number passes the rules that directives build iff they hold of it, whatever the number:
finite, infinite or NaN.**  The exception are bounds: they say nothing of NaN, which passes them
although no comparison with it holds. -/
theorem passing_number_satisfies_rules {ds : List Directive} {c : Constraint} {r : NumberRules}
    (hc : build .number ds = some c) (hr : c.rules = .number r) (x : Float) :
    (r.test x = .ok () ↔ r.FlagsHold x ∧ (x.isNaN = false → r.BoundsHold x)) ∧
    (x.isNaN = true → r.BoundsHold x →
      r.min = none ∧ r.max = none ∧ r.maxExclusive = none) := by
  have hbuilt : c.rules.Built := (built_build hc).rules
  rw [hr] at hbuilt
  refine ⟨NumberRules.test_eq_ok_iff hbuilt x, fun hx hbounds => ⟨?_, ?_, ?_⟩⟩
  · exact Option.eq_none_iff_forall_ne_some.mpr fun m hm =>
      (Decimal.unordered_of_isNaN hx m).2.2.2 (hbounds.min m hm)
  · exact Option.eq_none_iff_forall_ne_some.mpr fun m hm =>
      (Decimal.unordered_of_isNaN hx m).2.2.1 (hbounds.max m hm)
  · exact Option.eq_none_iff_forall_ne_some.mpr fun m hm =>
      (Decimal.unordered_of_isNaN hx m).1 (hbounds.maxExclusive m hm)

/-- A number between the two bounds that directives give. -/
theorem passing_number_satisfies_rules_window :
    ∃ c r, build .number (Directive.tokenize "notZero,min=-2.5,maxx=1e3".toList) = some c ∧
      c.rules = .number r ∧ r.min = some (-2.5) ∧ r.maxExclusive = some 1e3 ∧
      r.test 7.25 = .ok () ∧ r.FlagsHold 7.25 ∧ r.BoundsHold 7.25 := by
  obtain ⟨c, r, hc, hr, hmin, hmaxExclusive, hpass⟩ : ∃ c r,
      build .number (Directive.tokenize "notZero,min=-2.5,maxx=1e3".toList) = some c ∧
        c.rules = .number r ∧ r.min = some (-2.5) ∧ r.maxExclusive = some 1e3 ∧
        r.test 7.25 = .ok () :=
    ⟨_, _, rfl, rfl, rfl, rfl, by with_unfolding_all rfl⟩
  obtain ⟨hflags, hbounds⟩ := (passing_number_satisfies_rules hc hr 7.25).1.mp hpass
  exact ⟨c, r, hc, hr, hmin, hmaxExclusive, hpass, hflags, hbounds rfl⟩

/-- NaN is not at least five and passes rules that ask for that. -/
theorem nan_passes_bound :
    ∃ c r, build .number (Directive.tokenize "min=5".toList) = some c ∧ c.rules = .number r ∧
      r.min = some 5 ∧ r.test (0.0 / 0.0) = .ok () ∧ ¬ (5 : Float) ≤ 0.0 / 0.0 :=
  ⟨_, _, rfl, rfl, rfl, by with_unfolding_all rfl, by decide +kernel⟩

end ShapeCheck
