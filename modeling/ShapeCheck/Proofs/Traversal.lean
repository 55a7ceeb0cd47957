import ShapeCheck.Check.Basic
import ShapeCheck.Proofs.Selection

/-!
# What going through an array does

`traverse` mixes the selection, the look-up of a constraint for each element, the threading of the
sampler's state and the stop at the first violation.  This file takes these apart:

* `Clean` — places gone through in order, from one state of the sampler to another, without a
  violation;
* `checkPlaces_ok_iff`, `checkPlaces_error_iff` — a run passes iff it is clean, and fails iff a
  clean front ends at an element whose test fails, with that test's violation and state;
* `checkPlaces_congr`, `checkPlaces_stop` — elements without a constraint and elements behind the
  failure do not matter;
* `traverse_exact` — all of it for `traverse`.
-/

set_option autoImplicit false

namespace ShapeCheck

variable {σ : Type}

/-! ## Elements with a constraint -/

/-- The element at a place with the constraint for its type, where there are both. -/
def entryAt? (elements : ByType Constraint) (items : List Value) (i : Nat) :
    Option (Constraint × Value) :=
  items[i]?.bind fun item => (elements.get? (.of item)).map (·, item)

theorem entryAt?_eq_some {elements : ByType Constraint} {items : List Value} {i : Nat}
    {c : Constraint} {item : Value} :
    entryAt? elements items i = some (c, item) ↔
      items[i]? = some item ∧ elements.get? (.of item) = some c := by
  rw [entryAt?, Option.bind_eq_some_iff]
  constructor
  · rintro ⟨item', hi, h⟩
    obtain ⟨c', hc, he⟩ := Option.map_eq_some_iff.mp h
    obtain ⟨rfl, rfl⟩ := Prod.mk.inj he
    exact ⟨hi, hc⟩
  · rintro ⟨hi, hc⟩
    exact ⟨item, hi, by rw [hc]; rfl⟩

theorem testElement_eq (sampler : Sampler σ) (elements : ByType Constraint) (v : Value) (s : σ) :
    testElement sampler elements v s =
      match elements.get? (.of v) with
      | none => .pass s
      | some c => c.test sampler v s := by
  obtain ⟨number, string, boolean, object, array, regex⟩ := elements
  rw [testElement]
  have hentry (entry : Option Constraint) : testEntry sampler entry v s =
      match entry with
      | none => .pass s
      | some c => c.test sampler v s := by
    cases entry <;> rw [testEntry]
  cases ValueType.of v with
  | none => rfl
  | number => exact hentry number
  | string => exact hentry string
  | boolean => exact hentry boolean
  | object => exact hentry object
  | array => exact hentry array
  | regex => exact hentry regex

/-! ## One place after the other -/

section

variable (sampler : Sampler σ) (elements : ByType Constraint) (items : List Value)

/-- Checks the elements at given places in order. -/
def checkPlaces (places : List Nat) (s : σ) : Outcome σ :=
  checkInOrder (testElement sampler elements) (elementsAt items places) s

/-- The outcome of an element's test with the rest of a run behind it; a violation ends the run. -/
def Outcome.andThen (o : Outcome σ) (i : Nat) (rest : σ → Outcome σ) : Outcome σ :=
  match o.verdict with
  | .ok _ => (rest o.state).after o.events
  | .error violation => { o with events := o.events ++ [.elementViolation i violation.kind] }

theorem checkPlaces_cons (i : Nat) (places : List Nat) (s : σ) :
    checkPlaces sampler elements items (i :: places) s =
      match entryAt? elements items i with
      | none => checkPlaces sampler elements items places s
      | some (c, item) =>
        (c.test sampler item s).andThen i (checkPlaces sampler elements items places) := by
  cases hi : items[i]? with
  | none => simp only [checkPlaces, elementsAt, entryAt?, List.filterMap_cons, hi, Option.map_none,
      Option.bind_none]
  | some item =>
    have hplaces : elementsAt items (i :: places) = (i, item) :: elementsAt items places := by
      simp only [elementsAt, List.filterMap_cons, hi, Option.map_some]
    rw [checkPlaces, hplaces, checkInOrder, testElement_eq, entryAt?, hi, Option.bind_some]
    cases elements.get? (.of item) with
    | none => rfl
    | some c => rfl

/-- The places of a list gone through in order, from one state of the sampler to another: each
element with a constraint passes its test, which may change the state, and every other place leaves
the state as it is. -/
inductive Clean : List Nat → σ → σ → Prop where
  | done {s : σ} : Clean [] s s
  | skip {i : Nat} {places : List Nat} {s s' : σ} (none_at : entryAt? elements items i = none)
      (rest : Clean places s s') : Clean (i :: places) s s'
  | pass {i : Nat} {places : List Nat} {c : Constraint} {item : Value} {s s' : σ}
      (entry_at : entryAt? elements items i = some (c, item))
      (ok : (c.test sampler item s).verdict = .ok ())
      (rest : Clean places (c.test sampler item s).state s') : Clean (i :: places) s s'

end

section

variable {sampler : Sampler σ} {elements : ByType Constraint} {items : List Value}

theorem checkPlaces_skip {i : Nat} {places : List Nat} {s : σ}
    (h : entryAt? elements items i = none) :
    checkPlaces sampler elements items (i :: places) s =
      checkPlaces sampler elements items places s := by
  rw [checkPlaces_cons, h]

theorem checkPlaces_pass {i : Nat} {places : List Nat} {c : Constraint} {item : Value} {s : σ}
    (h : entryAt? elements items i = some (c, item))
    (ok : (c.test sampler item s).verdict = .ok ()) :
    checkPlaces sampler elements items (i :: places) s =
      (checkPlaces sampler elements items places (c.test sampler item s).state).after
        (c.test sampler item s).events := by
  rw [checkPlaces_cons, h]
  show Outcome.andThen _ _ _ = _
  rw [Outcome.andThen, ok]

theorem checkPlaces_fail {i : Nat} {places : List Nat} {c : Constraint} {item : Value} {s : σ}
    {violation : Violation} (h : entryAt? elements items i = some (c, item))
    (fails : (c.test sampler item s).verdict = .error violation) :
    checkPlaces sampler elements items (i :: places) s =
      { c.test sampler item s with
        events := (c.test sampler item s).events ++ [.elementViolation i violation.kind] } := by
  rw [checkPlaces_cons, h]
  simp only [Outcome.andThen, fails]

/-- **A run passes iff it is clean**, and ends in the state of the clean run. -/
theorem checkPlaces_ok_iff {places : List Nat} {s s' : σ} :
    (checkPlaces sampler elements items places s).verdict = .ok () ∧
      (checkPlaces sampler elements items places s).state = s' ↔
    Clean sampler elements items places s s' := by
  constructor
  · rintro ⟨hv, rfl⟩
    induction places generalizing s with
    | nil => exact .done
    | cons i places ih =>
      cases he : entryAt? elements items i with
      | none =>
        rw [checkPlaces_skip he] at hv ⊢
        exact .skip he (ih hv)
      | some entry =>
        obtain ⟨c, item⟩ := entry
        cases hc : (c.test sampler item s).verdict with
        | ok _ =>
          rw [checkPlaces_pass he hc] at hv ⊢
          exact .pass he hc (ih hv)
        | error violation =>
          rw [checkPlaces_fail he hc] at hv
          exact absurd (hc.symm.trans hv) nofun
  · intro h
    induction h with
    | done => exact ⟨rfl, rfl⟩
    | skip he _ ih =>
      rw [checkPlaces_skip he]
      exact ih
    | pass he hc _ ih =>
      rw [checkPlaces_pass he hc]
      exact ih

theorem Clean.append {before : List Nat} {s m : σ}
    (h : Clean sampler elements items before s m) (places : List Nat) :
    ∃ events, checkPlaces sampler elements items (before ++ places) s =
      (checkPlaces sampler elements items places m).after events := by
  induction h with
  | done => exact ⟨[], rfl⟩
  | skip he _ ih =>
    obtain ⟨events, ih⟩ := ih
    exact ⟨events, by rw [List.cons_append, checkPlaces_skip he, ih]⟩
  | @pass i front c item s m he hc _ ih =>
    obtain ⟨events, ih⟩ := ih
    refine ⟨(c.test sampler item s).events ++ events, ?_⟩
    rw [List.cons_append, checkPlaces_pass he hc, ih]
    simp only [Outcome.after, List.append_assoc]

/-- **A run fails iff a clean front ends at an element whose test fails**, with the violation of
that test and the state behind it. -/
theorem checkPlaces_error_iff {places : List Nat} {s s' : σ} {violation : Violation} :
    (checkPlaces sampler elements items places s).verdict = .error violation ∧
      (checkPlaces sampler elements items places s).state = s' ↔
    ∃ before i after m c item, places = before ++ i :: after ∧
      Clean sampler elements items before s m ∧ entryAt? elements items i = some (c, item) ∧
      (c.test sampler item m).verdict = .error violation ∧ (c.test sampler item m).state = s' := by
  constructor
  · rintro ⟨hv, rfl⟩
    induction places generalizing s with
    | nil => cases hv
    | cons i places ih =>
      cases he : entryAt? elements items i with
      | none =>
        rw [checkPlaces_skip he] at hv ⊢
        obtain ⟨before, j, after, m, c, item, rfl, hclean, hrest⟩ := ih hv
        exact ⟨i :: before, j, after, m, c, item, rfl, .skip he hclean, hrest⟩
      | some entry =>
        obtain ⟨c, item⟩ := entry
        cases hc : (c.test sampler item s).verdict with
        | ok _ =>
          rw [checkPlaces_pass he hc] at hv ⊢
          obtain ⟨before, j, after, m, c', item', rfl, hclean, hrest⟩ := ih hv
          exact ⟨i :: before, j, after, m, c', item', rfl, .pass he hc hclean, hrest⟩
        | error found =>
          rw [checkPlaces_fail he hc] at hv ⊢
          exact ⟨[], i, places, s, c, item, rfl, .done, he, hv, rfl⟩
  · rintro ⟨before, i, after, m, c, item, rfl, hclean, he, hc, rfl⟩
    obtain ⟨events, happend⟩ := hclean.append (i :: after)
    rw [happend, checkPlaces_fail he hc]
    exact ⟨hc, rfl⟩

theorem checkPlaces_stop {before after : List Nat} {i : Nat} {s m : σ} {c : Constraint}
    {item : Value} {violation : Violation} (hclean : Clean sampler elements items before s m)
    (he : entryAt? elements items i = some (c, item))
    (hc : (c.test sampler item m).verdict = .error violation) :
    checkPlaces sampler elements items (before ++ i :: after) s =
      checkPlaces sampler elements items (before ++ [i]) s := by
  induction hclean with
  | done =>
    rw [List.nil_append, List.nil_append, checkPlaces_fail he hc, checkPlaces_fail he hc]
  | skip hnone _ ih =>
    rw [List.cons_append, List.cons_append, checkPlaces_skip hnone, checkPlaces_skip hnone, ih hc]
  | pass hentry hok _ ih =>
    rw [List.cons_append, List.cons_append, checkPlaces_pass hentry hok,
      checkPlaces_pass hentry hok, ih hc]

/-- Only the elements with a constraint at the places of a run matter. -/
theorem checkPlaces_congr {other : List Value} {places : List Nat} {s : σ}
    (h : ∀ i ∈ places, entryAt? elements other i = entryAt? elements items i) :
    checkPlaces sampler elements other places s = checkPlaces sampler elements items places s := by
  induction places generalizing s with
  | nil => rfl
  | cons i places ih =>
    have hrest : checkPlaces sampler elements other places =
        checkPlaces sampler elements items places :=
      funext fun s => ih fun j hj => h j (List.mem_cons_of_mem i hj)
    rw [checkPlaces_cons, checkPlaces_cons, h i List.mem_cons_self, hrest]

end

/-! ## Arrays -/

/-- A traversal selects places and goes through them in the state behind the selection. -/
theorem traverse_eq (sampler : Sampler σ) (elements : ByType Constraint) (items : List Value)
    (mode : Mode) (first second : Option String) (s : σ) :
    traverse sampler (testElement sampler elements) items mode first second s =
      (checkPlaces sampler elements items
        (selectIndices sampler items.length mode first second s).1
        (selectIndices sampler items.length mode first second s).2).after
        [.elementTraversal mode items.length
          (selectIndices sampler items.length mode first second s).1.length] := rfl

theorem traverse_congr {sampler : Sampler σ} {elements : ByType Constraint}
    {items other : List Value} {mode : Mode} {first second : Option String} {s : σ}
    (hlength : other.length = items.length)
    (h : ∀ i ∈ (selectIndices sampler items.length mode first second s).1,
      entryAt? elements other i = entryAt? elements items i) :
    traverse sampler (testElement sampler elements) other mode first second s =
      traverse sampler (testElement sampler elements) items mode first second s := by
  rw [traverse_eq, traverse_eq, hlength, checkPlaces_congr h]

theorem traverse_stop {sampler : Sampler σ} {elements : ByType Constraint}
    {items other : List Value} {mode : Mode} {first second : Option String} {s m : σ}
    {before after : List Nat} {i : Nat} {c : Constraint} {item : Value} {violation : Violation}
    (hplaces : (selectIndices sampler items.length mode first second s).1 = before ++ i :: after)
    (hclean : Clean sampler elements items before
      (selectIndices sampler items.length mode first second s).2 m)
    (he : entryAt? elements items i = some (c, item))
    (hc : (c.test sampler item m).verdict = .error violation)
    (hlength : other.length = items.length)
    (h : ∀ j ∈ before ++ [i], entryAt? elements other j = entryAt? elements items j) :
    traverse sampler (testElement sampler elements) other mode first second s =
      traverse sampler (testElement sampler elements) items mode first second s := by
  -- the other array fails at the same place, since its front is the same
  have hfront : Clean sampler elements other before
      (selectIndices sampler items.length mode first second s).2 m := by
    have hbefore := checkPlaces_ok_iff.mpr hclean
    rw [← checkPlaces_congr fun j hj => h j (List.mem_append_left _ hj)] at hbefore
    exact checkPlaces_ok_iff.mp hbefore
  have hi : entryAt? elements other i = some (c, item) := by
    rw [h i (List.mem_append_right _ List.mem_cons_self), he]
  rw [traverse_eq, traverse_eq, hlength, hplaces, checkPlaces_stop hclean he hc,
    checkPlaces_stop hfront hi hc, checkPlaces_congr h]

/-- An array with constraints for elements and no mode goes through all elements once its own rules
hold. -/
theorem test_array_of_each {r : ArrayRules Constraint} (heach : r.elements.isEmpty = false)
    (hmode : r.mode = none) (sampler : Sampler σ) (note badName : Option String)
    (items : List Value) (s : σ) :
    Constraint.test sampler ⟨.array r, note, badName⟩ (.array items) s =
      match r.testOwn items with
      | .error violation => .of (.error violation) s
      | .ok _ => traverse sampler (testElement sampler r.elements) items .all r.first r.second s := by
  obtain ⟨minLength, maxLength, contains, elements, mode, first, second⟩ := r
  cases hmode
  have hchecks : ArrayRules.hasElementChecks
      ⟨minLength, maxLength, contains, elements, none, first, second⟩ = true := by
    rw [ArrayRules.hasElementChecks]
    show (!elements.isEmpty || false) = true
    rw [heach]
    rfl
  rw [Constraint.test, testRules, testArray]
  cases ArrayRules.testOwn ⟨minLength, maxLength, contains, elements, none, first, second⟩ items with
  | error violation => rfl
  | ok _ => exact if_pos hchecks

/-- **Array traversal is exact.**  Let `places` be what the selection gives.  The traversal passes
iff going through `places` in order, with the state threaded through, is clean; otherwise it returns
the violation of the first place whose element fails, which is the least of `places` that does, in
the state that this element's test left behind.  Elements behind the failing one, elements without
a constraint and elements outside `places` never matter.  With constraints for elements and no mode,
`places` is every place. -/
theorem traverse_exact (sampler : Sampler σ) (elements : ByType Constraint) (items : List Value)
    (mode : Mode) (first second : Option String) (s : σ) :
    let places := (selectIndices sampler items.length mode first second s).1
    let selected := (selectIndices sampler items.length mode first second s).2
    let run := fun items => traverse sampler (testElement sampler elements) items mode first second s
    (∀ s', (run items).verdict = .ok () ∧ (run items).state = s' ↔
      Clean sampler elements items places selected s') ∧
    (∀ violation s', (run items).verdict = .error violation ∧ (run items).state = s' ↔
      ∃ before i after m c item, places = before ++ i :: after ∧
        (∀ j ∈ before, j < i) ∧ (∀ j ∈ after, i < j) ∧
        Clean sampler elements items before selected m ∧
        entryAt? elements items i = some (c, item) ∧
        (c.test sampler item m).verdict = .error violation ∧
        (c.test sampler item m).state = s' ∧
        ∀ other, other.length = items.length →
          (∀ j ∈ places, j ≤ i → entryAt? elements other j = entryAt? elements items j) →
          run other = run items) ∧
    (∀ other, other.length = items.length →
      (∀ i ∈ places, entryAt? elements other i = entryAt? elements items i) →
      run other = run items) ∧
    (∀ (r : ArrayRules Constraint) (note badName : Option String), r.elements = elements →
      elements.isEmpty = false → r.mode = none →
      Constraint.test sampler ⟨.array r, note, badName⟩ (.array items) s =
        (match r.testOwn items with
          | .error violation => .of (.error violation) s
          | .ok _ =>
            traverse sampler (testElement sampler elements) items .all r.first r.second s) ∧
      selectIndices sampler items.length .all r.first r.second s =
        (List.range items.length, s)) := by
  intro places selected run
  refine ⟨?_, ?_, ?_, ?_⟩
  · intro s'
    exact checkPlaces_ok_iff
  · intro violation s'
    constructor
    · intro h
      obtain ⟨before, i, after, m, c, item, hplaces, hclean, he, hc, hs⟩ :=
        checkPlaces_error_iff.mp h
      change places = before ++ i :: after at hplaces
      -- the places ascend, so the failing one is above those before it and below those behind it
      have hasc : (before ++ i :: after).Pairwise (· < ·) :=
        hplaces ▸ pairwise_selectPlaces sampler items.length mode _ _ s
      obtain ⟨-, hafter, hbefore⟩ := List.pairwise_append.mp hasc
      have hlt : ∀ j ∈ before, j < i := fun j hj => hbefore j hj i List.mem_cons_self
      refine ⟨before, i, after, m, c, item, hplaces, hlt, (List.pairwise_cons.mp hafter).1, hclean,
        he, hc, hs, ?_⟩
      intro other hlength hother
      refine traverse_stop hplaces hclean he hc hlength ?_
      intro j hj
      rcases List.mem_append.mp hj with hj | hj
      · have hmem : j ∈ places := hplaces ▸ List.mem_append_left _ hj
        exact hother j hmem (Nat.le_of_lt (hlt j hj))
      · obtain rfl := List.mem_singleton.mp hj
        have hmem : j ∈ places := hplaces ▸ List.mem_append_right _ List.mem_cons_self
        exact hother j hmem (Nat.le_refl j)
    · rintro ⟨before, i, after, m, c, item, hplaces, -, -, hclean, he, hc, hs, -⟩
      exact checkPlaces_error_iff.mpr ⟨before, i, after, m, c, item, hplaces, hclean, he, hc, hs⟩
  · intro other hlength h
    exact traverse_congr hlength h
  · rintro r note badName rfl heach hmode
    exact ⟨test_array_of_each heach hmode sampler note badName items s, rfl⟩

/-- The constraint of texts of at least two characters, for the elements of an array. -/
def longTexts : ByType Constraint :=
  { string := some { rules := .string { minLength := some 2 } } }

/-- The third of four elements fails; the second has no constraint and the fourth is not reached. -/
theorem traverse_exact_third_fails :
    let run := fun items =>
      traverse Sampler.sequential (testElement Sampler.sequential longTexts) items .all none none ()
    run [.string "ab", .bool true, .string "a", .string "long"] =
      run [.string "ab", .null, .string "a", .string "long"] ∧
    ∃ before i after m c item, List.range 4 = before ++ i :: after ∧ (∀ j ∈ before, j < i) ∧
      Clean Sampler.sequential longTexts [.string "ab", .null, .string "a", .string "long"] before
        () m ∧
      entryAt? longTexts [.string "ab", .null, .string "a", .string "long"] i = some (c, item) ∧
      (c.test Sampler.sequential item m).verdict = .error (.lengthRange .min 1 2) := by
  intro run
  obtain ⟨-, hfails, hcongr, -⟩ := traverse_exact Sampler.sequential longTexts
    [.string "ab", .null, .string "a", .string "long"] .all none none ()
  constructor
  · refine hcongr [.string "ab", .bool true, .string "a", .string "long"] rfl ?_
    intro i hi
    have hi : i < 4 := List.mem_range.mp hi
    obtain rfl | rfl | rfl | rfl : i = 0 ∨ i = 1 ∨ i = 2 ∨ i = 3 := by omega
    all_goals rfl
  · obtain ⟨before, i, after, m, c, item, hplaces, hbefore, -, hclean, he, hc, -⟩ :=
      (hfails (.lengthRange .min 1 2) ()).mp ⟨rfl, rfl⟩
    exact ⟨before, i, after, m, c, item, hplaces, hbefore, hclean, he, hc⟩

end ShapeCheck
