import ShapeCheck.Proofs.Draws

/-!
# Checking some of the elements

A mode selects some of the elements of an array, so a check of the selected ones may miss what a
check of all of them finds.  It finds nothing else: where the constraints for elements have no
random mode, whether an element breaks its constraint is decided by the element alone, whatever was
drawn before it.

* `BreaksAt` — the element at a place breaks the constraint for its type under every sampler;
* `verdict_checkPlaces_eq_ok_iff`, `exists_breaksAt` — a run passes iff no element at its places
  breaks, and fails with the violation of the first one that does;
* `sampling_invents_no_failure` — so no mode fails where the mode of all elements passes, and what a
  mode reports is found at that place or an earlier one by the mode of all elements.
-/

set_option autoImplicit false

namespace ShapeCheck

variable {σ τ : Type}

/-- No constraint for elements has a random mode, at any depth. -/
def ByType.Drawless (elements : ByType Constraint) : Prop :=
  ∀ t c, elements.get? t = some c → c.Drawless

/-- The element at a place, tested alone against the constraint for its type, breaks it with a
violation, whatever the sampler. -/
def BreaksAt (elements : ByType Constraint) (items : List Value) (i : Nat) (violation : Violation) :
    Prop :=
  ∃ c item, items[i]? = some item ∧ elements.get? (.of item) = some c ∧
    ∀ {σ : Type} (sampler : Sampler σ) (s : σ), (c.test sampler item s).verdict = .error violation

/-! ## Elements that break their constraint -/

section

variable {sampler : Sampler σ} {elements : ByType Constraint} {items : List Value}

theorem breaksAt_of_test (h : elements.Drawless) {i : Nat} {c : Constraint} {item : Value} {m : σ}
    {violation : Violation} (he : entryAt? elements items i = some (c, item))
    (hc : (c.test sampler item m).verdict = .error violation) :
    BreaksAt elements items i violation := by
  obtain ⟨hi, hentry⟩ := entryAt?_eq_some.mp he
  refine ⟨c, item, hi, hentry, fun other u => ?_⟩
  rw [← ((h _ c hentry).agree sampler other item m u).verdict, hc]

theorem Clean.not_breaksAt {places : List Nat} {s s' : σ}
    (h : Clean sampler elements items places s s') {i : Nat} (hi : i ∈ places)
    (violation : Violation) : ¬ BreaksAt elements items i violation := by
  rintro ⟨c, item, hitem, hc, htest⟩
  have he : entryAt? elements items i = some (c, item) := entryAt?_eq_some.mpr ⟨hitem, hc⟩
  induction h with
  | done => cases hi
  | skip hnone _ ih =>
    rcases List.mem_cons.mp hi with rfl | hi
    · cases hnone.symm.trans he
    · exact ih hi
  | pass hentry hok _ ih =>
    rcases List.mem_cons.mp hi with rfl | hi
    · obtain ⟨rfl, rfl⟩ := Prod.mk.inj (Option.some.inj (hentry.symm.trans he))
      exact absurd ((htest sampler _).symm.trans hok) nofun
    · exact ih hi

/-- **A run fails with the violation of the first place whose element breaks.** -/
theorem exists_breaksAt (h : elements.Drawless) {places : List Nat} {s : σ} {violation : Violation}
    (hrun : (checkPlaces sampler elements items places s).verdict = .error violation) :
    ∃ before i after, places = before ++ i :: after ∧ BreaksAt elements items i violation ∧
      ∀ j ∈ before, ∀ found, ¬ BreaksAt elements items j found := by
  obtain ⟨before, i, after, m, c, item, hplaces, hclean, he, hc, -⟩ :=
    checkPlaces_error_iff.mp ⟨hrun, rfl⟩
  exact ⟨before, i, after, hplaces, breaksAt_of_test h he hc,
    fun j hj found => hclean.not_breaksAt hj found⟩

/-- **A run passes iff no element at its places breaks.** -/
theorem verdict_checkPlaces_eq_ok_iff (h : elements.Drawless) {places : List Nat} {s : σ} :
    (checkPlaces sampler elements items places s).verdict = .ok () ↔
      ∀ i ∈ places, ∀ violation, ¬ BreaksAt elements items i violation := by
  constructor
  · intro hrun i hi
    exact (checkPlaces_ok_iff.mp ⟨hrun, rfl⟩).not_breaksAt hi
  · intro hnone
    cases hrun : (checkPlaces sampler elements items places s).verdict with
    | ok _ => rfl
    | error violation =>
      obtain ⟨before, i, after, rfl, hbreaks, -⟩ := exists_breaksAt h hrun
      exact absurd hbreaks (hnone i (List.mem_append_right _ List.mem_cons_self) violation)

theorem eq_range_of_range_eq_append {length j : Nat} {before after : List Nat}
    (h : List.range length = before ++ j :: after) : before = List.range j := by
  rw [List.range_eq_range', List.range'_eq_append_iff] at h
  obtain ⟨front, -, rfl, hrest⟩ := h
  obtain ⟨rfl, -⟩ := List.range'_eq_cons_iff.mp hrest.symm
  simp [List.range_eq_range']

/-- Where the element at a place breaks, the mode of all elements fails at that place or before it,
with the violation of the first element that breaks. -/
theorem verdict_all_of_breaksAt (h : elements.Drawless) {i : Nat} {violation : Violation}
    (hi : BreaksAt elements items i violation) (first second : Option String) (s : σ) :
    ∃ j ≤ i, ∃ found,
      (traverse sampler (testElement sampler elements) items .all first second s).verdict =
        .error found ∧
      BreaksAt elements items j found ∧ ∀ k < j, ∀ other, ¬ BreaksAt elements items k other := by
  have hlt : i < items.length := by
    obtain ⟨_, _, hitem, -⟩ := hi
    exact (List.getElem?_eq_some_iff.mp hitem).1
  rw [traverse_eq]
  show ∃ j ≤ i, ∃ found,
    (checkPlaces sampler elements items (List.range items.length) s).verdict = .error found ∧ _
  cases hrun : (checkPlaces sampler elements items (List.range items.length) s).verdict with
  | ok _ =>
    exact absurd hi ((verdict_checkPlaces_eq_ok_iff h).mp hrun i (List.mem_range.mpr hlt) violation)
  | error found =>
    obtain ⟨before, j, after, hplaces, hj, hbefore⟩ := exists_breaksAt h hrun
    -- all places are gone through in order, so those before `j` are the ones below it
    have hfirst : ∀ k < j, ∀ other, ¬ BreaksAt elements items k other := by
      intro k hk
      rw [eq_range_of_range_eq_append hplaces] at hbefore
      exact hbefore k (List.mem_range.mpr hk)
    have hle : j ≤ i := Nat.le_of_not_lt fun hlt => hfirst i hlt violation hi
    exact ⟨j, hle, found, rfl, hj, hfirst⟩

end

/-- **Checking some of the elements invents no failure.**  Let the constraints for elements have no
random mode at any depth.  If all elements pass, they pass under every mode with any parameters and
every sampler.  If a mode reports a violation, then an element of the array breaks the constraint
for its type with that violation when it is tested alone, and the mode of all elements fails at the
place of that element or at an earlier one. -/
theorem sampling_invents_no_failure {elements : ByType Constraint} (h : elements.Drawless)
    (items : List Value) (sampler : Sampler σ) (s : σ) (allFirst allSecond : Option String)
    (mode : Mode) (first second : Option String) (other : Sampler τ) (u : τ) :
    let all := traverse sampler (testElement sampler elements) items .all allFirst allSecond s
    let run := traverse other (testElement other elements) items mode first second u
    (all.verdict = .ok () → run.verdict = .ok ()) ∧
    ∀ violation, run.verdict = .error violation →
      ∃ i, BreaksAt elements items i violation ∧
        ∃ j ≤ i, ∃ found, all.verdict = .error found ∧ BreaksAt elements items j found ∧
          ∀ k < j, ∀ earlier, ¬ BreaksAt elements items k earlier := by
  intro all run
  have hbreaks : ∀ violation, run.verdict = .error violation →
      ∃ i, BreaksAt elements items i violation := by
    intro violation hrun
    obtain ⟨_, i, _, -, hi, -⟩ := exists_breaksAt h hrun
    exact ⟨i, hi⟩
  constructor
  · intro hall
    cases hrun : run.verdict with
    | ok _ => rfl
    | error violation =>
      obtain ⟨i, hi⟩ := hbreaks violation hrun
      obtain ⟨_, _, found, hfails, -⟩ :=
        @verdict_all_of_breaksAt _ sampler _ _ h _ _ hi allFirst allSecond s
      cases hall.symm.trans hfails
  · intro violation hrun
    obtain ⟨i, hi⟩ := hbreaks violation hrun
    exact ⟨i, hi, verdict_all_of_breaksAt h hi allFirst allSecond s⟩

/-- Two places drawn at random find the last of five elements, the mode of all the third. -/
theorem sampling_invents_no_failure_last :
    let items := [Value.string "ab", .null, .string "a", .string "long", .string ""]
    longTexts.Drawless ∧
    (traverse Sampler.scripted (testElement Sampler.scripted longTexts) items .random (some "2") none
      [[4, 3]]).verdict = .error (.lengthRange .min 0 2) ∧
    ∃ i, BreaksAt longTexts items i (.lengthRange .min 0 2) ∧ ∃ j ≤ i, ∃ found,
      (traverse Sampler.sequential (testElement Sampler.sequential longTexts) items .all none none
        ()).verdict = .error found ∧ BreaksAt longTexts items j found := by
  intro items
  have hdrawless : longTexts.Drawless := by
    intro t c hc
    cases t <;> cases hc
    exact .of_toList rfl nofun
  have hrun : (traverse Sampler.scripted (testElement Sampler.scripted longTexts) items .random
      (some "2") none [[4, 3]]).verdict = .error (.lengthRange .min 0 2) := by
    with_unfolding_all rfl
  obtain ⟨i, hi, j, hj, found, hall, hfound, -⟩ := (sampling_invents_no_failure hdrawless items
    Sampler.sequential () none none .random (some "2") none Sampler.scripted [[4, 3]]).2 _ hrun
  exact ⟨hdrawless, hrun, i, hi, j, hj, found, hall, hfound⟩

end ShapeCheck
