import ShapeCheck.Proofs.Selection

/-!
# What the modes without draws select

Every mode that does not ask the sampler selects the places below the length that keep a rule, and
leaves the sampler in its state.

* `Mode.rule?` — the rules, with the counts of both parameters;
* `mem_selectPlaces_of_rule?` — a mode selects exactly the places that keep its rule;
* `selectPlaces_eq_of_rules` — so modes whose rules agree below the length select the same;
* `deterministic_selection_exact` — both for parameters as written.
-/

set_option autoImplicit false

namespace ShapeCheck

/-- The rule for the places below a length that a mode selects with two counts.  Modes that ask the
sampler have none. -/
def Mode.rule? (mode : Mode) (length a b : Nat) : Option (Nat → Prop) :=
  match mode with
  | .all => some fun _ => True
  | .none => some fun _ => False
  | .first => some fun i => i < a
  | .last => some fun i => length ≤ i + a
  | .step => some fun i => 0 < a ∧ a ∣ i
  | .firstThenLast => some fun i => i < a ∨ length ≤ i + b
  | .firstThenStep => some fun i =>
    i < min a length ∨ 0 < b ∧ min a length ≤ i ∧ b ∣ i - min a length
  | .random => Option.none
  | .firstThenRandom => Option.none

theorem Mode.exists_rule? {mode : Mode} (h : mode.isRandom = false) (length a b : Nat) :
    ∃ rule, mode.rule? length a b = some rule := by
  cases mode with
  | random | firstThenRandom => cases h
  | _ => exact ⟨_, rfl⟩

section

variable {σ : Type} {sampler : Sampler σ} {length a b c d : Nat} {mode other : Mode}
  {rule otherRule : Nat → Prop} {s : σ}

/-- **A mode without draws selects exactly the places that keep its rule.** -/
theorem mem_selectPlaces_of_rule? (h : mode.rule? length a b = some rule) {i : Nat} :
    i ∈ (selectPlaces sampler length mode a b s).1 ↔ i < length ∧ rule i := by
  cases mode with
  | random | firstThenRandom => cases h
  | all =>
    cases h
    exact List.mem_range.trans (and_iff_left trivial).symm
  | none =>
    cases h
    exact iff_of_false List.not_mem_nil And.right
  | first =>
    cases h
    show i ∈ List.range (min a length) ↔ _
    rw [List.mem_range]
    omega
  | last =>
    cases h
    show i ∈ List.range' (length - min a length) (min a length) ↔ _
    rw [List.mem_range'_1]
    omega
  | step =>
    cases h
    show i ∈ stepped 0 length a ↔ _
    rw [mem_stepped, Nat.sub_zero]
    exact ⟨fun ⟨hpos, _, hlt, hdvd⟩ => ⟨hlt, hpos, hdvd⟩,
      fun ⟨hlt, hpos, hdvd⟩ => ⟨hpos, Nat.zero_le i, hlt, hdvd⟩⟩
  | firstThenLast =>
    cases h
    show i ∈ List.range (min a length) ++ List.range' (max (length - b) (min a length))
      (length - max (length - b) (min a length)) ↔ _
    rw [List.mem_append, List.mem_range, List.mem_range'_1]
    omega
  | firstThenStep =>
    cases h
    show i ∈ List.range (min a length) ++ stepped (min a length) length b ↔ _
    rw [List.mem_append, List.mem_range, mem_stepped]
    constructor
    · rintro (hfront | ⟨hpos, hle, hlt, hdvd⟩)
      · exact ⟨Nat.lt_of_lt_of_le hfront (Nat.min_le_right a length), Or.inl hfront⟩
      · exact ⟨hlt, Or.inr ⟨hpos, hle, hdvd⟩⟩
    · rintro ⟨hlt, hfront | ⟨hpos, hle, hdvd⟩⟩
      · exact Or.inl hfront
      · exact Or.inr ⟨hpos, hle, hlt, hdvd⟩

theorem state_selectPlaces_of_rule? (h : mode.rule? length a b = some rule) :
    (selectPlaces sampler length mode a b s).2 = s := by
  cases mode with
  | random | firstThenRandom => cases h
  | _ => rfl

theorem selectPlaces_eq_of_rules (h : mode.rule? length a b = some rule)
    (hother : other.rule? length c d = some otherRule)
    (hsame : ∀ i < length, rule i ↔ otherRule i) :
    selectPlaces sampler length mode a b s = selectPlaces sampler length other c d s := by
  refine Prod.ext ?_ ?_
  · refine (pairwise_selectPlaces sampler length mode a b s).eq_of_mem_iff
      (pairwise_selectPlaces sampler length other c d s) ?_
    intro i
    rw [mem_selectPlaces_of_rule? h, mem_selectPlaces_of_rule? hother]
    exact and_congr_right (hsame i)
  · rw [state_selectPlaces_of_rule? h, state_selectPlaces_of_rule? hother]

end

/-- **Each mode without draws selects exactly its places.**  With the counts `a` and `b` of its
parameters a mode that does not ask the sampler selects the places below the length that keep its
rule.  So an empty front leaves `firstThenStep` the steps and `firstThenLast` the end; without a
second part both select the front; and steps of one, and fronts and ends that reach over the whole
array, select all of it. -/
theorem deterministic_selection_exact {σ : Type} (sampler : Sampler σ) (length : Nat)
    (first second : Option String) (s : σ) :
    let a := parameter first
    let b := parameter second
    let select (mode : Mode) (first second : Option String) :=
      selectIndices sampler length mode first second s
    (∀ mode : Mode, mode.isRandom = false → ∃ rule, mode.rule? length a b = some rule ∧
      ∀ i, i ∈ (select mode first second).1 ↔ i < length ∧ rule i) ∧
    (a = 0 → select .firstThenStep first second = select .step second none) ∧
    (b = 0 → select .firstThenStep first second = select .first first none) ∧
    (b = 0 → select .firstThenLast first second = select .first first none) ∧
    (a = 0 → select .firstThenLast first second = select .last second none) ∧
    (a = 1 → select .step first second = select .all none none) ∧
    (length ≤ a → select .first first second = select .all none none) ∧
    (length ≤ a → select .last first second = select .all none none) ∧
    (length ≤ a + b → select .firstThenLast first second = select .all none none) := by
  intro a b select
  refine ⟨?_, ?_, ?_, ?_, ?_, ?_, ?_, ?_, ?_⟩
  · intro mode hmode
    obtain ⟨rule, hrule⟩ := Mode.exists_rule? hmode length a b
    exact ⟨rule, hrule, fun i => mem_selectPlaces_of_rule? hrule⟩
  · intro ha
    refine selectPlaces_eq_of_rules rfl rfl fun i _ => ?_
    simp [show parameter first = 0 from ha]
  · intro hb
    refine selectPlaces_eq_of_rules rfl rfl fun i hi => ?_
    rw [show parameter second = 0 from hb]
    omega
  · intro hb
    refine selectPlaces_eq_of_rules rfl rfl fun i hi => ?_
    rw [show parameter second = 0 from hb]
    omega
  · intro ha
    refine selectPlaces_eq_of_rules rfl rfl fun i hi => ?_
    rw [show parameter first = 0 from ha]
    omega
  · intro ha
    refine selectPlaces_eq_of_rules rfl rfl fun i _ => ?_
    simp [show parameter first = 1 from ha]
  · intro ha
    refine selectPlaces_eq_of_rules rfl rfl fun i hi => ?_
    exact iff_true_intro (Nat.lt_of_lt_of_le hi ha)
  · intro ha
    refine selectPlaces_eq_of_rules rfl rfl fun i _ => ?_
    exact iff_true_intro (Nat.le_trans ha (Nat.le_add_left a i))
  · intro hab
    refine selectPlaces_eq_of_rules rfl rfl fun i _ => ?_
    exact iff_true_intro (by omega)

/-- A front of two and every third place behind it, with a count that is cut to a whole number; and
an end of as many places as a count can be. -/
theorem deterministic_selection_exact_lenient :
    (Mode.firstThenStep.isRandom = false ∧ ∃ rule,
      Mode.firstThenStep.rule? 10 2 3 = some rule ∧ ∀ i,
        i ∈ (selectIndices Sampler.sequential 10 .firstThenStep (some "2.9") (some " 3 ") ()).1 ↔
          i < 10 ∧ rule i) ∧
    (selectIndices Sampler.sequential 10 .firstThenStep (some "2.9") (some " 3 ") ()).1 =
      [0, 1, 2, 5, 8] ∧
    10 ≤ parameter (some "1e300") ∧
    selectIndices Sampler.sequential 10 .last (some "1e300") none () =
      selectIndices Sampler.sequential 10 .all none none () := by
  have htwo : parameter (some "2.9") = 2 := by decide +kernel
  have hthree : parameter (some " 3 ") = 3 := by decide +kernel
  have hhuge : 10 ≤ parameter (some "1e300") := by decide +kernel
  obtain ⟨hexact, -⟩ :=
    deterministic_selection_exact Sampler.sequential 10 (some "2.9") (some " 3 ") ()
  obtain ⟨-, -, -, -, -, -, -, hlast, -⟩ :=
    deterministic_selection_exact Sampler.sequential 10 (some "1e300") none ()
  have hrule := hexact .firstThenStep rfl
  rw [htwo, hthree] at hrule
  refine ⟨⟨rfl, hrule⟩, ?_, hhuge, hlast hhuge⟩
  decide +kernel

end ShapeCheck
