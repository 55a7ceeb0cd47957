import Mathlib.Data.List.Sort
import ShapeCheck.Selection.Indices

/-!
# Selections are safe

A sampler may answer with places that are out of range, repeated or in no order.  This file proves
that the selection made from its answer is sound all the same:

* `mem_tidy`, `pairwise_tidy` — tidying keeps exactly the places in range, ascending, each once;
* `mem_stepped`, `pairwise_stepped` — the places of a stepped run;
* `pairwise_selectPlaces`, `lt_of_mem_selectPlaces`, `length_selectPlaces_le` — what every mode
  selects is ascending, inside the array and within the mode's budget;
* `selectPlaces_congr` — only the set of places in range matters of an answer;
* `selectIndices_safe` — all of it for parameters as written, with every subtraction justified.
-/

set_option autoImplicit false

namespace ShapeCheck

/-! ## Ascending lists of places -/

theorem mem_insertPlace {i j : Nat} : ∀ {l : List Nat}, j ∈ insertPlace i l ↔ j = i ∨ j ∈ l
  | [] => by simp [insertPlace]
  | k :: l => by
    rw [insertPlace]
    split
    · rw [List.mem_cons]
    · split
      · rename_i h
        subst h
        simp
      · rw [List.mem_cons, mem_insertPlace, List.mem_cons]
        exact or_left_comm

theorem pairwise_insertPlace (i : Nat) :
    ∀ {l : List Nat}, l.Pairwise (· < ·) → (insertPlace i l).Pairwise (· < ·)
  | [], _ => by simp [insertPlace]
  | k :: l, h => by
    obtain ⟨hk, hl⟩ := List.pairwise_cons.mp h
    rw [insertPlace]
    split
    · rename_i hik
      refine List.pairwise_cons.mpr ⟨?_, h⟩
      intro j hj
      rcases List.mem_cons.mp hj with rfl | hj
      · exact hik
      · exact Nat.lt_trans hik (hk j hj)
    · split
      · exact h
      · refine List.pairwise_cons.mpr ⟨?_, pairwise_insertPlace i hl⟩
        intro j hj
        rcases mem_insertPlace.mp hj with rfl | hj
        · omega
        · exact hk j hj

theorem mem_tidy {i length : Nat} {places : List Nat} :
    i ∈ tidy length places ↔ i ∈ places ∧ i < length := by
  have key : ∀ l : List Nat, i ∈ l.foldr insertPlace [] ↔ i ∈ l := by
    intro l
    induction l with
    | nil => rfl
    | cons j l ih => rw [List.foldr_cons, mem_insertPlace, ih, List.mem_cons]
  rw [tidy, key, List.mem_filter, decide_eq_true_iff]

theorem pairwise_tidy (length : Nat) (places : List Nat) :
    (tidy length places).Pairwise (· < ·) := by
  rw [tidy]
  induction places.filter (· < length) with
  | nil => exact List.Pairwise.nil
  | cons j l ih => exact pairwise_insertPlace j ih

/-- **Only the set of places in range matters of an answer.** -/
theorem tidy_congr {length : Nat} {places other : List Nat}
    (h : ∀ i < length, i ∈ places ↔ i ∈ other) : tidy length places = tidy length other := by
  refine (pairwise_tidy length places).eq_of_mem_iff (pairwise_tidy length other) ?_
  intro i
  rw [mem_tidy, mem_tidy]
  exact and_congr_left (h i)

/-- A run of steps from `start` holds the places whose distance from `start` is a multiple of the
step. -/
theorem mem_stepped {i start length step : Nat} :
    i ∈ stepped start length step ↔
      0 < step ∧ start ≤ i ∧ i < length ∧ step ∣ i - start := by
  rw [stepped]
  split
  · rename_i h
    simp [h]
  · rename_i h
    have hpos : 0 < step := Nat.pos_of_ne_zero h
    have hcount (k : Nat) :
        k < (length - start + step - 1) / step ↔ start + step * k < length := by
      rw [Nat.lt_iff_add_one_le, Nat.le_div_iff_mul_le hpos, Nat.mul_comm, Nat.mul_add]
      omega
    rw [List.mem_range']
    constructor
    · rintro ⟨k, hk, rfl⟩
      refine ⟨hpos, Nat.le_add_right _ _, (hcount k).mp hk, ?_⟩
      rw [Nat.add_sub_cancel_left]
      exact Nat.dvd_mul_right step k
    · rintro ⟨-, hle, hlt, k, hk⟩
      have hi : i = start + step * k := by omega
      exact ⟨k, (hcount k).mpr (hi ▸ hlt), hi⟩

theorem pairwise_stepped (start length step : Nat) :
    (stepped start length step).Pairwise (· < ·) := by
  rw [stepped]
  split
  · exact List.Pairwise.nil
  · rename_i h
    exact List.pairwise_lt_range' step (Nat.pos_of_ne_zero h)

theorem pairwise_range_append {head : Nat} {l : List Nat} (hl : l.Pairwise (· < ·))
    (hhead : ∀ i ∈ l, head ≤ i) : (List.range head ++ l).Pairwise (· < ·) := by
  refine List.pairwise_append.mpr ⟨List.pairwise_lt_range, hl, ?_⟩
  intro i hi j hj
  exact Nat.lt_of_lt_of_le (List.mem_range.mp hi) (hhead j hj)

/-! ## Picks -/

variable {σ τ : Type}

theorem pairwise_pick (sampler : Sampler σ) (length amount : Nat) (s : σ) :
    (pick sampler length amount s).1.Pairwise (· < ·) :=
  (pairwise_tidy length _).sublist (List.take_sublist _ _)

theorem mem_of_mem_pick {sampler : Sampler σ} {length amount i : Nat} {s : σ}
    (h : i ∈ (pick sampler length amount s).1) :
    i ∈ (sampler.draw length amount s).1 ∧ i < length :=
  mem_tidy.mp (List.mem_of_mem_take h)

theorem length_pick_le (sampler : Sampler σ) (length amount : Nat) (s : σ) :
    (pick sampler length amount s).1.length ≤ min amount length :=
  List.length_take_le _ _

theorem pick_congr {sampler : Sampler σ} {other : Sampler τ} {length amount : Nat} {s : σ} {u : τ}
    (h : ∀ i < length,
      i ∈ (sampler.draw length amount s).1 ↔ i ∈ (other.draw length amount u).1) :
    (pick sampler length amount s).1 = (pick other length amount u).1 := by
  show (tidy length _).take _ = (tidy length _).take _
  rw [tidy_congr h]

/-- The random part behind a front lies behind it and comes from the sampler's answer. -/
theorem mem_shifted_pick {sampler : Sampler σ} {length amount head i : Nat} {s : σ}
    (h : i ∈ (pick sampler (length - head) amount s).1.map (head + ·)) :
    head ≤ i ∧ i < length ∧ i - head ∈ (sampler.draw (length - head) amount s).1 := by
  obtain ⟨offset, ho, rfl⟩ := List.mem_map.mp h
  obtain ⟨hmem, hlt⟩ := mem_of_mem_pick ho
  refine ⟨Nat.le_add_right _ _, by omega, ?_⟩
  rwa [Nat.add_sub_cancel_left]

/-! ## Budgets and requests -/

/-- The greatest number of places that a mode with a budget selects. -/
def Mode.budget? (mode : Mode) (length first second : Nat) : Option Nat :=
  match mode with
  | .first => some first
  | .last => some first
  | .random => some first
  | .firstThenLast => some (first + second)
  | .firstThenRandom => some (min first length + min second (length - min first length))
  | .none => Option.none
  | .all => Option.none
  | .step => Option.none
  | .firstThenStep => Option.none

/-- The one request that a mode makes of the sampler: the length and the amount to draw. -/
def Mode.request? (mode : Mode) (length first second : Nat) : Option (Nat × Nat) :=
  match mode with
  | .random => some (length, first)
  | .firstThenRandom => some (length - min first length, second)
  | _ => Option.none

section

variable (sampler : Sampler σ) (length : Nat) (mode : Mode) (first second : Nat) (s : σ)

/-- What a mode selects ascends, so that no place comes twice. -/
theorem pairwise_selectPlaces :
    (selectPlaces sampler length mode first second s).1.Pairwise (· < ·) := by
  cases mode with
  | none => exact List.Pairwise.nil
  | all => exact List.pairwise_lt_range
  | first => exact List.pairwise_lt_range
  | last => exact List.pairwise_lt_range'
  | step => exact pairwise_stepped 0 length first
  | random => exact pairwise_pick sampler length first s
  | firstThenLast =>
    refine pairwise_range_append List.pairwise_lt_range' ?_
    intro i hi
    exact Nat.le_trans (Nat.le_max_right _ _) (List.mem_range'_1.mp hi).1
  | firstThenStep =>
    refine pairwise_range_append (pairwise_stepped _ length second) ?_
    intro i hi
    exact (mem_stepped.mp hi).2.1
  | firstThenRandom =>
    refine pairwise_range_append ?_ fun i hi => (mem_shifted_pick hi).1
    exact (pairwise_pick sampler _ second s).map _ fun _ _ h => Nat.add_lt_add_left h _

theorem lt_of_mem_selectPlaces {i : Nat}
    (hi : i ∈ (selectPlaces sampler length mode first second s).1) : i < length := by
  -- the front that four modes begin with
  have hfront (h : i ∈ List.range (min first length)) : i < length :=
    Nat.lt_of_lt_of_le (List.mem_range.mp h) (Nat.min_le_right first length)
  cases mode with
  | none => cases hi
  | all => exact List.mem_range.mp hi
  | first => exact hfront hi
  | last =>
    have h := List.mem_range'_1.mp hi
    omega
  | step => exact (mem_stepped.mp hi).2.2.1
  | random => exact (mem_of_mem_pick hi).2
  | firstThenLast =>
    rcases List.mem_append.mp hi with hi | hi
    · exact hfront hi
    · have h := List.mem_range'_1.mp hi
      omega
  | firstThenStep =>
    rcases List.mem_append.mp hi with hi | hi
    · exact hfront hi
    · exact (mem_stepped.mp hi).2.2.1
  | firstThenRandom =>
    rcases List.mem_append.mp hi with hi | hi
    · exact hfront hi
    · exact (mem_shifted_pick hi).2.1

theorem length_selectPlaces_le {n : Nat} (hn : mode.budget? length first second = some n) :
    (selectPlaces sampler length mode first second s).1.length ≤ n := by
  have hpick := length_pick_le sampler
  cases mode with
  | none => cases hn
  | all => cases hn
  | step => cases hn
  | firstThenStep => cases hn
  | first =>
    cases hn
    show (List.range (min first length)).length ≤ first
    rw [List.length_range]
    exact Nat.min_le_left first length
  | last =>
    cases hn
    show (List.range' (length - min first length) (min first length)).length ≤ first
    rw [List.length_range']
    exact Nat.min_le_left first length
  | random =>
    cases hn
    exact Nat.le_trans (hpick length first s) (Nat.min_le_left first length)
  | firstThenLast =>
    cases hn
    simp only [selectPlaces, List.length_append, List.length_range, List.length_range']
    omega
  | firstThenRandom =>
    cases hn
    simp only [selectPlaces, List.length_append, List.length_range, List.length_map]
    exact Nat.add_le_add_left (hpick _ second s) _

variable {sampler length mode first second s}

/-- Two samplers whose answers to the request of a mode hold the same places in range lead to the
same selection. -/
theorem selectPlaces_congr {other : Sampler τ} {u : τ}
    (h : ∀ n amount, mode.request? length first second = some (n, amount) →
      ∀ i < n, i ∈ (sampler.draw n amount s).1 ↔ i ∈ (other.draw n amount u).1) :
    (selectPlaces other length mode first second u).1 =
      (selectPlaces sampler length mode first second s).1 := by
  cases mode with
  | random => exact (pick_congr (h length first rfl)).symm
  | firstThenRandom =>
    show List.range _ ++ (pick other _ second u).1.map _ = _
    rw [← pick_congr (h _ second rfl)]
    rfl
  | _ => rfl

end

/-! ## Subtractions -/

/-- A difference that is refused below zero. -/
def difference? (a b : Nat) : Option Nat := if b ≤ a then some (a - b) else none

theorem difference?_of_le {a b : Nat} (h : b ≤ a) : difference? a b = some (a - b) := if_pos h

/-- `stepped` with differences that are refused below zero. -/
def stepped? (start length step : Nat) : Option (List Nat) :=
  if step = 0 then some []
  else do
    let gap ← difference? length start
    let room ← difference? (gap + step) 1
    return List.range' start (room / step) step

/-- `selectPlaces` with differences that are refused below zero.  Only the beginning of the tail in
`firstThenLast` is cut at zero on purpose. -/
def selectPlaces? (sampler : Sampler σ) (length : Nat) (mode : Mode) (first second : Nat) (s : σ) :
    Option (List Nat × σ) :=
  let head := min first length
  match mode with
  | .none => some ([], s)
  | .all => some (List.range length, s)
  | .first => some (List.range head, s)
  | .last => do
    let start ← difference? length head
    return (List.range' start head, s)
  | .step => do
    let places ← stepped? 0 length first
    return (places, s)
  | .random => some (pick sampler length first s)
  | .firstThenLast => do
    let tail := max (length - second) head
    let count ← difference? length tail
    return (List.range head ++ List.range' tail count, s)
  | .firstThenStep => do
    let places ← stepped? head length second
    return (List.range head ++ places, s)
  | .firstThenRandom => do
    let rest ← difference? length head
    let (offsets, s) := pick sampler rest second s
    return (List.range head ++ offsets.map (head + ·), s)

theorem stepped?_of_le {start length step : Nat} (h : start ≤ length) :
    stepped? start length step = some (stepped start length step) := by
  rw [stepped?, stepped]
  split
  · rfl
  · rename_i hstep
    rw [difference?_of_le h]
    show (difference? (length - start + step) 1).bind _ = _
    rw [difference?_of_le (by omega)]
    rfl

/-- No difference of a selection is below zero. -/
theorem selectPlaces?_eq (sampler : Sampler σ) (length : Nat) (mode : Mode) (first second : Nat)
    (s : σ) :
    selectPlaces? sampler length mode first second s =
      some (selectPlaces sampler length mode first second s) := by
  have hhead : min first length ≤ length := Nat.min_le_right first length
  cases mode with
  | last =>
    show (difference? length _).bind _ = _
    rw [difference?_of_le hhead]
    rfl
  | step =>
    show (stepped? 0 length first).bind _ = _
    rw [stepped?_of_le (Nat.zero_le length)]
    rfl
  | firstThenLast =>
    show (difference? length (max (length - second) (min first length))).bind _ = _
    rw [difference?_of_le (Nat.max_le.mpr ⟨Nat.sub_le length second, hhead⟩)]
    rfl
  | firstThenStep =>
    show (stepped? (min first length) length second).bind _ = _
    rw [stepped?_of_le hhead]
    rfl
  | firstThenRandom =>
    show (difference? length (min first length)).bind _ = _
    rw [difference?_of_le hhead]
    rfl
  | _ => rfl

/-! ## The selection as a whole -/

/-- **A selection is safe against any sampler.**  For every length, mode, pair of parameters as
written and sampler: the places ascend strictly and lie inside the array, there are no more of them
than the mode's budget, no difference goes below zero, the random part of `firstThenRandom` stands
behind a complete front, and samplers that answer the request with the same places in range lead to
the same selection. -/
theorem selectIndices_safe (sampler : Sampler σ) (length : Nat) (mode : Mode)
    (first second : Option String) (s : σ) :
    let a := parameter first
    let b := parameter second
    let places := (selectIndices sampler length mode first second s).1
    places.Pairwise (· < ·) ∧
    (∀ i ∈ places, i < length) ∧
    (∀ n, mode.budget? length a b = some n → places.length ≤ n) ∧
    selectPlaces? sampler length mode a b s =
      some (selectIndices sampler length mode first second s) ∧
    (mode = .firstThenRandom →
      (∀ i < min a length, i ∈ places) ∧
      ∃ picks, places = List.range (min a length) ++ picks ∧
        ∀ i ∈ picks, min a length ≤ i ∧
          i - min a length ∈ (sampler.draw (length - min a length) b s).1) ∧
    ∀ {τ : Type} (other : Sampler τ) (u : τ),
      (∀ n amount, mode.request? length a b = some (n, amount) →
        ∀ i < n, i ∈ (sampler.draw n amount s).1 ↔ i ∈ (other.draw n amount u).1) →
      (selectIndices other length mode first second u).1 = places := by
  intro a b places
  refine ⟨pairwise_selectPlaces sampler length mode a b s, ?_, ?_, ?_, ?_, ?_⟩
  · intro i hi
    exact lt_of_mem_selectPlaces sampler length mode a b s hi
  · intro n hn
    exact length_selectPlaces_le sampler length mode a b s hn
  · exact selectPlaces?_eq sampler length mode a b s
  · rintro rfl
    have hplaces : places = List.range (min a length) ++
        (pick sampler (length - min a length) b s).1.map (min a length + ·) := rfl
    refine ⟨?_, _, hplaces, ?_⟩
    · intro i hi
      rw [hplaces]
      exact List.mem_append_left _ (List.mem_range.mpr hi)
    · intro i hi
      obtain ⟨hle, -, hdrawn⟩ := mem_shifted_pick hi
      exact ⟨hle, hdrawn⟩
  · intro τ other u h
    exact selectPlaces_congr h

/-- An answer out of range, repeated and unsorted selects what its places in range select. -/
theorem selectIndices_safe_misbehaving :
    (selectIndices Sampler.scripted 6 .firstThenRandom (some "2") (some "3") [[1, 3]]).1 =
      (selectIndices Sampler.scripted 6 .firstThenRandom (some "2") (some "3") [[9, 3, 1, 1]]).1 ∧
    (selectIndices Sampler.scripted 6 .firstThenRandom (some "2") (some "3") [[9, 3, 1, 1]]).1 =
      [0, 1, 3, 5] := by
  constructor
  · obtain ⟨-, -, -, -, -, hcongr⟩ := selectIndices_safe Sampler.scripted 6 .firstThenRandom
      (some "2") (some "3") [[9, 3, 1, 1]]
    refine hcongr Sampler.scripted [[1, 3]] ?_
    intro n amount h
    cases h
    decide
  · decide +kernel

end ShapeCheck
