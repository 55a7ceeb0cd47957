import Mathlib.Data.List.Nodup
import ShapeCheck.Proofs.Selection
import ShapeCheck.Sampling.Seeded

/-!
# Seeded selections fill their budget

`Sampling.seeded` answers a request with exactly as many places as are asked for and exist.

* `range_bounds` — a number drawn from a range lies in it, whatever words the generator gives;
* `isSample_drawFloyd` — a step of Floyd's method keeps the drawn places different and below the
  next top;
* `isSample_drawInPlace` — a step of the shuffle permutes the list of all places;
* `Sampler.Fills`, `seeded_fills` — so the sampler fills every request;
* `isSample_pick` — tidying loses nothing of such an answer;
* `seeded_selection_fills_budget` — so the random modes select exactly their budget.
-/

set_option autoImplicit false

namespace ShapeCheck

open Sampling

/-- So many places below a length, no two of them the same. -/
structure IsSample (length amount : Nat) (places : List Nat) : Prop where
  nodup : places.Nodup
  length_eq : places.length = amount
  lt : ∀ i ∈ places, i < length

/-- A sampler that answers every request with as many places as are asked for and exist. -/
def Sampler.Fills {σ : Type} (sampler : Sampler σ) : Prop :=
  ∀ length amount s, IsSample length (min amount length) (sampler.draw length amount s).1

namespace Sampling

/-! ## Numbers from a range -/

/-- The high half of the product of a word and a size lies below the size, also with the carry that
a second word settles. -/
theorem scaled_lt {product carried size : Nat} (hsize : 0 < size)
    (hproduct : product ≤ 4294967295 * size) (hcarried : carried ≤ 4294967295 * size) :
    product / Nat.pow 2 32 < size ∧
      (Nat.pow 2 32 ≤ product % Nat.pow 2 32 + carried / Nat.pow 2 32 →
        product / Nat.pow 2 32 + 1 < size) := by
  have hpow : Nat.pow 2 32 = 4294967296 := by decide
  rw [hpow]
  omega

theorem range_bounds (g : Generator) {low high : Nat} (h : low ≤ high) :
    low ≤ (g.range low high).1 ∧ (g.range low high).1 ≤ high := by
  have hword (w : UInt32) : w.toNat * (high - low + 1) ≤ 4294967295 * (high - low + 1) :=
    Nat.mul_le_mul_right _ (Nat.le_pred_of_lt w.toNat_lt)
  obtain ⟨hresult, hcarry⟩ := scaled_lt (Nat.succ_pos (high - low)) (hword g.next.1)
    (hword g.next.2.next.1)
  -- in every branch the number is `low` and an offset below the size of the range
  suffices hoffset : ∃ offset, (g.range low high).1 = low + offset ∧ offset < high - low + 1 by
    obtain ⟨offset, hnumber, hlt⟩ := hoffset
    omega
  unfold Generator.range
  dsimp only
  split
  · split
    · rename_i hover
      exact ⟨_, rfl, hcarry hover⟩
    · exact ⟨_, rfl, hresult⟩
  · exact ⟨_, rfl, hresult⟩

/-! ## Floyd's method -/

variable {length amount : Nat}

/-- One more place up to the top: the drawn places stay different, since the place that comes
instead of a repeated one is the top itself. -/
theorem isSample_addPick {top pick : Nat} {drawn : List Nat} (h : IsSample top amount drawn)
    (hpick : pick ≤ top) : IsSample (top + 1) (amount + 1) (addPick drawn pick top) := by
  have hmoved {x : Nat} (hx : x ∈ drawn) : (if x = pick then top else x) ≠ pick := by
    have := h.lt x hx
    split <;> omega
  refine ⟨?_, ?_, ?_⟩
  · refine List.nodup_append.mpr ⟨?_, List.nodup_singleton pick, ?_⟩
    · refine List.Nodup.map_on ?_ h.nodup
      intro x hx y hy hxy
      have := h.lt x hx
      have := h.lt y hy
      split at hxy <;> split at hxy <;> omega
    · intro x hx y hy
      obtain ⟨z, hz, rfl⟩ := List.mem_map.mp hx
      rw [List.mem_singleton.mp hy]
      exact hmoved hz
  · rw [addPick, List.length_append, List.length_map, h.length_eq, List.length_singleton]
  · intro x hx
    rcases List.mem_append.mp hx with hx | hx
    · obtain ⟨z, hz, rfl⟩ := List.mem_map.mp hx
      have := h.lt z hz
      split <;> omega
    · rw [List.mem_singleton.mp hx]
      omega

/-- The induction is on the tops that are left; what is drawn so far is a sample below the top. -/
theorem isSample_floydFrom (steps : Nat) : ∀ {top amount : Nat} {drawn : List Nat},
    IsSample top amount drawn → ∀ g : Generator,
      IsSample (top + steps) (amount + steps) (floydFrom top steps drawn g).1 := by
  induction steps with
  | zero => exact fun h _ => h
  | succ steps ih =>
    intro top amount drawn h g
    have hpick := (range_bounds g (Nat.zero_le top)).2
    have hrest := ih (isSample_addPick h hpick) (g.range 0 top).2
    rwa [Nat.add_right_comm top, Nat.add_right_comm amount] at hrest

theorem isSample_drawFloyd (h : amount ≤ length) (g : Generator) :
    IsSample length amount (drawFloyd length amount g).1 := by
  have hnone : IsSample (length - amount) 0 [] := ⟨List.nodup_nil, rfl, nofun⟩
  have hall := isSample_floydFrom amount hnone g
  rwa [Nat.sub_add_cancel h, Nat.zero_add] at hall

/-! ## Shuffling in place -/

theorem perm_swapItems (a : Array Nat) (i j : Nat) : (swapItems a i j).toList.Perm a.toList := by
  unfold swapItems
  split
  · rename_i x y hx hy
    obtain ⟨hi, rfl⟩ := Array.getElem?_eq_some_iff.mp hx
    obtain ⟨hj, rfl⟩ := Array.getElem?_eq_some_iff.mp hy
    have hswap : (a.setIfInBounds i a[j]).setIfInBounds j a[i] = a.swap i j := by
      simp [Array.swap_def, Array.setIfInBounds, hi, hj]
    rw [hswap]
    exact (Array.swap_perm hi hj).toList
  · exact List.Perm.refl _

/-- Whatever is drawn, a shuffle loses no place and adds none. -/
theorem perm_shuffleFront (length steps : Nat) : ∀ (i : Nat) (a : Array Nat) (g : Generator),
    (shuffleFront length i steps a g).1.toList.Perm a.toList := by
  induction steps with
  | zero => exact fun _ a _ => List.Perm.refl a.toList
  | succ steps ih =>
    intro i a g
    exact (ih (i + 1) _ _).trans (perm_swapItems a i (g.range i (length - 1)).1)

theorem isSample_drawInPlace (h : amount ≤ length) (g : Generator) :
    IsSample length amount (drawInPlace length amount g).1 := by
  have hperm : (shuffleFront length 0 amount (Array.range length) g).1.toList.Perm
      (List.range length) := by
    rw [← Array.toList_range]
    exact perm_shuffleFront length amount 0 _ g
  have hfront := List.take_sublist amount
    (shuffleFront length 0 amount (Array.range length) g).1.toList
  refine ⟨?_, ?_, ?_⟩
  · exact (hperm.nodup_iff.mpr List.nodup_range).sublist hfront
  · show (List.take amount _).length = amount
    rw [List.length_take, hperm.length_eq, List.length_range]
    exact Nat.min_eq_left h
  · intro i hi
    exact List.mem_range.mp (hperm.mem_iff.mp (hfront.subset hi))

/-! ## The sampler -/

theorem isSample_drawPlaces (h : amount ≤ length) (g : Generator) :
    IsSample length amount (drawPlaces length amount g).1 := by
  unfold drawPlaces
  split
  · exact isSample_drawInPlace h g
  · exact isSample_drawFloyd h g

/-- **The seeded sampler fills every request**: it never asks for more places than there are. -/
theorem seeded_fills : seeded.Fills :=
  fun length amount g => isSample_drawPlaces (Nat.min_le_right amount length) g

end Sampling

/-! ## Selections from samples -/

section

variable {σ : Type} {sampler : Sampler σ} {length amount : Nat}

theorem IsSample.tidy {places : List Nat} (h : IsSample length amount places) :
    IsSample length amount (tidy length places) := by
  have hperm : (ShapeCheck.tidy length places).Perm places := by
    refine (List.perm_ext_iff_of_nodup ?_ h.nodup).mpr ?_
    · exact (pairwise_tidy length places).imp Nat.ne_of_lt
    · intro i
      rw [mem_tidy]
      exact and_iff_left_of_imp (h.lt i)
  refine ⟨hperm.nodup_iff.mpr h.nodup, hperm.length_eq.trans h.length_eq, ?_⟩
  intro i hi
  exact h.lt i (hperm.mem_iff.mp hi)

theorem isSample_pick (h : sampler.Fills) (length amount : Nat) (s : σ) :
    IsSample length (min amount length) (pick sampler length amount s).1 := by
  have hdrawn := (h length amount s).tidy
  have hall : (pick sampler length amount s).1 = tidy length (sampler.draw length amount s).1 :=
    List.take_of_length_le (Nat.le_of_eq hdrawn.length_eq)
  rw [hall]
  exact hdrawn

theorem IsSample.behindFront {head : Nat} {offsets : List Nat}
    (h : IsSample (length - head) amount offsets) (hhead : head ≤ length) :
    IsSample length (head + amount) (List.range head ++ offsets.map (head + ·)) := by
  refine ⟨?_, ?_, ?_⟩
  · refine List.nodup_append.mpr ⟨List.nodup_range, ?_, ?_⟩
    · exact h.nodup.map fun _ _ => Nat.add_left_cancel
    · intro i hi j hj
      obtain ⟨offset, -, rfl⟩ := List.mem_map.mp hj
      have := List.mem_range.mp hi
      omega
  · rw [List.length_append, List.length_range, List.length_map, h.length_eq]
  · intro i hi
    rcases List.mem_append.mp hi with hi | hi
    · exact Nat.lt_of_lt_of_le (List.mem_range.mp hi) hhead
    · obtain ⟨offset, ho, rfl⟩ := List.mem_map.mp hi
      have := h.lt offset ho
      omega

theorem IsSample.eq_range {places : List Nat} (h : IsSample length amount places)
    (hall : length ≤ amount) (hascending : places.Pairwise (· < ·)) :
    places = List.range length := by
  have hsubset : places ⊆ List.range length := fun i hi => List.mem_range.mpr (h.lt i hi)
  have hperm : places.Perm (List.range length) := by
    refine (List.subperm_of_subset h.nodup hsubset).perm_of_length_le ?_
    rw [List.length_range, h.length_eq]
    exact hall
  refine hascending.eq_of_mem_iff List.pairwise_lt_range ?_
  intro i
  exact hperm.mem_iff

end

/-- **Seeded random selections fill their budget exactly.**  From every state of the generator both
methods of drawing give as many different places as asked for, as long as there are so many, and
the sampler cuts what is asked for to what there is.  So `random` selects exactly as many different
places of the array as its count says, or all of them, and `firstThenRandom` a complete front and
exactly as many of the rest; a budget of at least the length selects every place. -/
theorem seeded_selection_fills_budget (length : Nat) (first second : Option String)
    (g : Generator) :
    let a := parameter first
    let b := parameter second
    let head := min a length
    let random := (selectIndices seeded length .random first second g).1
    let mixed := (selectIndices seeded length .firstThenRandom first second g).1
    (∀ n k, k ≤ n → IsSample n k (drawInPlace n k g).1 ∧ IsSample n k (drawFloyd n k g).1) ∧
    (∀ n amount, IsSample n (min amount n) (seeded.draw n amount g).1) ∧
    IsSample length (min a length) random ∧
    IsSample length (head + min b (length - head)) mixed ∧
    (∀ i < head, i ∈ mixed) ∧
    (length ≤ a → random = List.range length) ∧
    (length ≤ a + b → mixed = List.range length) := by
  intro a b head random mixed
  have hhead : head ≤ length := Nat.min_le_right a length
  have hrandom : IsSample length (min a length) random := isSample_pick seeded_fills length a g
  have hmixed : IsSample length (head + min b (length - head)) mixed :=
    (isSample_pick seeded_fills (length - head) b g).behindFront hhead
  have hascending (mode : Mode) :
      (selectIndices seeded length mode first second g).1.Pairwise (· < ·) :=
    pairwise_selectPlaces seeded length mode a b g
  refine ⟨?_, ?_, hrandom, hmixed, ?_, ?_, ?_⟩
  · intro n k hk
    exact ⟨isSample_drawInPlace hk g, isSample_drawFloyd hk g⟩
  · intro n amount
    exact seeded_fills n amount g
  · intro i hi
    exact List.mem_append_left _ (List.mem_range.mpr hi)
  · intro hbudget
    exact hrandom.eq_range (Nat.le_min.mpr ⟨hbudget, Nat.le_refl length⟩) (hascending .random)
  · intro hbudget
    exact hmixed.eq_range (by omega) (hascending .firstThenRandom)

/-- After an earlier draw twelve of fifty places are drawn, and a budget of eight in two parts takes
all places of an array of eight. -/
theorem seeded_selection_fills_budget_later :
    let g := (seeded.draw 50 3 (.ofSeed 7)).2
    let selected := (selectIndices seeded 50 .random (some "12.5") none g).1
    (12 ≤ 50 ∧ IsSample 50 12 (drawInPlace 50 12 g).1 ∧ IsSample 50 12 (drawFloyd 50 12 g).1) ∧
    (IsSample 50 12 selected ∧ selected = [1, 3, 6, 8, 15, 17, 28, 32, 33, 38, 39, 47]) ∧
    8 ≤ parameter (some "5") + parameter (some "3") ∧
      (selectIndices seeded 8 .firstThenRandom (some "5") (some "3") g).1 = List.range 8 := by
  intro g selected
  have htwelve : 12 ≤ 50 := by decide
  have hcount : min (parameter (some "12.5")) 50 = 12 := by decide +kernel
  have height : 8 ≤ parameter (some "5") + parameter (some "3") := by decide +kernel
  obtain ⟨hdraws, -, hrandom, -⟩ := seeded_selection_fills_budget 50 (some "12.5") none g
  obtain ⟨-, -, -, -, -, -, hall⟩ := seeded_selection_fills_budget 8 (some "5") (some "3") g
  rw [hcount] at hrandom
  refine ⟨⟨htwelve, hdraws 50 12 htwelve⟩, ⟨hrandom, ?_⟩, height, hall height⟩
  decide +kernel

end ShapeCheck
