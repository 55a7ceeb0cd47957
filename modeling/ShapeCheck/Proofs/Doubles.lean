import Mathlib
import ShapeCheck.Decimal.Binary

/-!
# The order and the value of doubles

Comparisons of doubles are read off their decoded form, and a finite double stands for a rational
number.

* `lt_iff_compare`, `le_iff_compare`, `beq_iff_compare` — comparisons by decoded forms;
* `compare_swap`, `compare_eq_none_iff` — two doubles compare in one way or the other unless one of
  them is NaN;
* `not_lt_iff`, `not_le_iff`, `unordered_of_isNaN` — so away from NaN the order is total, and at NaN
  every comparison fails;
* `not_lt_limit_iff`, `not_limit_lt_iff`, `not_limit_le_iff` — a test against a limit that only asks
  whether a comparison fails lets NaN pass; `limit_lt_iff`, `lt_limit_iff` — one that asks about NaN
  as well does not;
* `valueOf?`, `beq_zero_iff` — the number for which a double stands, and which doubles are zero;
* `parts_ofFloat?` — the parts that `Binary.ofFloat?` reads off the bits are those of the decoded
  form;
* `isWholeFloat_iff` — so `isWholeFloat` finds the doubles that stand for integers.
-/

set_option autoImplicit false

namespace ShapeCheck.Decimal

open Float.Model (UnpackedFloat Format)
open Float.Model.UnpackedFloat (Sign)

/-! ## The order -/

section

variable {x y : Float}

theorem lt_iff_compare : x < y ↔ x.toModel.unpack.compare y.toModel.unpack = some .lt := by
  show decide (x.toModel < y.toModel) = true ↔ _
  rw [decide_eq_true_iff]
  exact beq_iff_eq

theorem le_iff_compare :
    x ≤ y ↔ ∃ o, x.toModel.unpack.compare y.toModel.unpack = some o ∧ o.isLE = true := by
  show decide (x.toModel ≤ y.toModel) = true ↔ _
  rw [decide_eq_true_iff]
  exact Option.any_eq_true _ _

theorem beq_iff_compare :
    (x == y) = true ↔ x.toModel.unpack.compare y.toModel.unpack = some .eq := by
  show (x.toModel.unpack.compare y.toModel.unpack == some .eq) = true ↔ _
  exact beq_iff_eq

theorem compare_swap (a b : UnpackedFloat) : b.compare a = (a.compare b).map Ordering.swap := by
  -- magnitudes are compared by their exponents and then by their mantissas
  have hmagnitude (e f : Int) (m n : Nat) :
      ((compare e f).then (compare m n)).swap = (compare f e).then (compare n m) := by
    rw [Ordering.swap_then, Int.compare_swap, Nat.compare_swap]
  cases a with
  | notANumber => cases b <;> rfl
  | infinity s =>
    cases b with
    | notANumber => cases s <;> rfl
    | infinity t => cases s <;> cases t <;> rfl
    | zero t => cases s <;> rfl
    | finite t m e hm => cases s <;> cases t <;> rfl
  | zero s =>
    cases b with
    | notANumber => rfl
    | infinity t => cases t <;> rfl
    | zero t => rfl
    | finite t m e hm => cases t <;> rfl
  | finite s m e hm =>
    cases b with
    | notANumber => cases s <;> rfl
    | infinity t => cases s <;> cases t <;> rfl
    | zero t => cases s <;> rfl
    | finite t n f hn =>
      cases s <;> cases t
      · simp only [UnpackedFloat.compare, Option.map_some, hmagnitude]
      · rfl
      · rfl
      · simp only [UnpackedFloat.compare, Option.map_some, hmagnitude]

theorem compare_eq_none_iff (a b : UnpackedFloat) :
    a.compare b = none ↔ a.isNaN = true ∨ b.isNaN = true := by
  rw [UnpackedFloat.isNaN_iff, UnpackedFloat.isNaN_iff]
  fun_cases UnpackedFloat.compare a b <;> simp_all

/-- **The order is total away from NaN.** -/
theorem not_lt_iff (hx : x.isNaN = false) (hy : y.isNaN = false) : ¬ x < y ↔ y ≤ x := by
  have hcompare : x.toModel.unpack.compare y.toModel.unpack ≠ none := by
    rw [ne_eq, compare_eq_none_iff]
    rintro (hnan | hnan)
    · exact absurd (hx.symm.trans hnan) Bool.false_ne_true
    · exact absurd (hy.symm.trans hnan) Bool.false_ne_true
  obtain ⟨o, ho⟩ := Option.ne_none_iff_exists'.mp hcompare
  rw [lt_iff_compare, le_iff_compare, compare_swap x.toModel.unpack, ho]
  cases o <;> simp

theorem not_le_iff (hx : x.isNaN = false) (hy : y.isNaN = false) : ¬ x ≤ y ↔ y < x := by
  rw [← not_lt_iff hy hx, not_not]

theorem unordered_of_isNaN (hx : x.isNaN = true) (y : Float) :
    ¬ x < y ∧ ¬ y < x ∧ ¬ x ≤ y ∧ ¬ y ≤ x := by
  have hleft : x.toModel.unpack.compare y.toModel.unpack = none :=
    (compare_eq_none_iff _ _).mpr (Or.inl hx)
  have hright : y.toModel.unpack.compare x.toModel.unpack = none :=
    (compare_eq_none_iff _ _).mpr (Or.inr hx)
  simp [lt_iff_compare, le_iff_compare, hleft, hright]

theorem not_lt_of_lt (h : x < y) : ¬ y < x := by
  rw [lt_iff_compare] at h
  rw [lt_iff_compare, compare_swap x.toModel.unpack, h]
  nofun

/-- Tests against a limit that ask for the other order let NaN pass. -/
theorem not_lt_limit_iff (hy : y.isNaN = false) : ¬ x < y ↔ (x.isNaN = false → y ≤ x) := by
  cases hx : x.isNaN with
  | false => rw [not_lt_iff hx hy, forall_prop_of_true rfl]
  | true => exact iff_of_true (unordered_of_isNaN hx y).1 nofun

theorem not_limit_lt_iff (hy : y.isNaN = false) : ¬ y < x ↔ (x.isNaN = false → x ≤ y) := by
  cases hx : x.isNaN with
  | false => rw [not_lt_iff hy hx, forall_prop_of_true rfl]
  | true => exact iff_of_true (unordered_of_isNaN hx y).2.1 nofun

theorem not_limit_le_iff (hy : y.isNaN = false) : ¬ y ≤ x ↔ (x.isNaN = false → x < y) := by
  cases hx : x.isNaN with
  | false => rw [not_le_iff hy hx, forall_prop_of_true rfl]
  | true => exact iff_of_true (unordered_of_isNaN hx y).2.2.2 nofun

/-- Tests that ask whether there is an order as well let NaN fail. -/
theorem limit_lt_iff (hy : y.isNaN = false) : y < x ↔ ¬ (x ≤ y ∨ x.isNaN = true) := by
  cases hx : x.isNaN with
  | false => rw [← not_le_iff hx hy, or_iff_left Bool.false_ne_true]
  | true => exact iff_of_false (unordered_of_isNaN hx y).2.1 (not_not.mpr (Or.inr rfl))

theorem lt_limit_iff (hy : y.isNaN = false) : x < y ↔ ¬ (y ≤ x ∨ x.isNaN = true) := by
  cases hx : x.isNaN with
  | false => rw [← not_le_iff hy hx, or_iff_left Bool.false_ne_true]
  | true => exact iff_of_false (unordered_of_isNaN hx y).1 (not_not.mpr (Or.inr rfl))

end

/-! ## The value -/

/-- The rational number for which a finite double stands; infinities and NaN stand for none. -/
def valueOf? (x : Float) : Option ℚ :=
  match x.toModel.unpack with
  | .zero _ => some 0
  | .finite sign mantissa exponent _ => some (sign.apply mantissa * 2 ^ exponent)
  | .infinity _ => none
  | .notANumber => none

theorem isSome_valueOf? (x : Float) : (valueOf? x).isSome = x.isFinite := by
  show _ = x.toModel.unpack.isFinite
  rw [valueOf?]
  cases x.toModel.unpack <;> rfl

theorem isFinite_of_valueOf?_eq {x : Float} {q : ℚ} (h : valueOf? x = some q) :
    x.isFinite = true := by
  rw [← isSome_valueOf?, h]
  rfl

theorem isFinite_eq_false_iff (x : Float) :
    x.isFinite = false ↔ x.isNaN = true ∨ x.isInf = true := by
  show x.toModel.unpack.isFinite = false ↔
    x.toModel.unpack.isNaN = true ∨ x.toModel.unpack.isInf = true
  cases x.toModel.unpack <;>
    simp [UnpackedFloat.isFinite, UnpackedFloat.isNaN, UnpackedFloat.isInf]

theorem beq_zero_iff (x : Float) : (x == 0.0) = true ↔ valueOf? x = some 0 := by
  have hzero : (0.0 : Float).toModel.unpack = .zero .positive := rfl
  rw [beq_iff_compare, hzero, valueOf?]
  cases x.toModel.unpack with
  | notANumber => exact iff_of_false nofun nofun
  | infinity s => cases s <;> exact iff_of_false nofun nofun
  | zero s => exact iff_of_true rfl rfl
  | finite s m e hm =>
    have hm' : (m : ℚ) ≠ 0 := Nat.cast_ne_zero.mpr (Nat.ne_of_gt hm)
    cases s <;> simp [UnpackedFloat.compare, Sign.apply, hm', zpow_ne_zero]

/-! ## The parts of a double -/

theorem toNat_unpackExponent (b : BitVec Format.binary64.numBits) :
    (UnpackedFloat.unpackExponent b).toNat = b.toNat / Nat.pow 2 52 % 2048 := by
  rw [UnpackedFloat.unpackExponent_def, BitVec.extractLsb'_toNat, Nat.shiftRight_eq_div_pow]
  rfl

theorem toNat_unpackMantissa (b : BitVec Format.binary64.numBits) :
    (UnpackedFloat.unpackMantissa b).toNat = b.toNat % Nat.pow 2 52 := by
  rw [UnpackedFloat.unpackMantissa_def, BitVec.extractLsb'_toNat, Nat.shiftRight_zero]
  rfl

/-- The mantissa and the exponent of a decoded double, if it is finite. -/
def decodedParts? : UnpackedFloat → Option (Nat × Int)
  | .zero _ => some (0, -1074)
  | .finite _ mantissa exponent _ => some (mantissa, exponent)
  | .infinity _ => none
  | .notANumber => none

/-- The parts of a decoded double by its exponent field, which is all ones for infinities and NaN
and zero for the doubles without a leading one. -/
theorem decodedParts?_unpack (b : BitVec Format.binary64.numBits) (e m : Nat)
    (he : (UnpackedFloat.unpackExponent b).toNat = e)
    (hm : (UnpackedFloat.unpackMantissa b).toNat = m) :
    decodedParts? (UnpackedFloat.unpack .binary64 b) =
      if e = 2047 then none
      else if e = 0 then some (m, -1074)
      else some (Nat.pow 2 52 + m, (e : Int) - 1075) := by
  have hall : UnpackedFloat.unpackExponent b = -1#11 ↔ e = 2047 := by
    rw [← BitVec.toNat_inj, he]
    rfl
  have hnone : UnpackedFloat.unpackExponent b = 0#11 ↔ e = 0 := by
    rw [← BitVec.toNat_inj, he]
    rfl
  have hlead : (1#1 ++ UnpackedFloat.unpackMantissa b).toNat = Nat.pow 2 52 + m := by
    rw [BitVec.toNat_append, Nat.shiftLeft_eq, ← hm]
    exact (Nat.two_pow_add_eq_or_of_lt (UnpackedFloat.unpackMantissa b).isLt 1).symm
  -- the cases: infinities and NaN, zero, the doubles without a leading one, and all others
  fun_cases UnpackedFloat.unpack .binary64 b with
  | case1 _ _ _ _ hones =>
    rw [if_pos (hall.mp hones)]
    rfl
  | case2 _ _ hones =>
    rw [if_pos (hall.mp hones)]
    rfl
  | case3 mantissa _ _ _ hones hzeros hmantissa =>
    have hm' : m = 0 := by
      rw [← hm, show UnpackedFloat.unpackMantissa b = _ from hmantissa]
      rfl
    rw [if_neg (mt hall.mpr hones), if_pos (hnone.mp hzeros), hm']
    rfl
  | case4 _ _ exponent _ _ hones hzeros =>
    have hexponent : exponent = (e : Int) - 1075 := by rw [← he]; rfl
    rw [if_neg (mt hall.mpr hones), if_pos (hnone.mp hzeros), decodedParts?, hm, hexponent,
      hnone.mp hzeros]
    rfl
  | case5 _ _ exponent _ _ hones hzeros =>
    have hexponent : exponent = (e : Int) - 1075 := by rw [← he]; rfl
    rw [if_neg (mt hall.mpr hones), if_neg (mt hnone.mpr hzeros), decodedParts?, hlead, hexponent]

theorem parts_ofFloat? (x : Float) :
    (Binary.ofFloat? x).map (fun b => (b.mantissa, b.exponent)) =
      decodedParts? x.toModel.unpack := by
  have hbits : x.toBits.toNat = x.toModel.toBits.toBitVec.toNat := rfl
  rw [Float.Model.unpack, decodedParts?_unpack _ _ _ (toNat_unpackExponent _)
    (toNat_unpackMantissa _), Binary.ofFloat?, ← hbits]
  split
  · rfl
  · split <;> rfl

/-! ## Whole doubles -/

theorem Binary.isWhole_iff (b : Binary) :
    b.isWhole = true ↔ ∃ n : ℤ, (b.mantissa : ℚ) * 2 ^ b.exponent = n := by
  rw [Binary.isWhole, Bool.or_eq_true, decide_eq_true_iff, beq_iff_eq]
  rcases le_or_gt 0 b.exponent with hexponent | hexponent
  · obtain ⟨k, hk⟩ := Int.eq_ofNat_of_zero_le hexponent
    refine iff_of_true (Or.inl hexponent) ⟨b.mantissa * 2 ^ k, ?_⟩
    rw [hk, zpow_natCast]
    push_cast
    rfl
  · obtain ⟨k, hk⟩ := Int.eq_ofNat_of_zero_le (Int.neg_nonneg.mpr hexponent.le)
    have hk' : b.exponent = -(k : ℤ) := by omega
    have hpow : (2 : ℚ) ^ k ≠ 0 := pow_ne_zero k two_ne_zero
    rw [or_iff_right (not_le.mpr hexponent), hk, Int.toNat_natCast, ← Nat.dvd_iff_mod_eq_zero,
      hk', zpow_neg, zpow_natCast, ← Int.natCast_dvd_natCast]
    refine exists_congr fun n => ?_
    rw [← div_eq_mul_inv, div_eq_iff hpow, mul_comm]
    exact_mod_cast Iff.rfl

/-- **The whole doubles are those that stand for integers.** -/
theorem isWholeFloat_iff (x : Float) :
    isWholeFloat x = true ↔ ∃ n : ℤ, valueOf? x = some (n : ℚ) := by
  have hparts := parts_ofFloat? x
  rw [isWholeFloat, valueOf?]
  generalize x.toModel.unpack = u at hparts ⊢
  cases u with
  | notANumber =>
    rw [Option.map_eq_none_iff.mp hparts]
    exact iff_of_false nofun nofun
  | infinity s =>
    rw [Option.map_eq_none_iff.mp hparts]
    exact iff_of_false nofun nofun
  | zero s =>
    obtain ⟨b, hb, hpair⟩ := Option.map_eq_some_iff.mp hparts
    obtain ⟨hmantissa, -⟩ := Prod.mk.inj hpair
    simp only [hb, Binary.isWhole_iff, hmantissa]
    exact iff_of_true ⟨0, by simp⟩ ⟨0, by simp⟩
  | finite s m e hm =>
    obtain ⟨b, hb, hpair⟩ := Option.map_eq_some_iff.mp hparts
    obtain ⟨hmantissa, hexponent⟩ := Prod.mk.inj hpair
    simp only [hb, Binary.isWhole_iff, hmantissa, hexponent, Option.some_inj]
    cases s with
    | positive => exact exists_congr fun n => by simp [Sign.apply]
    | negative =>
      refine ⟨fun ⟨n, hn⟩ => ⟨-n, by simp [Sign.apply, hn]⟩, fun ⟨n, hn⟩ => ⟨-n, ?_⟩⟩
      simp [Sign.apply, ← hn]

end ShapeCheck.Decimal
