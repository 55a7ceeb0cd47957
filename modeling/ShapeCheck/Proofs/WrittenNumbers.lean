import ShapeCheck.Proofs.DirectiveForms

/-!
# Numbers as words

The decimal digits of a length and the displayed form of a double consist of characters of words
(`isWord_natDigits`, `isWord_display`), so they may stand anywhere in a block, and a length is read
back from its digits (`readLength?_natDigits`).
-/

set_option autoImplicit false

namespace ShapeCheck.Decimal

open ShapeCheck.Directive

theorem isWordChar_of_isDigit {c : Char} (h : c.isDigit = true) : isWordChar c = true := by
  simp only [Char.isDigit, Bool.and_eq_true, decide_eq_true_eq, UInt32.le_iff_toNat_le] at h
  have hcode : 48 ≤ c.toNat ∧ c.toNat ≤ 57 := h
  simp only [isWordChar, isWordCode, Bool.or_eq_true, Bool.and_eq_true, beq_iff_eq,
    decide_eq_true_eq]
  omega

theorem isDigit_of_mem_natDigits {n : Nat} {c : Char} (h : c ∈ natDigits n) : c.isDigit = true :=
  Nat.isDigit_of_mem_toDigits (by decide) (by decide) h

theorem isWord_natDigits (n : Nat) : IsWord (natDigits n) where
  chars _ hc := isWordChar_of_isDigit (isDigit_of_mem_natDigits hc)
  nonempty := Nat.toDigits_ne_nil

/-! ## Lengths -/

theorem ofDigits_natDigits (n : Nat) : ofDigits (natDigits n) = n := by
  have hsame : ofDigits (natDigits n) = Nat.ofDigitChars 10 (Nat.toDigits 10 n) 0 := by
    rw [Nat.ofDigitChars, ofDigits]
    refine List.foldl_ext _ _ 0 fun k c _ => ?_
    rw [Nat.mul_comm]
    rfl
  rw [hsame, Nat.ofDigitChars_ten_toDigits]

/-- **A length is read back from its digits.** -/
theorem readLength?_natDigits {n : Nat} (h : n < Nat.pow 2 64) :
    readLength? (natDigits n) = some n := by
  have hdigits : (natDigits n).all Char.isDigit = true :=
    List.all_eq_true.mpr fun _ hc => isDigit_of_mem_natDigits hc
  have hempty : (natDigits n).isEmpty = false := by
    rw [List.isEmpty_eq_false_iff]
    exact Nat.toDigits_ne_nil
  have hplus : ∀ rest, natDigits n = '+' :: rest → False := by
    intro rest hrest
    have hdigit : Char.isDigit '+' = true :=
      isDigit_of_mem_natDigits (n := n) (by rw [hrest]; exact List.mem_cons_self)
    cases hdigit
  rw [readLength?, hempty, hdigits]
  · dsimp only
    rw [ofDigits_natDigits]
    exact if_pos h
  · exact hplus

/-! ## Doubles -/

theorem isWord_positionalText (d : Digits) : IsWord (d.positionalText false) := by
  have hdigits : ∀ c ∈ natDigits d.digits, isWordChar c = true := (isWord_natDigits d.digits).chars
  have hzero : ∀ (n : Nat), ∀ c ∈ List.replicate n '0', isWordChar c = true := by
    intro n c hc
    rw [(List.mem_replicate.mp hc).2]
    decide
  have hpoint : isWordChar '.' = true := by decide
  rw [Digits.positionalText]
  dsimp only
  split
  · refine ⟨fun c hc => ?_, ?_⟩
    · simp only [Bool.false_eq_true, if_false, List.append_nil, List.mem_append] at hc
      rcases hc with hc | hc
      · exact hdigits c hc
      · exact hzero _ c hc
    · rw [List.append_assoc]
      exact List.append_ne_nil_of_left_ne_nil Nat.toDigits_ne_nil _
  · split
    · refine ⟨fun c hc => ?_, List.append_ne_nil_of_right_ne_nil _ (List.cons_ne_nil _ _)⟩
      rcases List.mem_append.mp hc with hc | hc
      · exact hdigits c (List.mem_of_mem_take hc)
      · rcases List.mem_cons.mp hc with rfl | hc
        · exact hpoint
        · exact hdigits c (List.mem_of_mem_drop hc)
    · refine ⟨fun c hc => ?_, List.cons_ne_nil _ _⟩
      simp only [List.cons_append, List.mem_cons, List.mem_append] at hc
      rcases hc with rfl | rfl | hc | hc
      · decide
      · exact hpoint
      · exact hzero _ c hc
      · exact hdigits c hc

/-- **The displayed form of a double is a word.** -/
theorem isWord_display (x : Float) : IsWord (display x).toList := by
  rw [display, write]
  split
  · rename_i b _
    have hword : IsWord ((shortest Layout.plain.tie b).text Layout.plain) :=
      isWord_positionalText _
    rw [String.toList_ofList]
    refine ⟨fun c hc => ?_, List.append_ne_nil_of_right_ne_nil _ hword.nonempty⟩
    rcases List.mem_append.mp hc with hc | hc
    · split at hc
      · rw [List.mem_singleton.mp hc]
        decide
      · cases hc
    · exact hword.chars c hc
  · split
    · exact .of_all (by decide)
    · split <;> exact .of_all (by decide)

end ShapeCheck.Decimal
