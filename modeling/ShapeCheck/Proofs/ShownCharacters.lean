import ShapeCheck.Text.Quoted
import ShapeCheck.Directive.Basic

/-!
# ASCII characters in quoted texts

Of the ASCII characters below 127 those from the space on show (`shown_ascii`).  So every one of
these stands as it is in a quoted text, unless it is a quote or a backslash (`quoteChar_ascii`), and
the character that stands for commas set aside is always written by its code
(`quoteChar_unitSeparator`).

The table of characters that show is too long to be evaluated here; only its first two gaps are
read.
-/

set_option autoImplicit false

namespace ShapeCheck.Unicode.CodeSet

/-! ## Binary search -/

/-- Binary search finds how many places are not above a code point. -/
theorem rank_eq {bounds : Array Nat} {x r lo hi : Nat}
    (hplaces : ∀ i, i < bounds.size → (bounds[i]?.getD 0 ≤ x ↔ i < r)) (hlo : lo ≤ r)
    (hhi : r ≤ hi) (hsize : hi ≤ bounds.size) : rank bounds x lo hi = r := by
  fun_induction rank bounds x lo hi with
  | case1 lo hi hlt mid hle ih =>
    have hmid : mid < r := (hplaces mid (by omega)).mp hle
    exact ih hmid hhi hsize
  | case2 lo hi hlt mid hgt ih =>
    have hmid : ¬ mid < r := fun h => hgt ((hplaces mid (by omega)).mpr h)
    exact ih hlo (by omega) (by omega)
  | case3 lo hi hge => omega

/-! ## Reading gaps -/

/-- The numbers read so far and the one that is being read, after one more character. -/
def readNumeral (acc : List Nat × Option Nat) (c : Char) : List Nat × Option Nat :=
  if c.isDigit then (acc.1, some (acc.2.getD 0 * 10 + (c.toNat - '0'.toNat)))
  else
    match acc.2 with
    | some n => (n :: acc.1, none)
    | none => acc

theorem suffix_foldl_readNumeral (text : List Char) (acc : List Nat × Option Nat) :
    acc.1 <:+ (text.foldl readNumeral acc).1 := by
  refine List.foldlRecOn (motive := fun acc' : List Nat × Option Nat => acc.1 <:+ acc'.1) text _ List.suffix_rfl
    fun acc' hacc c _ => ?_
  rw [readNumeral]
  split
  · exact hacc
  · split
    · exact hacc.trans (List.suffix_cons _ _)
    · exact hacc

theorem prefix_numerals {text : String} {front back : List Char} {done : List Nat}
    (htext : text.toList = front ++ back) (hfront : front.foldl readNumeral ([], none) = (done, none)) :
    done.reverse <+: numerals text := by
  have hfold : numerals text =
      (match (text.toList.foldl readNumeral ([], none)).2 with
        | some n => n :: (text.toList.foldl readNumeral ([], none)).1
        | none => (text.toList.foldl readNumeral ([], none)).1).reverse := by
    rw [numerals, String.foldl_eq_foldl_toList]
    rfl
  rw [hfold, htext, List.foldl_append, hfront, List.reverse_prefix]
  have hkept := suffix_foldl_readNumeral back (done, none)
  split
  · exact hkept.trans (List.suffix_cons _ _)
  · exact hkept

/-- The places of a list of gaps from a last place on, behind those before. -/
theorem bounds_foldl_gaps : ∀ (gaps : List Nat) (places : Array Nat) (last : Nat),
    ∃ later : List Nat, (∀ place ∈ later, last ≤ place) ∧
      (gaps.foldl (fun (acc : Array Nat × Nat) gap =>
        (acc.1.push (acc.2 + gap), acc.2 + gap)) (places, last)).1.toList = places.toList ++ later
  | [], places, _ => ⟨[], nofun, (List.append_nil _).symm⟩
  | gap :: gaps, places, last => by
    obtain ⟨later, hlater, hfold⟩ := bounds_foldl_gaps gaps (places.push (last + gap)) (last + gap)
    refine ⟨(last + gap) :: later, ?_, ?_⟩
    · rw [List.forall_mem_cons]
      exact ⟨Nat.le_add_right _ _, fun place h => Nat.le_trans (Nat.le_add_right _ _) (hlater place h)⟩
    · rw [List.foldl_cons, hfold, Array.toList_push, List.append_assoc, List.singleton_append]

/-- The first two places of a set are its first two gaps, and all others are not below them. -/
theorem exists_bounds_ofGaps {gaps : String} {first second : Nat}
    (h : [first, second] <+: numerals gaps) :
    ∃ later : List Nat, (∀ place ∈ later, first + second ≤ place) ∧
      (ofGaps gaps).bounds.toList = first :: (first + second) :: later := by
  obtain ⟨rest, hrest⟩ := h
  obtain ⟨later, hlater, hfold⟩ :=
    bounds_foldl_gaps rest ((#[].push (0 + first)).push (0 + first + second)) (0 + first + second)
  rw [Nat.zero_add] at hlater hfold
  refine ⟨later, hlater, ?_⟩
  rw [ofGaps, ← hrest, List.cons_append, List.cons_append, List.nil_append, List.foldl_cons,
    List.foldl_cons, Nat.zero_add]
  exact hfold

/-- A code point below the second place belongs to a set exactly if it is not below the first. -/
theorem containsCode_ofGaps {gaps : String} {first second code : Nat}
    (h : [first, second] <+: numerals gaps) (hcode : code < first + second) :
    (ofGaps gaps).containsCode code = decide (first ≤ code) := by
  obtain ⟨later, hlater, hbounds⟩ := exists_bounds_ofGaps h
  generalize ofGaps gaps = s at hbounds
  have hsize : s.bounds.size = later.length + 2 := by
    rw [← Array.length_toList, hbounds]
    rfl
  have hget : ∀ i : Nat, s.bounds[i]? = (first :: (first + second) :: later)[i]? := by
    intro i
    rw [← Array.getElem?_toList, hbounds]
  have hsecond : ∀ i : Nat, i + 1 < s.bounds.size → ¬ s.bounds[i + 1]?.getD 0 ≤ code := by
    intro i hi hle
    rw [hget, List.getElem?_cons_succ] at hle
    have hlength : i < ((first + second) :: later).length := by
      rw [List.length_cons]
      omega
    rw [List.getElem?_eq_getElem hlength, Option.getD_some] at hle
    have hmem := List.getElem_mem hlength
    rcases List.mem_cons.mp hmem with heq | hmem
    · omega
    · have := hlater _ hmem
      omega
  -- the code lies below the second bound, so one bound at most is not above it
  have hrank : rank s.bounds code 0 s.bounds.size = if first ≤ code then 1 else 0 := by
    refine rank_eq (fun i hi => ?_) (Nat.zero_le _) (by split <;> omega) (Nat.le_refl _)
    cases i with
    | zero =>
      rw [hget, List.getElem?_cons_zero, Option.getD_some]
      split <;> omega
    | succ i =>
      have hnot := hsecond i hi
      split <;> omega
  rw [containsCode, hrank]
  split
  · rename_i hle
    rw [decide_eq_true hle]
    rfl
  · rename_i hlt
    rw [decide_eq_false hlt]
    rfl

end ShapeCheck.Unicode.CodeSet

namespace ShapeCheck.Text

open ShapeCheck.Unicode

/-- **Below 127, the characters that show are those from the space on.** -/
theorem shown_ascii {c : Char} (h : c.toNat < 127) : shown.contains c = decide (32 ≤ c.toNat) := by
  obtain ⟨gaps, hshown, back, hback⟩ :
      ∃ gaps : String, shown = .ofGaps gaps ∧ "32 95 ".toList <+: gaps.toList := by
    refine ⟨_, rfl, ?_⟩
    simp only [String.toList_append, List.append_assoc]
    exact List.IsPrefix.trans (by decide) (List.prefix_append _ _)
  have hread : "32 95 ".toList.foldl CodeSet.readNumeral ([], none) = ([95, 32], none) := by decide
  have hgaps : [32, 95] <+: CodeSet.numerals gaps := CodeSet.prefix_numerals hback.symm hread
  rw [hshown]
  exact CodeSet.containsCode_ofGaps hgaps h

theorem quoteChar_ascii {c : Char} (hlow : 32 ≤ c.toNat) (hhigh : c.toNat < 127) (hquote : c ≠ '"')
    (hslash : c ≠ '\\') : quoteChar c = [c] := by
  have hne : ∀ {d : Char}, d.toNat < 32 → c ≠ d := by
    rintro d hd rfl
    omega
  rw [quoteChar, if_neg hquote, if_neg hslash, if_neg (hne (by decide)), if_neg (hne (by decide)),
    if_neg (hne (by decide)), if_neg (by omega), shown_ascii hhigh, decide_eq_true hlow, if_pos rfl]

/-- The unit separator does not show. -/
theorem quoteChar_unitSeparator : quoteChar Directive.unitSeparator ≠ [Directive.unitSeparator] := by
  have hshown : shown.contains Directive.unitSeparator = false := shown_ascii (by decide)
  rw [quoteChar, hshown]
  decide

end ShapeCheck.Text
