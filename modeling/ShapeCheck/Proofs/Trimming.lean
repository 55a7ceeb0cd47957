import Mathlib.Data.List.Basic
import Mathlib.Data.List.DropRight
import Mathlib.Data.List.TakeWhile
import ShapeCheck.Text.Blank
import ShapeCheck.Text.Search

/-!
# Trimming, unquoting and cutting

What `trim`, `stripQuotes` and `cutAt?` leave of a text: a text with visible ends stays as it is
(`trim_eq_self`), one that does not begin with a quote keeps its ends (`stripQuotes_eq_self`),
trimming twice trims as once (`trim_trim`), and no character is new.
-/

set_option autoImplicit false

namespace ShapeCheck.Text

/-! ## Blanks at the ends -/

theorem isBlank_ne {c d : Char} (hc : isBlank c = true) (hd : isBlank d = false) : c ≠ d := by
  rintro rfl
  rw [hc] at hd
  cases hd

/-- The first and the last character of a text, if it has any, are not blank. -/
structure VisibleEnds (text : List Char) : Prop where
  head : ∀ c, text.head? = some c → isBlank c = false
  last : ∀ c, text.getLast? = some c → isBlank c = false

theorem VisibleEnds.of_all {text : List Char} (hhead : text.head?.all (!isBlank ·) = true)
    (hlast : text.getLast?.all (!isBlank ·) = true) : VisibleEnds text := by
  refine ⟨fun c hc => ?_, fun c hc => ?_⟩
  · rw [hc, Option.all_some] at hhead
    rwa [Bool.not_eq_true'] at hhead
  · rw [hc, Option.all_some] at hlast
    rwa [Bool.not_eq_true'] at hlast

instance (text : List Char) : Decidable (VisibleEnds text) :=
  decidable_of_iff
    (text.head?.all (!isBlank ·) = true ∧ text.getLast?.all (!isBlank ·) = true)
    ⟨fun ⟨head, last⟩ => .of_all head last, fun h => by
      simp only [Option.all_eq_true, Bool.not_eq_true']
      exact ⟨h.head, h.last⟩⟩

theorem VisibleEnds.around {p q : List Char} (hp : VisibleEnds p) (hq : VisibleEnds q)
    (hpne : p ≠ []) (hqne : q ≠ []) (middle : List Char) : VisibleEnds (p ++ middle ++ q) := by
  refine ⟨fun c hc => hp.head c ?_, fun c hc => hq.last c ?_⟩
  · rwa [List.append_assoc, List.head?_append_of_ne_nil p hpne] at hc
  · rwa [List.getLast?_append_of_ne_nil _ hqne] at hc

theorem VisibleEnds.between {c d : Char} (hc : isBlank c = false) (hd : isBlank d = false)
    (middle : List Char) : VisibleEnds (c :: middle ++ [d]) := by
  refine ⟨fun e he => ?_, fun e he => ?_⟩
  · rwa [← Option.some_inj.mp he]
  · rw [List.getLast?_concat] at he
    rwa [← Option.some_inj.mp he]

theorem trimStart_eq_self {text : List Char} (h : ∀ c, text.head? = some c → isBlank c = false) :
    trimStart text = text := by
  cases text with
  | nil => rfl
  | cons c text =>
    rw [trimStart, List.dropWhile_cons_of_neg]
    rw [h c rfl]
    exact Bool.false_ne_true

theorem trim_eq_self {text : List Char} (h : VisibleEnds text) : trim text = text := by
  have hend : trimEnd text = text := by
    have hrev : trimStart text.reverse = text.reverse :=
      trimStart_eq_self fun c hc => h.last c (by rwa [List.head?_reverse] at hc)
    rw [trimEnd]
    show (trimStart text.reverse).reverse = text
    rw [hrev, List.reverse_reverse]
  rw [trim, trimStart_eq_self h.head, hend]

theorem trim_blanks_append {blanks : List Char} (h : ∀ c ∈ blanks, isBlank c = true)
    (text : List Char) : trim (blanks ++ text) = trim text := by
  rw [trim, trimStart, List.dropWhile_append_of_pos h, trim, trimStart]

theorem trim_append_blanks {blanks : List Char} (h : ∀ c ∈ blanks, isBlank c = true)
    (text : List Char) : trim (text ++ blanks) = trim text := by
  have hend : ∀ p : List Char, trimEnd (p ++ blanks) = trimEnd p := fun p => by
    rw [trimEnd, List.reverse_append,
      List.dropWhile_append_of_pos fun c hc => h c (List.mem_reverse.mp hc), trimEnd]
  rw [trim, trimStart, List.dropWhile_append]
  split
  · rename_i hnil
    rw [List.dropWhile_eq_nil_iff.mpr h, trim, trimStart, List.isEmpty_iff.mp hnil]
  · exact hend _

theorem trimStart_append_cons {c : Char} (hc : isBlank c = false) (p q : List Char) :
    trimStart (p ++ c :: q) = trimStart p ++ c :: q := by
  have hkept : (c :: q).dropWhile isBlank = c :: q := List.dropWhile_cons_of_neg (by simp [hc])
  rw [trimStart, List.dropWhile_append, hkept, trimStart]
  split
  · rename_i hnil
    rw [List.isEmpty_iff.mp hnil, List.nil_append]
  · rfl

theorem trimEnd_append_cons {c : Char} (hc : isBlank c = false) (p q : List Char) :
    trimEnd (p ++ c :: q) = p ++ c :: trimEnd q := by
  have hrev : (p ++ c :: q).reverse = q.reverse ++ c :: p.reverse := by simp
  have hkept : (c :: p.reverse).dropWhile isBlank = c :: p.reverse :=
    List.dropWhile_cons_of_neg (by simp [hc])
  rw [trimEnd, hrev, List.dropWhile_append, hkept, trimEnd]
  split
  · rename_i hnil
    rw [List.isEmpty_iff.mp hnil]
    simp
  · simp

theorem trim_append_cons {c : Char} (hc : isBlank c = false) (p q : List Char) :
    trim (p ++ c :: q) = trimStart p ++ c :: trimEnd q := by
  rw [trim, trimStart_append_cons hc, trimEnd_append_cons hc]

theorem isBlank_of_trimStart {text rest : List Char} {c : Char} (h : trimStart text = c :: rest) :
    isBlank c = false := by
  have hnot := List.head?_dropWhile_not isBlank text
  rwa [show text.dropWhile isBlank = c :: rest from h] at hnot

theorem head?_trim (text : List Char) : (trim text).head? = (trimStart text).head? := by
  cases hstart : trimStart text with
  | nil =>
    rw [trim, hstart]
    rfl
  | cons c rest =>
    have hend : trimEnd (c :: rest) = c :: trimEnd rest :=
      trimEnd_append_cons (isBlank_of_trimStart hstart) [] rest
    rw [trim, hstart, hend, List.head?_cons, List.head?_cons]

theorem exists_visible {text : List Char} (h : trim text ≠ []) :
    ∃ front c back, text = front ++ c :: back ∧ isBlank c = false := by
  cases hstart : trimStart text with
  | nil => exact absurd (by rw [trim, hstart]; rfl) h
  | cons c rest =>
    refine ⟨text.takeWhile isBlank, c, rest, ?_, isBlank_of_trimStart hstart⟩
    rw [← hstart]
    exact List.takeWhile_append_dropWhile.symm

theorem trim_trimStart (text : List Char) : trim (trimStart text) = trim text := by
  rw [trim, trimStart, trimStart, List.dropWhile_idempotent, trim, trimStart]

theorem trim_trimEnd (text : List Char) : trim (trimEnd text) = trim text := by
  have htext : trimEnd text ++ (text.reverse.takeWhile isBlank).reverse = text := by
    rw [trimEnd, ← List.reverse_append, List.takeWhile_append_dropWhile, List.reverse_reverse]
  have hblanks : ∀ c ∈ (text.reverse.takeWhile isBlank).reverse, isBlank c = true :=
    fun c hc => List.mem_takeWhile_imp (List.mem_reverse.mp hc)
  have htrim := trim_append_blanks hblanks (trimEnd text)
  rwa [htext, eq_comm] at htrim

theorem trim_trim (text : List Char) : trim (trim text) = trim text := by
  show trim (trimEnd (trimStart text)) = trim text
  rw [trim_trimEnd, trim_trimStart]

theorem exists_blanks_around (text : List Char) : ∃ front back : List Char,
    (∀ c ∈ front, isBlank c = true) ∧ (∀ c ∈ back, isBlank c = true) ∧
      text = front ++ trim text ++ back := by
  have hback : trim text ++ ((trimStart text).reverse.takeWhile isBlank).reverse =
      trimStart text := by
    rw [trim, trimEnd, ← List.reverse_append, List.takeWhile_append_dropWhile,
      List.reverse_reverse]
  refine ⟨text.takeWhile isBlank, ((trimStart text).reverse.takeWhile isBlank).reverse,
    fun c hc => List.mem_takeWhile_imp hc,
    fun c hc => List.mem_takeWhile_imp (List.mem_reverse.mp hc), ?_⟩
  rw [List.append_assoc, hback]
  exact List.takeWhile_append_dropWhile.symm

theorem trimStart_sublist (text : List Char) : (trimStart text).Sublist text :=
  List.dropWhile_sublist isBlank

theorem length_trimStart_le (text : List Char) : (trimStart text).length ≤ text.length :=
  (trimStart_sublist text).length_le

theorem trimEnd_sublist (text : List Char) : (trimEnd text).Sublist text := by
  have hrev := (List.dropWhile_sublist isBlank (l := text.reverse)).reverse
  rwa [List.reverse_reverse] at hrev

theorem trim_sublist (text : List Char) : (trim text).Sublist text :=
  (trimEnd_sublist (trimStart text)).trans (trimStart_sublist text)

theorem length_trim_le (text : List Char) : (trim text).length ≤ text.length :=
  (trim_sublist text).length_le

/-! ## Quotes -/

theorem unquote?_eq_none {text : List Char}
    (h : ∀ c, text.head? = some c → c ≠ '"' ∧ c ≠ '\'') : unquote? text = none := by
  cases text with
  | nil => rfl
  | cons c text =>
    obtain ⟨h₁, h₂⟩ := h c rfl
    cases text with
    | nil => rfl
    | cons d text => simp [unquote?, h₁, h₂]

theorem stripQuotes_eq_self {text : List Char}
    (h : ∀ c, text.head? = some c → c ≠ '"' ∧ c ≠ '\'') : stripQuotes text = text := by
  rw [stripQuotes, unquote?_eq_none h]
  rfl

theorem unquote?_of_ends_ne {text : List Char} (h : text.getLast? ≠ text.head?) :
    unquote? text = none := by
  match text, h with
  | [], _ => rfl
  | [_], _ => rfl
  | q :: c :: rest, h =>
    rw [List.getLast?_cons_cons, List.head?_cons] at h
    exact if_neg fun hquoted => h hquoted.2

theorem unquote?_quoted {q : Char} (hq : q = '"' ∨ q = '\'') (text : List Char) :
    unquote? (q :: text ++ [q]) = some text := by
  cases text with
  | nil =>
    show unquote? [q, q] = some []
    simp [unquote?, hq]
  | cons c text =>
    show unquote? (q :: c :: (text ++ [q])) = some (c :: text)
    have hlast : (c :: (text ++ [q])).getLast? = some q := by
      rw [← List.cons_append, List.getLast?_concat]
    have hdrop : (c :: (text ++ [q])).dropLast = c :: text := by
      rw [← List.cons_append, List.dropLast_concat]
    simp [unquote?, hlast, hdrop, hq]

theorem stripQuotes_sublist (text : List Char) : (stripQuotes text).Sublist text := by
  rw [stripQuotes, unquote?.eq_def]
  split
  · split
    · exact (List.dropLast_sublist _).trans (List.sublist_cons_self _ _)
    · exact .refl _
  · exact .refl _

theorem length_stripQuotes_le (text : List Char) : (stripQuotes text).length ≤ text.length :=
  (stripQuotes_sublist text).length_le

/-! ## Cuts at a character -/

theorem cutAt?_append {mark : Char} : ∀ {p : List Char} (q : List Char), mark ∉ p →
    cutAt? mark (p ++ mark :: q) = some (p, q)
  | [], q, _ => by rw [List.nil_append, cutAt?, if_pos rfl]
  | c :: p, q, h => by
    obtain ⟨hc, hp⟩ : c ≠ mark ∧ mark ∉ p := by
      rw [List.mem_cons, not_or] at h
      exact ⟨Ne.symm h.1, h.2⟩
    rw [List.cons_append, cutAt?, if_neg hc, cutAt?_append q hp]
    rfl

theorem cutAt?_eq_none {mark : Char} : ∀ {p : List Char}, mark ∉ p → cutAt? mark p = none
  | [], _ => rfl
  | c :: p, h => by
    obtain ⟨hc, hp⟩ : c ≠ mark ∧ mark ∉ p := by
      rw [List.mem_cons, not_or] at h
      exact ⟨Ne.symm h.1, h.2⟩
    rw [cutAt?, if_neg hc, cutAt?_eq_none hp]
    rfl

theorem eq_of_cutAt? {mark : Char} : ∀ {text front back : List Char},
    cutAt? mark text = some (front, back) → text = front ++ mark :: back
  | [], _, _, h => by cases h
  | c :: text, front, back, h => by
    rw [cutAt?] at h
    split at h
    · rename_i hc
      cases h
      rw [hc]
      rfl
    · obtain ⟨⟨front', back'⟩, hcut, hpair⟩ := Option.map_eq_some_iff.mp h
      obtain ⟨rfl, rfl⟩ := Prod.mk.inj hpair
      rw [eq_of_cutAt? hcut]
      rfl

end ShapeCheck.Text
