import ShapeCheck.Proofs.Splitting

/-!
# Pieces of blocks

What a text must be like to survive inside a longer one.  Texts that are `Held` may stand between
parentheses, a `Block` may stand between bars, and `Whole` texts may stand between commas.

* `Whole.of_chars`, `Whole.append`, `Whole.paren` — how whole texts arise;
* `tokenize_intercalate` — whole texts joined by commas are read one by one.
-/

set_option autoImplicit false

namespace ShapeCheck.Directive

open ShapeCheck.Text

/-! ## Texts inside longer texts -/

/-- A text that reads the same between parentheses. -/
structure Held (p : List Char) : Prop where
  balanced : Balanced p
  separator : unitSeparator ∉ p
  ends : VisibleEnds p
  nonempty : p ≠ []

/-- A text that reads the same between bars. -/
structure Block (p : List Char) : Prop extends Held p where
  bar : Uncut '|' 0 p

/-- A text that reads the same between commas. -/
structure Whole (p : List Char) : Prop extends Block p where
  comma : Uncut ',' 0 p

/-- A text that does not begin with a quote. -/
def Unquoted (p : List Char) : Prop := ∀ c, p.head? = some c → c ≠ '"' ∧ c ≠ '\''

/-- The characters that the scanners of blocks look for. -/
def marks : List Char := [',', '|', '(', ')', unitSeparator]

theorem Unquoted.of_not_mem {p : List Char} (hdouble : '"' ∉ p) (hsingle : '\'' ∉ p) :
    Unquoted p := fun _ hc =>
  ⟨fun h => hdouble (h ▸ List.mem_of_head? hc), fun h => hsingle (h ▸ List.mem_of_head? hc)⟩

theorem Unquoted.append {p : List Char} (hp : Unquoted p) (hne : p ≠ []) (q : List Char) :
    Unquoted (p ++ q) := by
  intro c hc
  rw [List.head?_append_of_ne_nil p hne] at hc
  exact hp c hc

theorem Held.around {p q middle : List Char} (hp : Held p) (hq : Held q) (hm : Balanced middle)
    (hseparator : unitSeparator ∉ middle) : Held (p ++ middle ++ q) where
  balanced := (hp.balanced.append hm).append hq.balanced
  separator := by
    simp only [List.mem_append, not_or]
    exact ⟨⟨hp.separator, hseparator⟩, hq.separator⟩
  ends := hp.ends.around hq.ends hp.nonempty hq.nonempty middle
  nonempty := by
    intro hnil
    exact hq.nonempty (List.append_eq_nil_iff.mp hnil).2

theorem uncut_balanced_append {mark : Char} {p q : List Char} (hp : Uncut mark 0 p)
    (hbalanced : Balanced p) (hq : Uncut mark 0 q) : Uncut mark 0 (p ++ q) := by
  rw [uncut_append, hbalanced.depth]
  exact ⟨hp, hq⟩

theorem Block.around {p q middle : List Char} (hp : Block p) (hq : Block q) (hm : Balanced middle)
    (hseparator : unitSeparator ∉ middle) (hbar : Uncut '|' 0 middle) :
    Block (p ++ middle ++ q) where
  toHeld := hp.toHeld.around hq.toHeld hm hseparator
  bar := uncut_balanced_append (uncut_balanced_append hp.bar hp.balanced hbar)
    (hp.balanced.append hm) hq.bar

namespace Whole

theorem append {p q : List Char} (hp : Whole p) (hq : Whole q) : Whole (p ++ q) where
  balanced := hp.balanced.append hq.balanced
  separator := by
    rw [List.mem_append, not_or]
    exact ⟨hp.separator, hq.separator⟩
  ends := by
    have hends := hp.ends.around hq.ends hp.nonempty hq.nonempty []
    rwa [List.append_nil] at hends
  nonempty := List.append_ne_nil_of_left_ne_nil hp.nonempty q
  bar := uncut_balanced_append hp.bar hp.balanced hq.bar
  comma := uncut_balanced_append hp.comma hp.balanced hq.comma

theorem of_chars {p : List Char} (hchars : ∀ c ∈ p, c ∉ marks) (hends : VisibleEnds p)
    (hne : p ≠ []) : Whole p := by
  have hmark : ∀ mark ∈ marks, mark ∉ p := fun mark hmark hmem => hchars mark hmem hmark
  exact {
    balanced := .of_no_paren (hmark '(' (by decide)) (hmark ')' (by decide))
    separator := hmark unitSeparator (by decide)
    ends := hends
    nonempty := hne
    bar := uncut_of_not_mem (hmark '|' (by decide))
    comma := uncut_of_not_mem (hmark ',' (by decide)) }

theorem of_char {c : Char} (hmark : c ∉ marks) (hblank : isBlank c = false) : Whole [c] := by
  refine of_chars (List.forall_mem_singleton.mpr hmark) ⟨?_, ?_⟩ (List.cons_ne_nil c []) <;>
  · intro d hd
    cases hd
    exact hblank

theorem paren {p : List Char} (hp : Balanced p) (hseparator : unitSeparator ∉ p) :
    Whole ('(' :: (p ++ [')'])) where
  balanced := hp.paren
  separator := by
    simp only [List.mem_cons, List.mem_append, List.not_mem_nil, or_false, not_or]
    exact ⟨by decide, hseparator, by decide⟩
  ends := by
    refine ⟨fun c hc => ?_, fun c hc => ?_⟩
    · cases hc
      decide
    · rw [← List.cons_append, List.getLast?_concat] at hc
      cases hc
      decide
  nonempty := List.cons_ne_nil _ _
  bar := hp.uncut_paren '|'
  comma := hp.uncut_paren ','

end Whole

/-! ## Joined texts -/

theorem intercalate_keeps {M : List Char → Prop} {sep : List Char}
    (hjoin : ∀ p q, M p → M q → M (p ++ sep ++ q)) : ∀ {ps : List (List Char)}, ps ≠ [] →
    (∀ p ∈ ps, M p) → M (sep.intercalate ps)
  | [], hne, _ => absurd rfl hne
  | [p], _, h => by
    rw [List.intercalate_singleton]
    exact h p List.mem_cons_self
  | p :: p' :: ps, _, h => by
    rw [List.intercalate_cons_cons]
    exact hjoin p _ (h p List.mem_cons_self)
      (intercalate_keeps hjoin (List.cons_ne_nil p' ps) fun q hq => h q (List.mem_cons_of_mem p hq))

theorem filterMap_splitTopLevel_intercalate {blanks : List Char}
    (hblanks : ∀ c ∈ blanks, isBlank c = true) : ∀ {ps : List (List Char)}, ps ≠ [] →
    (∀ p ∈ ps, Whole p) →
    (splitTopLevel ',' ((',' :: blanks).intercalate ps)).filterMap parse? = ps.filterMap parse?
  | [], hne, _ => absurd rfl hne
  | [p], _, h => by
    rw [List.intercalate_singleton, splitTopLevel,
      splitFrom_of_uncut (h p List.mem_cons_self).comma]
  | p :: p' :: ps, _, h => by
    have hp : Whole p := h p List.mem_cons_self
    have ih := filterMap_splitTopLevel_intercalate hblanks (List.cons_ne_nil p' ps)
      fun q hq => h q (List.mem_cons_of_mem p hq)
    rw [List.intercalate_cons_cons, List.append_assoc, List.cons_append,
      splitTopLevel_append_mark (by decide) (by decide) hp.comma (hp.balanced.depth 0),
      List.filterMap_cons, ← filterMap_splitTopLevel_trim (by decide) parse?_trim,
      trim_blanks_append hblanks, filterMap_splitTopLevel_trim (by decide) parse?_trim, ih]
    exact List.filterMap_cons.symm

theorem Block.intercalate {blanks : List Char} (hblanks : ∀ c ∈ blanks, isBlank c = true)
    {ps : List (List Char)} (hne : ps ≠ []) (h : ∀ p ∈ ps, Whole p) :
    Block ((',' :: blanks).intercalate ps) := by
  have hvisible : ∀ d, d ≠ ',' → isBlank d = false → d ∉ ',' :: blanks := by
    intro d hd hblank hmem
    rcases List.mem_cons.mp hmem with hcomma | hmem
    · exact hd hcomma
    · exact isBlank_ne (hblanks d hmem) hblank rfl
  have hbalanced : Balanced (',' :: blanks) :=
    .of_no_paren (hvisible '(' (by decide) (by decide)) (hvisible ')' (by decide) (by decide))
  refine intercalate_keeps (fun p q hp hq => hp.around hq hbalanced ?_ ?_) hne
    fun p hp => (h p hp).toBlock
  · exact hvisible unitSeparator (by decide) (by decide)
  · exact uncut_of_not_mem (hvisible '|' (by decide) (by decide))

theorem Unquoted.intercalate (sep : List Char) {ps : List (List Char)} (hne : ps ≠ [])
    (h : ∀ p ∈ ps, Unquoted p ∧ p ≠ []) : Unquoted (sep.intercalate ps) := by
  have hboth : Unquoted (sep.intercalate ps) ∧ sep.intercalate ps ≠ [] := by
    refine intercalate_keeps (M := fun p => Unquoted p ∧ p ≠ []) ?_ hne h
    rintro p q ⟨hp, hpne⟩ -
    rw [List.append_assoc]
    exact ⟨hp.append hpne _, List.append_ne_nil_of_left_ne_nil hpne _⟩
  exact hboth.1

/-- **Whole texts joined by commas, with or without blanks, are read one by one.** -/
theorem tokenize_intercalate {blanks : List Char} (hblanks : ∀ c ∈ blanks, isBlank c = true)
    {ps : List (List Char)} (h : ∀ p ∈ ps, Whole p ∧ Unquoted p) :
    tokenize ((',' :: blanks).intercalate ps) = ps.filterMap parse? := by
  rcases eq_or_ne ps [] with rfl | hne
  · rfl
  · have hblock := Block.intercalate hblanks hne fun p hp => (h p hp).1
    have hquote := Unquoted.intercalate (',' :: blanks) hne
      fun p hp => ⟨(h p hp).2, (h p hp).1.nonempty⟩
    rw [tokenize_eq_parts hblock.separator hblock.ends hquote,
      filterMap_splitTopLevel_intercalate hblanks hne fun p hp => (h p hp).1]

end ShapeCheck.Directive
