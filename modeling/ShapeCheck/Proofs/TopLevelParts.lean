import ShapeCheck.Proofs.JoinedBlocks

/-!
# The parts of a text

Two scanners look for a mark outside parentheses: `splitTopLevel` cuts a text at all of them, and
`cutTopLevel?` at the first.  Neither says what its result is.  `CutsInto` does, for any list of
texts, by the depths inside and behind each of them; an empty list is no cut of any text.

* `uncut_iff` — a text is uncut iff a parenthesis is open at each of its marks;
* `cutFrom?_eq_none_iff`, `uncut_of_cutFrom?` — what the first cut of a text is;
* `splitFrom_of_cutFrom?` — both scanners cut at the same places;
* `splitTopLevel_induction` — so a property of all parts is shown from one cut to the next;
* `cutsInto_splitTopLevel`, `eq_of_cutsInto` — a text is cut into its parts and into nothing else;
* `top_level_parts_unique` — the parts and the first cut of a text.
-/

set_option autoImplicit false

namespace ShapeCheck.Directive

open ShapeCheck.Text

/-- A text is cut into parts at the marks outside parentheses.  The depth is counted anew in each
part, and a parenthesis that closes nothing leaves it at zero. -/
structure CutsInto (mark : Char) (text : List Char) (parts : List (List Char)) : Prop where
  joined : [mark].intercalate parts = text
  /-- A mark inside a part stands inside parentheses. -/
  inner : ∀ p ∈ parts, ∀ before behind, p = before ++ mark :: behind → 0 < depthAfter 0 before
  /-- Even an empty text has one part. -/
  nonempty : parts ≠ []
  /-- Nothing is open behind the parts before the last one. -/
  closed : ∀ p ∈ parts.dropLast, depthAfter 0 p = 0

variable {mark : Char}

/-! ## Uncut texts -/

/-- **A text is uncut** iff a parenthesis is open at each of its marks. -/
theorem uncut_iff (h₁ : mark ≠ '(') (h₂ : mark ≠ ')') {text : List Char} {depth : Nat} :
    Uncut mark depth text ↔
      ∀ before behind, text = before ++ mark :: behind → 0 < depthAfter depth before := by
  constructor
  · rintro h before behind rfl
    obtain ⟨-, hmark, -⟩ := uncut_append.mp h
    by_contra hzero
    rw [Nat.eq_zero_of_not_pos hzero, isCut_self h₁ h₂] at hmark
    cases hmark
  · intro h
    refine uncut_of_prefixes fun before hbefore => ?_
    obtain ⟨behind, hbehind⟩ := hbefore
    exact h before behind (by rw [← hbehind]; simp)

instance decidableUncut (mark : Char) : ∀ (depth : Nat) (text : List Char),
    Decidable (Uncut mark depth text)
  | _, [] => .isTrue trivial
  | depth, c :: text =>
    have := decidableUncut mark (deepen depth c) text
    inferInstanceAs (Decidable (_ ∧ _))

/-! ## The first cut -/

theorem cutFrom?_eq_none_iff : ∀ {text : List Char} {depth : Nat},
    cutFrom? mark depth text = none ↔ Uncut mark depth text
  | [], _ => ⟨fun _ => trivial, fun _ => rfl⟩
  | c :: text, depth => by
    rw [cutFrom?, Uncut]
    cases hcut : isCut mark depth c with
    | true => simp
    | false => simp [cutFrom?_eq_none_iff]

/-- The text before the first cut is uncut, and nothing is open behind it. -/
theorem uncut_of_cutFrom? : ∀ {text front back : List Char} {depth : Nat},
    cutFrom? mark depth text = some (front, back) →
      Uncut mark depth front ∧ depthAfter depth front = 0
  | [], _, _, _, h => by cases h
  | c :: text, front, back, depth, h => by
    rw [cutFrom?] at h
    split at h
    · rename_i hcut
      cases h
      exact ⟨trivial, (isCut_iff.mp hcut).2.2.2⟩
    · rename_i hkept
      obtain ⟨⟨front', back'⟩, hcut, hpair⟩ := Option.map_eq_some_iff.mp h
      obtain ⟨rfl, rfl⟩ := Prod.mk.inj hpair
      obtain ⟨huncut, hdepth⟩ := uncut_of_cutFrom? hcut
      exact ⟨⟨Bool.eq_false_of_not_eq_true hkept, huncut⟩, hdepth⟩

/-- **Both scanners cut at the same places**: the first part ends at the first cut, and the other
parts are those of the text behind it. -/
theorem splitFrom_of_cutFrom? : ∀ {text front back : List Char} {depth : Nat},
    cutFrom? mark depth text = some (front, back) →
      splitFrom mark depth text = front :: splitFrom mark 0 back
  | [], _, _, _, h => by cases h
  | c :: text, front, back, depth, h => by
    rw [cutFrom?] at h
    rw [splitFrom]
    split at h
    · cases h
      rw [if_pos ‹_›]
    · obtain ⟨⟨front', back'⟩, hcut, hpair⟩ := Option.map_eq_some_iff.mp h
      obtain ⟨rfl, rfl⟩ := Prod.mk.inj hpair
      rw [if_neg ‹_›, splitFrom_of_cutFrom? hcut, List.modifyHead_cons]

/-! ## From cut to cut -/

/-- **Induction over the cuts of a text.**  What holds of an uncut text and its one part, and is
kept when an uncut part without open parentheses is put before a mark, holds of every text and its
parts. -/
theorem splitTopLevel_induction {motive : List Char → List (List Char) → Prop}
    (uncut : ∀ text, Uncut mark 0 text → motive text [text])
    (cut : ∀ front back, Uncut mark 0 front → depthAfter 0 front = 0 →
      motive back (splitTopLevel mark back) →
      motive (front ++ mark :: back) (front :: splitTopLevel mark back))
    (text : List Char) : motive text (splitTopLevel mark text) := by
  induction hn : text.length using Nat.strongRecOn generalizing text with
  | _ n ih =>
    cases hcut : cutTopLevel? mark text with
    | none =>
      have huncut : Uncut mark 0 text := cutFrom?_eq_none_iff.mp hcut
      rw [splitTopLevel, splitFrom_of_uncut huncut]
      exact uncut text huncut
    | some cutting =>
      obtain ⟨front, back⟩ := cutting
      have htext : text = front ++ mark :: back := eq_of_cutFrom? hcut
      obtain ⟨huncut, hdepth⟩ := uncut_of_cutFrom? hcut
      have hshorter : back.length < n := by
        rw [← hn, htext, List.length_append, List.length_cons]
        omega
      rw [splitTopLevel, splitFrom_of_cutFrom? hcut, htext]
      exact cut front back huncut hdepth (ih back.length hshorter back rfl)

/-- **A text is cut into its parts.** -/
theorem cutsInto_splitTopLevel (h₁ : mark ≠ '(') (h₂ : mark ≠ ')') (text : List Char) :
    CutsInto mark text (splitTopLevel mark text) := by
  refine splitTopLevel_induction (motive := CutsInto mark) (fun text huncut => ?_)
    (fun front back huncut hdepth ih => ?_) text
  · refine ⟨List.intercalate_singleton, ?_, List.cons_ne_nil _ _, nofun⟩
    intro p hp
    rw [List.mem_singleton.mp hp]
    exact (uncut_iff h₁ h₂).mp huncut
  · refine ⟨?_, ?_, List.cons_ne_nil _ _, ?_⟩
    · rw [intercalate_cons front ih.nonempty, ih.joined]
    · exact List.forall_mem_cons.mpr ⟨(uncut_iff h₁ h₂).mp huncut, ih.inner⟩
    · rw [List.dropLast_cons_of_ne_nil ih.nonempty]
      exact List.forall_mem_cons.mpr ⟨hdepth, ih.closed⟩

/-- **A text is cut into nothing but its parts.** -/
theorem eq_of_cutsInto (h₁ : mark ≠ '(') (h₂ : mark ≠ ')') {text : List Char}
    {parts : List (List Char)} (h : CutsInto mark text parts) : parts = splitTopLevel mark text := by
  have huncut : ∀ p ∈ parts, Uncut mark 0 p := fun p hp => (uncut_iff h₁ h₂).mpr (h.inner p hp)
  rw [← h.joined, splitTopLevel_uncut h₁ h₂ h.nonempty huncut h.closed]

/-- The first cut of a text stands before the second one of its parts. -/
theorem cutTopLevel?_eq (text : List Char) :
    cutTopLevel? mark text =
      match splitTopLevel mark text with
      | front :: next :: rest => some (front, [mark].intercalate (next :: rest))
      | _ => none := by
  cases hcut : cutTopLevel? mark text with
  | none =>
    rw [splitTopLevel, splitFrom_of_uncut (cutFrom?_eq_none_iff.mp hcut)]
  | some cutting =>
    obtain ⟨front, back⟩ := cutting
    obtain ⟨next, rest, hback⟩ :=
      List.exists_cons_of_ne_nil (splitFrom_ne_nil : splitFrom mark 0 back ≠ [])
    rw [splitTopLevel, splitFrom_of_cutFrom? hcut, hback]
    show some (front, back) = some (front, [mark].intercalate (next :: rest))
    rw [← hback, intercalate_splitFrom]

/-- **The parts of a text are unique**, for every text and every mark that is no parenthesis.  The
parts, joined by the mark, are the text; inside a part a mark stands in parentheses; nothing is open
behind any part but the last one; and no other texts are like this.  The scanner for the first mark
outside parentheses agrees: it finds none iff there is one part, and else the mark that it finds
ends the first part and stands before the others. -/
theorem top_level_parts_unique (h₁ : mark ≠ '(') (h₂ : mark ≠ ')') (text : List Char) :
    (∀ parts, CutsInto mark text parts ↔ parts = splitTopLevel mark text) ∧
    (cutTopLevel? mark text = none ↔ ∃ p, splitTopLevel mark text = [p]) ∧
    ∀ front back, cutTopLevel? mark text = some (front, back) ↔
      ∃ next rest, splitTopLevel mark text = front :: next :: rest ∧
        back = [mark].intercalate (next :: rest) := by
  refine ⟨fun parts => ⟨eq_of_cutsInto h₁ h₂, ?_⟩, ?_, fun front back => ?_⟩
  · rintro rfl
    exact cutsInto_splitTopLevel h₁ h₂ text
  · have hne : splitTopLevel mark text ≠ [] := splitFrom_ne_nil
    rw [cutTopLevel?_eq]
    match splitTopLevel mark text, hne with
    | [p], _ => simp
    | p :: next :: rest, _ => simp
  · rw [cutTopLevel?_eq]
    match splitTopLevel mark text with
    | [] => simp
    | [p] => simp
    | p :: next :: rest =>
      constructor
      · rintro ⟨⟩
        exact ⟨next, rest, rfl, rfl⟩
      · rintro ⟨next', rest', hparts, rfl⟩
        cases hparts
        rfl

/-- A parenthesis too many, characters of several bytes, an empty part, and a parenthesis that is
left open before a mark. -/
theorem top_level_parts_unique_unbalanced :
    let text := "é(ж|b))||(€|e".toList
    let parts := ["é(ж|b))".toList, [], "(€|e".toList]
    ('|' ≠ '(' ∧ '|' ≠ ')') ∧ CutsInto '|' text parts ∧ parts = splitTopLevel '|' text ∧
      cutTopLevel? '|' text = some ("é(ж|b))".toList, "|(€|e".toList) ∧
      cutTopLevel? '|' "(€|e".toList = none := by
  intro text parts
  have hmark : '|' ≠ '(' ∧ '|' ≠ ')' := by decide
  have hcuts : CutsInto '|' text parts := by
    refine ⟨by decide, fun p hp => ?_, by decide, by decide⟩
    have huncut : ∀ p ∈ parts, Uncut '|' 0 p := by decide
    exact (uncut_iff hmark.1 hmark.2).mp (huncut p hp)
  obtain ⟨hunique, -, hfirst⟩ := top_level_parts_unique hmark.1 hmark.2 text
  obtain ⟨-, hnone, -⟩ := top_level_parts_unique hmark.1 hmark.2 "(€|e".toList
  have hparts : parts = splitTopLevel '|' text := (hunique parts).mp hcuts
  refine ⟨hmark, hcuts, hparts, ?_, ?_⟩
  · exact (hfirst _ _).mpr ⟨[], ["(€|e".toList], hparts.symm, rfl⟩
  · exact hnone.mpr ⟨"(€|e".toList, by decide⟩

end ShapeCheck.Directive
