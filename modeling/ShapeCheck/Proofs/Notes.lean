import Mathlib.Data.List.Infix
import ShapeCheck.Proofs.Slots
import ShapeCheck.Proofs.WrittenArguments

/-!
# Notes

A note is any text whose parentheses are matched and whose commas lie inside them.

* `Matched.balanced`, `uncut_of_commasInside` — what these two conditions, which count parentheses,
  mean for the scanner of blocks;
* `apply_of_note` — the note that a directive sets;
* `note_foldl` — among other directives the note is that of the only directive that sets one;
* `note_stored_restored` — so a note is stored as it stands, alone and among other directives, but
  for unit separators: they are stored as commas.
-/

set_option autoImplicit false

namespace ShapeCheck

open Directive Text

/-! ## Matched parentheses -/

/-- As many parentheses are closed as are opened, and none before it is opened. -/
structure Matched (p : List Char) : Prop where
  closed : p.count ')' = p.count '('
  opened : ∀ q, q <+: p → q.count ')' ≤ q.count '('

/-- A parenthesis is open at every comma. -/
def CommasInside (p : List Char) : Prop := ∀ q, q ++ [','] <+: p → q.count ')' < q.count '('

instance (p : List Char) : Decidable (Matched p) :=
  decidable_of_iff (p.count ')' = p.count '(' ∧ ∀ q ∈ p.inits, q.count ')' ≤ q.count '(')
    ⟨fun ⟨closed, opened⟩ => ⟨closed, fun q hq => opened q ((List.mem_inits q p).mpr hq)⟩,
      fun h => ⟨h.closed, fun q hq => h.opened q ((List.mem_inits q p).mp hq)⟩⟩

instance (p : List Char) : Decidable (CommasInside p) :=
  decidable_of_iff (∀ q ∈ p.inits, q ++ [','] ∈ p.inits → q.count ')' < q.count '(')
    ⟨fun h q hq => h q ((List.mem_inits q p).mpr ((List.prefix_append q [',']).trans hq))
        ((List.mem_inits _ p).mpr hq),
      fun h q _ hcomma => h q ((List.mem_inits _ p).mp hcomma)⟩

theorem deepen_add_count {depth : Nat} {c : Char} (h : [c].count ')' ≤ depth + [c].count '(') :
    deepen depth c + [c].count ')' = depth + [c].count '(' := by
  by_cases hopen : c = '('
  · rw [hopen]
    rfl
  · by_cases hclose : c = ')'
    · rw [hclose] at h ⊢
      exact Nat.sub_add_cancel h
    · rw [deepen_of_ne hopen hclose, List.count_singleton, List.count_singleton]
      simp [hopen, hclose]

/-- While no parenthesis is closed that is not open, the depth counts those that are open. -/
theorem depthAfter_add_count : ∀ {text : List Char} {depth : Nat},
    (∀ q, q <+: text → q.count ')' ≤ depth + q.count '(') →
    depthAfter depth text + text.count ')' = depth + text.count '('
  | [], _, _ => rfl
  | c :: text, depth, h => by
    have hcount : ∀ (d : Char) (q : List Char), (c :: q).count d = [c].count d + q.count d :=
      fun d q => by rw [← List.count_append, List.singleton_append]
    have hfirst := deepen_add_count (h [c] ⟨text, rfl⟩)
    have ih : depthAfter (deepen depth c) text + text.count ')' =
        deepen depth c + text.count '(' := by
      refine depthAfter_add_count fun q hq => ?_
      have hprefix := h (c :: q) (List.cons_prefix_cons.mpr ⟨rfl, hq⟩)
      have hopen := hcount '(' q
      have hclose := hcount ')' q
      omega
    have hopen := hcount '(' text
    have hclose := hcount ')' text
    rw [depthAfter_cons]
    omega

/-- A text is not cut at a mark if a parenthesis is open before every such mark. -/
theorem uncut_of_prefixes {mark : Char} : ∀ {text : List Char} {depth : Nat},
    (∀ q, q ++ [mark] <+: text → 0 < depthAfter depth q) → Uncut mark depth text
  | [], _, _ => trivial
  | c :: text, depth, h => by
    refine ⟨?_, uncut_of_prefixes fun q hq => ?_⟩
    · by_cases hmark : c = mark
      · exact isCut_of_pos (h [] ⟨text, by rw [hmark]; rfl⟩)
      · exact isCut_of_ne hmark
    · exact h (c :: q) (List.cons_prefix_cons.mpr ⟨rfl, hq⟩)

section

variable {p : List Char} (h : Matched p)

include h

theorem Matched.depthAfter_prefix {q : List Char} (hq : q <+: p) (depth : Nat) :
    depthAfter depth q + q.count ')' = depth + q.count '(' :=
  depthAfter_add_count fun q' hq' => Nat.le_add_left_of_le (h.opened q' (hq'.trans hq))

/-- **Matched parentheses are balanced** for the scanner. -/
theorem Matched.balanced : Balanced p where
  depth depth := Nat.add_right_cancel (h.closed ▸ h.depthAfter_prefix (List.prefix_refl p) depth)
  inner mark depth hpos := uncut_of_prefixes fun q hq => by
    have hprefix : q <+: p := (List.prefix_append q [mark]).trans hq
    have hdepth := h.depthAfter_prefix hprefix depth
    have hopened := h.opened q hprefix
    omega

theorem Matched.uncut (hcommas : CommasInside p) : Uncut ',' 0 p := uncut_of_prefixes fun q hq => by
  have hdepth := h.depthAfter_prefix ((List.prefix_append q [',']).trans hq) 0
  have hopen := hcommas q hq
  omega

end

/-! ## Characters of notes -/

theorem restore_eq_self_iff {text : List Char} : restore text = text ↔ unitSeparator ∉ text := by
  refine ⟨fun h hmem => ?_, restore_eq_self⟩
  have hcomma : (',' : Char) = unitSeparator := by
    have hself := List.map_inj_left.mp (h.trans (List.map_id text).symm) _ hmem
    rwa [if_pos rfl] at hself
  exact absurd hcomma (by decide)

/-! ## Notes among directives -/

section

variable {nested : BlockParser} {t : ValueType} {d : Directive} {implied : Bool}
  (hname : Keyword.ofName? d.name = some (.note, implied))

include hname

theorem step_of_note : d.step nested t = .note d.rawArgument? := by
  rw [step, hname]

theorem clears_of_note : d.clears = false := by
  rw [clears, hname]

/-- A note replaces the one before it and does nothing else. -/
theorem apply_of_note (c : Constraint) :
    c.apply nested t d = { c with note := d.rawArgument?.map String.ofList } := by
  rw [Constraint.apply, step_of_note hname]

/-- **Among other directives the note is that of the only directive that sets one.** -/
theorem note_foldl {before after : List Directive}
    (hother : ∀ e ∈ before ++ after, e.slot? ≠ some .note) {c : Constraint} (ht : c.valueType = t) :
    ((before ++ d :: after).foldl (Constraint.apply nested t) c).note =
      d.rawArgument?.map String.ofList := by
  have hnone : ∀ ds : List Directive, (∀ e ∈ ds, e.slot? ≠ some .note) →
      ds.filter (·.slot? = some .note) = [] := fun ds h =>
    List.filter_eq_nil_iff.mpr fun e he => by simpa using h e he
  have hstep : d.step nested t = .note d.rawArgument? := step_of_note hname
  have hslot : d.slot? = some .note := slot?_of_note hstep
  obtain ⟨hbefore, hafter⟩ := List.forall_mem_append.mp hother
  have hcontent : ((before ++ d :: after).foldl (Constraint.apply nested t) c).content .note =
      (((before ++ d :: after).filter (·.slot? = some .note)).foldl
        (Constraint.apply nested t) c).content .note := content_foldl ht ht rfl
  rw [List.filter_append, hnone before hbefore, List.nil_append,
    List.filter_cons_of_pos (by simpa using hslot), hnone after hafter, List.foldl_cons,
    List.foldl_nil, apply_of_note hname] at hcontent
  exact Content.text.inj hcontent

end

/-! ## What is stored -/

/-- A text that may stand beside a note: it is one text between commas, and it writes no note and no
directive that clears the constraint. -/
structure BesideNote (p : List Char) : Prop where
  matched : Matched p
  commas : CommasInside p
  other : ∀ d ∈ parse? (restore p), d.slot? ≠ some .note ∧ d.clears = false

instance (p : List Char) : Decidable (BesideNote p) :=
  decidable_of_iff (Matched p ∧ CommasInside p ∧
      ∀ d ∈ parse? (restore p), d.slot? ≠ some .note ∧ d.clears = false)
    ⟨fun ⟨matched, commas, other⟩ => ⟨matched, commas, other⟩,
      fun h => ⟨h.matched, h.commas, h.other⟩⟩

theorem BesideNote.piece {p : List Char} (h : BesideNote p) : Uncut ',' 0 p ∧ depthAfter 0 p = 0 :=
  ⟨h.matched.uncut h.commas, h.matched.balanced.depth 0⟩

/-- **A block with a note among other texts** is built, and its note is that of the directive. -/
theorem note_of_block {before after : List (List Char)} {text : List Char} {d : Directive}
    {implied : Bool} (hbeside : ∀ p ∈ before ++ after, BesideNote p)
    (htext : Uncut ',' 0 text ∧ depthAfter 0 text = 0) (hd : parse? (restore text) = some d)
    (hname : Keyword.ofName? d.name = some (.note, implied))
    (hquote : unquote? (trim ([','].intercalate (before ++ text :: after))) = none) {t : ValueType}
    (ht : t ≠ .none) :
    ∃ c, parse t ([','].intercalate (before ++ text :: after)) = some c ∧
      c.note = d.rawArgument?.map String.ofList := by
  obtain ⟨first, hfirst, -, -⟩ := exists_initial? ht
  obtain ⟨hbefore, hafter⟩ := List.forall_mem_append.mp fun p hp => (hbeside p hp).piece
  have htokens := tokenize_joined
    (List.append_ne_nil_of_right_ne_nil before (List.cons_ne_nil text after))
    (List.forall_mem_append.mpr ⟨hbefore, List.forall_mem_cons.mpr ⟨htext, hafter⟩⟩) hquote
  rw [List.filterMap_append, List.filterMap_cons, hd] at htokens
  have hother : ∀ e ∈ (before.filterMap fun p => parse? (restore p)) ++
      after.filterMap fun p => parse? (restore p), e.slot? ≠ some .note ∧ e.clears = false := by
    intro e he
    rw [← List.filterMap_append] at he
    obtain ⟨p, hp, hread⟩ := List.mem_filterMap.mp he
    exact (hbeside p hp).other e hread
  obtain ⟨hclearBefore, hclearAfter⟩ := List.forall_mem_append.mp fun e he => (hother e he).2
  have hbuild := build_eq_foldl hfirst
    (List.append_ne_nil_of_right_ne_nil _ (List.cons_ne_nil d _)) (List.forall_mem_append.mpr
      ⟨hclearBefore, List.forall_mem_cons.mpr ⟨clears_of_note hname, hclearAfter⟩⟩)
  rw [parse_eq_build, htokens]
  exact ⟨_, hbuild, note_foldl hname (fun e he => (hother e he).1)
    (Constraint.valueType_of_initial? hfirst)⟩

/-- **A note is stored as it stands**, whatever characters it has between its matched parentheses
and around them, by every type that has constraints: alone, where nothing else is built, and among
other directives that neither note nor clear, unless the whole block is quoted.  Only unit
separators do not stay: each is stored as a comma. -/
theorem note_stored_restored {word : List Char} {implied : Bool}
    (hword : Keyword.ofName? word = some (.note, implied)) (negated : Bool) {text : List Char}
    (hmatched : Matched text) (hcommas : CommasInside text) (hends : VisibleEnds text)
    {t : ValueType} (ht : t ≠ .none) :
    let note := signed negated (word ++ '=' :: text)
    let stored := some (String.ofList (restore text))
    (∃ first, Constraint.initial? t = some first ∧
      parse t note = some { first with note := stored }) ∧
    (∀ before after : List (List Char), (∀ p ∈ before ++ after, BesideNote p) →
      let block := [','].intercalate (before ++ note :: after)
      unquote? (trim block) = none → ∃ c, parse t block = some c ∧ c.note = stored) ∧
    (restore text = text ↔ unitSeparator ∉ text) := by
  intro note stored
  have hhead := Keyword.isHead hword
  have huncut : Uncut ',' 0 ('=' :: text) := ⟨rfl, hmatched.uncut hcommas⟩
  -- the directive of the note, once its commas were set aside and restored
  obtain ⟨d, hd, htoken, hname, hraw⟩ : ∃ d, parse? (restore note) = some d ∧
      tokenize note = [d] ∧ Keyword.ofName? d.name = some (.note, implied) ∧
      d.rawArgument?.map String.ofList = stored := by
    have hread := parse?_keyed hhead (restore text) negated
    rw [← restore_signed hhead negated (by decide)] at hread
    refine ⟨_, hread, tokenize_keyed hhead huncut.2 negated, ?_, ?_⟩
    · exact (Keyword.ofName?_trim word).trans hword
    · show some (String.ofList (trim (restore text))) = stored
      rw [← restore_trim, trim_eq_self hends]
  refine ⟨?_, fun before after hbeside => ?_, restore_eq_self_iff⟩
  · obtain ⟨first, hfirst, -, -⟩ := exists_initial? ht
    refine ⟨first, hfirst, ?_⟩
    rw [parse_of_token hfirst htoken (clears_of_note hname), apply_of_note hname, hraw]
  · intro block hquote
    have hequals : Balanced ['='] := .of_no_paren (by decide) (by decide)
    have hbalanced := balanced_signed hhead negated (hequals.append hmatched.balanced)
    rw [← hraw]
    exact note_of_block hbeside ⟨uncut_signed hhead negated huncut, hbalanced.depth 0⟩ hd hname
      hquote ht

/-- A note with commas, quotes and an equals sign, between two other directives. -/
theorem note_stored_restored_between :
    let text := "see f(a, b) = 'c'".toList
    (Keyword.ofName? "Note".toList = some (.note, false) ∧ Matched text ∧ CommasInside text ∧
      VisibleEnds text) ∧
    (∀ p ∈ ["minLength=2".toList, "each(string|number)".toList], BesideNote p) ∧
    ∃ c, parse .array "minLength=2,!Note=see f(a, b) = 'c',each(string|number)".toList = some c ∧
      c.note = some "see f(a, b) = 'c'" := by
  intro text
  have hword : Keyword.ofName? "Note".toList = some (.note, false) := by decide +kernel
  have hmatched : Matched text := by decide
  have hcommas : CommasInside text := by decide
  have hends : VisibleEnds text := by decide
  have hbeside : ∀ p ∈ ["minLength=2".toList, "each(string|number)".toList], BesideNote p := by
    decide +kernel
  obtain ⟨-, hblock, -⟩ := note_stored_restored hword true hmatched hcommas hends
    (nofun : ValueType.array ≠ .none)
  exact ⟨⟨hword, hmatched, hcommas, hends⟩, hbeside,
    hblock ["minLength=2".toList] ["each(string|number)".toList] hbeside (by decide +kernel)⟩

/-- A note with a unit separator. -/
theorem unit_separator_noted_as_comma :
    let text := ['a', unitSeparator, 'b']
    Matched text ∧ CommasInside text ∧ VisibleEnds text ∧
    parse .boolean ("note=".toList ++ text) = some { rules := .boolean, note := some "a,b" } ∧
    String.ofList text ≠ "a,b" := by
  refine ⟨by decide, by decide, by decide, ?_, by decide⟩
  rw [parse_eq_build]
  rfl

end ShapeCheck
