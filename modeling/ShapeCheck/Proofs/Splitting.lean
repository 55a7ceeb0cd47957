import Mathlib.Data.List.Basic
import ShapeCheck.Directive.Basic
import ShapeCheck.Proofs.Trimming

/-!
# Cuts outside parentheses

All scanners of the directive language count open parentheses from left to right.  What a piece of
text does to the count, and whether it is cut at a mark, decides how it behaves inside a longer
text:

* `depthAfter` — the depth behind a text; `Uncut` — a text that is not cut from a given depth on;
* `Balanced` — a text that leaves every depth as it is and is never at depth zero inside
  parentheses;
* `exists_last_splitFrom`, `splitTopLevel_append_cons` — a text is cut as far as it goes, whatever
  is appended to it, and a mark with nothing open before it cuts;
* `splitTopLevel_joined`, `splitTopLevel_uncut`, `cutTopLevel?_append` — pieces joined by a mark are
  cut apart again;
* `intercalate_splitFrom` — the parts of any text, joined by the mark, are the text;
* `map_trim_splitTopLevel_trim` — blanks at the ends of a text are blanks at the ends of parts;
* `map_restore_splitOn_setAside` — commas set aside and restored cut where the depth is zero;
* `tokenize_eq_splitTopLevel` — so the tokens of a block without unit separators are those of its
  parts.
-/

set_option autoImplicit false

namespace ShapeCheck.Directive

open ShapeCheck.Text

/-! ## Depths -/

/-- The nesting depth behind a text. -/
def depthAfter (depth : Nat) (text : List Char) : Nat := text.foldl deepen depth

@[simp]
theorem depthAfter_nil (depth : Nat) : depthAfter depth [] = depth := rfl

@[simp]
theorem depthAfter_cons (depth : Nat) (c : Char) (text : List Char) :
    depthAfter depth (c :: text) = depthAfter (deepen depth c) text := rfl

theorem depthAfter_append (depth : Nat) (p q : List Char) :
    depthAfter depth (p ++ q) = depthAfter (depthAfter depth p) q := List.foldl_append

/-- A text is not cut at a mark when it begins at a nesting depth. -/
def Uncut (mark : Char) : Nat → List Char → Prop
  | _, [] => True
  | depth, c :: text => isCut mark depth c = false ∧ Uncut mark (deepen depth c) text

theorem uncut_append {mark : Char} : ∀ {p : List Char} {q : List Char} {depth : Nat},
    Uncut mark depth (p ++ q) ↔ Uncut mark depth p ∧ Uncut mark (depthAfter depth p) q
  | [], _, _ => ⟨fun h => ⟨trivial, h⟩, fun h => h.2⟩
  | _ :: p, _, _ => by
    simp only [List.cons_append, Uncut, uncut_append (p := p), depthAfter_cons, and_assoc]

theorem isCut_iff {mark c : Char} {depth : Nat} :
    isCut mark depth c = true ↔ c = mark ∧ c ≠ '(' ∧ c ≠ ')' ∧ depth = 0 := by
  simp [isCut, and_assoc]

theorem isCut_of_pos {mark c : Char} {depth : Nat} (h : 0 < depth) : isCut mark depth c = false := by
  have hd : (depth == 0) = false := by simp; omega
  rw [isCut, hd, Bool.and_false]

theorem isCut_of_ne {mark c : Char} {depth : Nat} (h : c ≠ mark) : isCut mark depth c = false := by
  have hb : (c == mark) = false := by simpa using h
  rw [isCut, hb]
  rfl

/-- Only a mark that is no parenthesis cuts, and it does so at depth zero. -/
theorem isCut_self {mark : Char} (h₁ : mark ≠ '(') (h₂ : mark ≠ ')') : isCut mark 0 mark = true := by
  simp [isCut, h₁, h₂]

theorem deepen_of_ne {c : Char} (h₁ : c ≠ '(') (h₂ : c ≠ ')') (depth : Nat) :
    deepen depth c = depth := by
  rw [deepen, if_neg h₁, if_neg h₂]

/-! ## Parts -/

theorem splitFrom_append {mark : Char} : ∀ {p : List Char} (q : List Char) {depth : Nat},
    Uncut mark depth p →
    splitFrom mark depth (p ++ q) = (splitFrom mark (depthAfter depth p) q).modifyHead (p ++ ·)
  | [], q, depth, _ => by
    have hid : (fun x : List Char => [] ++ x) = id := rfl
    rw [List.nil_append, depthAfter_nil, hid]
    cases splitFrom mark depth q <;> rfl
  | c :: p, q, depth, h => by
    rw [List.cons_append, splitFrom, h.1, if_neg Bool.false_ne_true, splitFrom_append q h.2,
      depthAfter_cons]
    cases splitFrom mark (depthAfter (deepen depth c) p) q <;> rfl

theorem splitFrom_of_uncut {mark : Char} {depth : Nat} {p : List Char} (h : Uncut mark depth p) :
    splitFrom mark depth p = [p] := by
  have happend := splitFrom_append [] h
  rw [List.append_nil] at happend
  rw [happend, splitFrom, List.modifyHead_cons, List.append_nil]

theorem intercalate_cons {mark : Char} (p : List Char) : ∀ {ps : List (List Char)}, ps ≠ [] →
    [mark].intercalate (p :: ps) = p ++ mark :: [mark].intercalate ps
  | [], hne => absurd rfl hne
  | q :: ps, _ => by rw [List.intercalate_cons_cons, List.append_assoc, List.singleton_append]

theorem intercalate_modifyHead {mark : Char} (c : Char) : ∀ {ps : List (List Char)}, ps ≠ [] →
    [mark].intercalate (ps.modifyHead (c :: ·)) = c :: [mark].intercalate ps
  | [], hne => absurd rfl hne
  | [p], _ => by simp
  | p :: q :: ps, _ => by simp

theorem splitFrom_ne_nil {mark : Char} {depth : Nat} : ∀ {text : List Char},
    splitFrom mark depth text ≠ []
  | [] => by simp [splitFrom]
  | c :: text => by
    unfold splitFrom
    split
    · simp
    · simp [splitFrom_ne_nil]

/-- **The parts of a text joined by the mark are the text**, whatever its parentheses are. -/
theorem intercalate_splitFrom (mark : Char) : ∀ (depth : Nat) (text : List Char),
    [mark].intercalate (splitFrom mark depth text) = text
  | _, [] => by simp [splitFrom]
  | depth, c :: text => by
    unfold splitFrom
    split
    · rename_i hcut
      have hmark : c = mark := (isCut_iff.mp hcut).1
      rw [intercalate_cons [] splitFrom_ne_nil, intercalate_splitFrom mark 0 text, hmark]
      rfl
    · rw [intercalate_modifyHead c splitFrom_ne_nil,
        intercalate_splitFrom mark (deepen depth c) text]

theorem subset_intercalate {mark : Char} {p : List Char} : ∀ {ps : List (List Char)}, p ∈ ps →
    p ⊆ [mark].intercalate ps
  | [q], h => by
    rw [List.mem_singleton.mp h, List.intercalate_singleton]
    exact List.Subset.refl q
  | q :: q' :: ps, h => by
    rw [intercalate_cons q (List.cons_ne_nil q' ps)]
    rcases List.mem_cons.mp h with rfl | h
    · exact List.subset_append_left _ _
    · intro c hc
      exact List.mem_append_right q (List.mem_cons_of_mem mark (subset_intercalate h hc))

theorem mem_of_mem_splitFrom {mark : Char} {depth : Nat} {text p : List Char}
    (hp : p ∈ splitFrom mark depth text) {c : Char} (hc : c ∈ p) : c ∈ text := by
  rw [← intercalate_splitFrom mark depth text]
  exact subset_intercalate hp hc

/-! ## Going on behind a text -/

theorem deepen_of_isCut {mark c : Char} {depth : Nat} (h : isCut mark depth c = true) :
    deepen depth c = 0 := by
  obtain ⟨-, hopen, hclose, hzero⟩ := isCut_iff.mp h
  rw [deepen_of_ne hopen hclose, hzero]

/-- **Whatever is appended to a text** goes on from the depth behind the text: its first part joins
the last one of the text, and the parts before that stay. -/
theorem exists_last_splitFrom (mark : Char) : ∀ (text : List Char) (depth : Nat),
    ∃ (parts : List (List Char)) (last : List Char), splitFrom mark depth text = parts ++ [last] ∧
      ∀ q, splitFrom mark depth (text ++ q) =
        parts ++ (splitFrom mark (depthAfter depth text) q).modifyHead (last ++ ·)
  | [], depth => by
    refine ⟨[], [], rfl, fun q => ?_⟩
    exact splitFrom_append (p := []) q trivial
  | c :: text, depth => by
    simp only [List.cons_append, splitFrom, depthAfter_cons]
    split
    · rename_i hcut
      obtain ⟨parts, last, htext, hjoin⟩ := exists_last_splitFrom mark text 0
      refine ⟨[] :: parts, last, by rw [htext, List.cons_append], fun q => ?_⟩
      rw [hjoin, deepen_of_isCut hcut, List.cons_append]
    · obtain ⟨parts, last, htext, hjoin⟩ := exists_last_splitFrom mark text (deepen depth c)
      cases parts with
      | nil =>
        refine ⟨[], c :: last, by rw [htext]; rfl, fun q => ?_⟩
        rw [hjoin, List.nil_append, List.nil_append]
        cases splitFrom mark (depthAfter (deepen depth c) text) q <;> rfl
      | cons p parts =>
        exact ⟨(c :: p) :: parts, last, by rw [htext]; rfl, fun q => by rw [hjoin]; rfl⟩

/-- **A mark with nothing open before it cuts**: the parts are those of the text before it and those
of the text behind it, whatever parentheses these have. -/
theorem splitTopLevel_append_cons {mark : Char} (h₁ : mark ≠ '(') (h₂ : mark ≠ ')')
    {text : List Char} (h : depthAfter 0 text = 0) (q : List Char) :
    splitTopLevel mark (text ++ mark :: q) = splitTopLevel mark text ++ splitTopLevel mark q := by
  obtain ⟨parts, last, htext, hjoin⟩ := exists_last_splitFrom mark text 0
  rw [splitTopLevel, hjoin, h, splitFrom, isCut_self h₁ h₂, if_pos rfl, List.modifyHead_cons,
    List.append_nil, splitTopLevel, htext, splitTopLevel, List.append_assoc, List.singleton_append]

/-! ## Joined pieces -/

theorem splitTopLevel_append_mark {mark : Char} (h₁ : mark ≠ '(') (h₂ : mark ≠ ')')
    {p : List Char} (hp : Uncut mark 0 p) (hdepth : depthAfter 0 p = 0) (q : List Char) :
    splitTopLevel mark (p ++ mark :: q) = p :: splitTopLevel mark q := by
  rw [splitTopLevel_append_cons h₁ h₂ hdepth, splitTopLevel, splitFrom_of_uncut hp,
    List.singleton_append]

/-- **The parts of joined texts** are those of the texts, if nothing is open before a mark. -/
theorem splitTopLevel_joined {mark : Char} (h₁ : mark ≠ '(') (h₂ : mark ≠ ')') :
    ∀ {texts : List (List Char)}, texts ≠ [] → (∀ p ∈ texts.dropLast, depthAfter 0 p = 0) →
    splitTopLevel mark ([mark].intercalate texts) = texts.flatMap (splitTopLevel mark)
  | [], hne, _ => absurd rfl hne
  | [p], _, _ => by simp
  | p :: p' :: texts, _, h => by
    rw [List.dropLast_cons_cons] at h
    obtain ⟨hp, htexts⟩ := List.forall_mem_cons.mp h
    have ih := splitTopLevel_joined h₁ h₂ (List.cons_ne_nil p' texts) htexts
    rw [intercalate_cons p (List.cons_ne_nil p' texts), splitTopLevel_append_cons h₁ h₂ hp, ih]
    rfl

/-- **Uncut pieces joined by a mark are its parts again**, if each but the last one closes its
parentheses. -/
theorem splitTopLevel_uncut {mark : Char} (h₁ : mark ≠ '(') (h₂ : mark ≠ ')')
    {ps : List (List Char)} (hne : ps ≠ []) (huncut : ∀ p ∈ ps, Uncut mark 0 p)
    (hclosed : ∀ p ∈ ps.dropLast, depthAfter 0 p = 0) :
    splitTopLevel mark ([mark].intercalate ps) = ps := by
  have hsingle : ∀ p ∈ ps, splitTopLevel mark p = [p] := fun p hp =>
    splitFrom_of_uncut (huncut p hp)
  rw [splitTopLevel_joined h₁ h₂ hne hclosed, List.flatMap_congr hsingle, List.flatMap_singleton']

/-- Pieces joined by a mark are its parts again, if each is uncut and closes its parentheses. -/
theorem splitTopLevel_intercalate {mark : Char} (h₁ : mark ≠ '(') (h₂ : mark ≠ ')')
    {ps : List (List Char)} (hne : ps ≠ [])
    (h : ∀ p ∈ ps, Uncut mark 0 p ∧ depthAfter 0 p = 0) :
    splitTopLevel mark ([mark].intercalate ps) = ps :=
  splitTopLevel_uncut h₁ h₂ hne (fun p hp => (h p hp).1)
    fun p hp => (h p (List.dropLast_subset ps hp)).2

theorem cutFrom?_append {mark : Char} : ∀ {p : List Char} (q : List Char) {depth : Nat},
    Uncut mark depth p →
    cutFrom? mark depth (p ++ q) =
      (cutFrom? mark (depthAfter depth p) q).map fun (front, back) => (p ++ front, back)
  | [], q, depth, _ => by
    rw [List.nil_append, depthAfter_nil]
    cases cutFrom? mark depth q <;> rfl
  | c :: p, q, depth, h => by
    rw [List.cons_append, cutFrom?, h.1, if_neg Bool.false_ne_true, cutFrom?_append q h.2,
      depthAfter_cons, Option.map_map]
    rfl

theorem cutTopLevel?_of_uncut {mark : Char} {p : List Char} (h : Uncut mark 0 p) :
    cutTopLevel? mark p = none := by
  have happend := cutFrom?_append [] h
  rw [List.append_nil] at happend
  rw [cutTopLevel?, happend]
  rfl

/-- The first cut lies behind a piece that is not cut and closes its parentheses. -/
theorem cutTopLevel?_append {mark : Char} (h₁ : mark ≠ '(') (h₂ : mark ≠ ')') {p : List Char}
    (hp : Uncut mark 0 p) (hdepth : depthAfter 0 p = 0) (q : List Char) :
    cutTopLevel? mark (p ++ mark :: q) = some (p, q) := by
  rw [cutTopLevel?, cutFrom?_append _ hp, hdepth, cutFrom?, isCut_self h₁ h₂, if_pos rfl,
    Option.map_some]
  show some (p ++ [], q) = some (p, q)
  rw [List.append_nil]

/-! ## Balanced pieces -/

/-- A text leaves every depth as it is, and inside parentheses it is never back at depth zero. -/
structure Balanced (p : List Char) : Prop where
  depth : ∀ depth, depthAfter depth p = depth
  inner : ∀ mark depth, 0 < depth → Uncut mark depth p

namespace Balanced

theorem nil : Balanced [] := ⟨fun _ => rfl, fun _ _ _ => trivial⟩

theorem append {p q : List Char} (hp : Balanced p) (hq : Balanced q) : Balanced (p ++ q) := by
  refine ⟨fun depth => ?_, fun mark depth h => ?_⟩
  · rw [depthAfter_append, hp.depth, hq.depth]
  · rw [uncut_append, hp.depth]
    exact ⟨hp.inner mark depth h, hq.inner mark depth h⟩

theorem of_no_paren : ∀ {p : List Char}, '(' ∉ p → ')' ∉ p → Balanced p
  | [], _, _ => nil
  | c :: p, hopen, hclose => by
    rw [List.mem_cons, not_or] at hopen hclose
    have hc : ∀ depth, deepen depth c = depth := deepen_of_ne (Ne.symm hopen.1) (Ne.symm hclose.1)
    have hp : Balanced p := of_no_paren hopen.2 hclose.2
    refine ⟨fun depth => ?_, fun mark depth hpos => ⟨isCut_of_pos hpos, ?_⟩⟩
    · rw [depthAfter_cons, hc, hp.depth]
    · rw [hc]
      exact hp.inner mark depth hpos

theorem paren {p : List Char} (hp : Balanced p) : Balanced ('(' :: (p ++ [')'])) := by
  refine ⟨fun depth => ?_, fun mark depth hpos => ⟨isCut_of_pos hpos, ?_⟩⟩
  · rw [depthAfter_cons, depthAfter_append, hp.depth]
    rfl
  · show Uncut mark (depth + 1) (p ++ [')'])
    rw [uncut_append, hp.depth]
    exact ⟨hp.inner mark _ (Nat.succ_pos depth), isCut_of_pos (Nat.succ_pos depth), trivial⟩

theorem uncut_paren {p : List Char} (hp : Balanced p) (mark : Char) :
    Uncut mark 0 ('(' :: (p ++ [')'])) := by
  have hopen : isCut mark 0 '(' = false := by simp [isCut]
  refine ⟨hopen, ?_⟩
  show Uncut mark 1 (p ++ [')'])
  rw [uncut_append, hp.depth]
  exact ⟨hp.inner mark 1 Nat.one_pos, isCut_of_pos Nat.one_pos, trivial⟩

end Balanced

theorem uncut_of_not_mem {mark : Char} : ∀ {p : List Char} {depth : Nat}, mark ∉ p →
    Uncut mark depth p
  | [], _, _ => trivial
  | c :: p, depth, h => by
    rw [List.mem_cons, not_or] at h
    exact ⟨isCut_of_ne (Ne.symm h.1), uncut_of_not_mem h.2⟩

/-! ## Blanks at the ends -/

theorem exists_splitFrom_append {mark : Char} {q : List Char} (hq : mark ∉ q) (text : List Char)
    (depth : Nat) : ∃ (parts : List (List Char)) (last : List Char),
      splitFrom mark depth text = parts ++ [last] ∧
        splitFrom mark depth (text ++ q) = parts ++ [last ++ q] := by
  obtain ⟨parts, last, htext, hjoin⟩ := exists_last_splitFrom mark text depth
  refine ⟨parts, last, htext, ?_⟩
  rw [hjoin, splitFrom_of_uncut (uncut_of_not_mem hq), List.modifyHead_cons]

/-- **Trimming a text trims its first and its last part** and leaves the others as they are. -/
theorem map_trim_splitTopLevel_trim {mark : Char} (hmark : isBlank mark = false)
    (text : List Char) :
    (splitTopLevel mark (trim text)).map trim = (splitTopLevel mark text).map trim := by
  obtain ⟨front, back, hfront, hback, htext⟩ := exists_blanks_around text
  have hfree : ∀ {blanks : List Char} {c : Char}, (∀ d ∈ blanks, isBlank d = true) →
      isBlank c = false → c ∉ blanks := fun h hc hmem => isBlank_ne (h _ hmem) hc rfl
  have hbalanced : Balanced front :=
    .of_no_paren (hfree hfront (by decide)) (hfree hfront (by decide))
  have hstart : (splitTopLevel mark (front ++ (trim text ++ back))).map trim =
      (splitTopLevel mark (trim text ++ back)).map trim := by
    rw [splitTopLevel, splitFrom_append _ (uncut_of_not_mem (hfree hfront hmark)),
      hbalanced.depth, splitTopLevel]
    cases splitFrom mark 0 (trim text ++ back) with
    | nil => rfl
    | cons p parts =>
      rw [List.modifyHead_cons, List.map_cons, List.map_cons, trim_blanks_append hfront]
  have hend : (splitTopLevel mark (trim text ++ back)).map trim =
      (splitTopLevel mark (trim text)).map trim := by
    obtain ⟨parts, last, hparts, happend⟩ :=
      exists_splitFrom_append (hfree hback hmark) (trim text) 0
    rw [splitTopLevel, splitTopLevel, hparts, happend]
    simp only [List.map_append, List.map_cons, List.map_nil, trim_append_blanks hback]
  conv_rhs => rw [htext, List.append_assoc]
  rw [hstart, hend]

/-- Trimming a text makes no difference to what is read of its parts up to blanks at their ends. -/
theorem filterMap_splitTopLevel_trim {β : Type} {mark : Char} (hmark : isBlank mark = false)
    {read : List Char → Option β} (hread : ∀ part, read (trim part) = read part)
    (text : List Char) :
    (splitTopLevel mark (trim text)).filterMap read = (splitTopLevel mark text).filterMap read := by
  have hparts : ∀ parts : List (List Char),
      (parts.map trim).filterMap read = parts.filterMap read := fun parts => by
    rw [List.filterMap_map]
    exact List.filterMap_congr fun part _ => hread part
  rw [← hparts, map_trim_splitTopLevel_trim hmark, hparts]

/-! ## Commas that are set aside -/

theorem splitOn_comma_cons (c : Char) (text : List Char) :
    (c :: text).splitOn ',' =
      if c = ',' then [] :: text.splitOn ',' else (text.splitOn ',').modifyHead (c :: ·) := by
  simp only [List.splitOn_eq_splitOnP, List.splitOnP_cons_eq_if_modifyHead, beq_iff_eq]

theorem map_restore_modifyHead (c : Char) (parts : List (List Char)) :
    (parts.modifyHead (c :: ·)).map restore =
      (parts.map restore).modifyHead ((if c = unitSeparator then ',' else c) :: ·) := by
  cases parts <;> rfl

/-- **Setting commas aside, cutting at every comma and restoring all unit separators cuts at depth
zero only.**  The unit separators of the text itself are restored with the others. -/
theorem map_restore_splitOn_setAside : ∀ (depth : Nat) (text : List Char),
    ((setAside depth text).splitOn ',').map restore = (splitFrom ',' depth text).map restore
  | _, [] => rfl
  | depth, c :: text => by
    have ih := map_restore_splitOn_setAside (deepen depth c) text
    have hseparator : unitSeparator ≠ ',' := by decide
    by_cases hc : c = ','
    · subst hc
      rcases Nat.eq_zero_or_pos depth with rfl | hpos
      · -- a comma at depth zero cuts
        have hkept : setAside 0 (',' :: text) = ',' :: setAside 0 text := rfl
        have hcut : splitFrom ',' 0 (',' :: text) = [] :: splitFrom ',' 0 text := rfl
        rw [hkept, hcut, splitOn_comma_cons, if_pos rfl, List.map_cons, List.map_cons]
        exact congrArg (restore [] :: ·) ih
      · -- a comma inside parentheses is set aside and comes back
        have haside : setAside depth (',' :: text) =
            unitSeparator :: setAside (deepen depth ',') text := by
          rw [setAside, if_pos ⟨rfl, hpos⟩]
        rw [haside, splitOn_comma_cons, if_neg hseparator, map_restore_modifyHead, if_pos rfl, ih,
          splitFrom, isCut_of_pos hpos, if_neg Bool.false_ne_true, map_restore_modifyHead,
          if_neg hseparator.symm]
    · have hkept : setAside depth (c :: text) = c :: setAside (deepen depth c) text := by
        rw [setAside, if_neg fun hand => hc hand.1]
      rw [hkept, splitOn_comma_cons, if_neg hc, map_restore_modifyHead, ih, splitFrom,
        isCut_of_ne hc, if_neg Bool.false_ne_true, map_restore_modifyHead]

/-- Restoring does not see which commas were set aside. -/
theorem restore_of_setAside : ∀ (depth : Nat) (text : List Char),
    restore (setAside depth text) = restore text
  | _, [] => rfl
  | depth, c :: text => by
    have ih := restore_of_setAside (deepen depth c) text
    unfold restore at ih ⊢
    rw [setAside, List.map_cons, List.map_cons, ih]
    split
    · rename_i haside
      rw [haside.1]
      rfl
    · rfl

theorem restore_append (p q : List Char) : restore (p ++ q) = restore p ++ restore q :=
  List.map_append

theorem restore_eq_nil_iff {text : List Char} : restore text = [] ↔ text = [] :=
  List.map_eq_nil_iff

theorem restore_eq_self {text : List Char} (h : unitSeparator ∉ text) : restore text = text := by
  have hkept : ∀ c ∈ text, (if c = unitSeparator then ',' else c) = c := by
    intro c hc
    rw [if_neg]
    rintro rfl
    exact h hc
  rw [restore, List.map_congr_left hkept, List.map_id']

/-- A unit separator is as visible as a comma. -/
theorem restore_trim (text : List Char) : restore (trim text) = trim (restore text) := by
  have hblank : (isBlank ∘ fun c => if c = unitSeparator then ',' else c) = isBlank := by
    funext c
    show isBlank (if c = unitSeparator then ',' else c) = isBlank c
    split
    · rename_i hc
      rw [hc]
      rfl
    · rfl
  have hstart : ∀ t, restore (trimStart t) = trimStart (restore t) := fun t => by
    rw [trimStart, restore, restore, trimStart, List.dropWhile_map, hblank]
  have hend : ∀ t, restore (trimEnd t) = trimEnd (restore t) := fun t => by
    have hreverse : ∀ t : List Char, (restore t).reverse = restore t.reverse :=
      fun t => List.map_reverse.symm
    show restore (trimStart t.reverse).reverse = (trimStart (restore t).reverse).reverse
    rw [hreverse, ← hstart, hreverse]
  rw [trim, hend, hstart, trim]

theorem deepen_restored (depth : Nat) (c : Char) :
    deepen depth (if c = unitSeparator then ',' else c) = deepen depth c := by
  split
  · rename_i hc
    rw [hc]
    rfl
  · rfl

theorem depthAfter_restore : ∀ (depth : Nat) (text : List Char),
    depthAfter depth (restore text) = depthAfter depth text
  | _, [] => rfl
  | depth, c :: text => by
    have ih := depthAfter_restore (deepen depth c) text
    unfold restore at ih ⊢
    rw [List.map_cons, depthAfter_cons, deepen_restored, ih, depthAfter_cons]

theorem uncut_restore {mark : Char} : ∀ {text : List Char} {depth : Nat},
    (∀ mark, Uncut mark depth text) → Uncut mark depth (restore text)
  | [], _, _ => trivial
  | c :: text, depth, h => by
    have ih : Uncut mark (deepen depth c) (restore text) := uncut_restore fun m => (h m).2
    unfold restore at ih ⊢
    rw [List.map_cons]
    refine ⟨?_, by rwa [deepen_restored]⟩
    split
    · rename_i hc
      -- the separator itself would be cut at depth zero
      have hpos : 0 < depth := by
        by_contra hzero
        have hcut := (h c).1
        rw [hc, Nat.eq_zero_of_not_pos hzero, isCut_self (by decide) (by decide)] at hcut
        cases hcut
      exact isCut_of_pos hpos
    · exact (h mark).1

theorem Balanced.restore {p : List Char} (hp : Balanced p) : Balanced (restore p) where
  depth depth := by rw [depthAfter_restore, hp.depth]
  inner _ depth hpos := uncut_restore fun m => hp.inner m depth hpos

/-- **Without unit separators in the text, the parts are those of the plain splitter.** -/
theorem map_restore_splitOn {text : List Char} (depth : Nat) (h : unitSeparator ∉ text) :
    ((setAside depth text).splitOn ',').map restore = splitFrom ',' depth text := by
  have hkept : ∀ p ∈ splitFrom ',' depth text, restore p = p := fun p hp =>
    restore_eq_self fun hc => h (mem_of_mem_splitFrom hp hc)
  rw [map_restore_splitOn_setAside, List.map_congr_left hkept, List.map_id']

theorem restore_setAside {text : List Char} (depth : Nat) (h : unitSeparator ∉ text) :
    restore (setAside depth text) = text := by
  rw [restore_of_setAside, restore_eq_self h]

/-- The commas that are not set aside are those at depth zero. -/
theorem getElem?_setAside : ∀ {text : List Char} {depth i : Nat},
    (setAside depth text)[i]? = some ',' ↔
      text[i]? = some ',' ∧ depthAfter depth (text.take i) = 0
  | [], _, _ => by simp [setAside]
  | c :: text, depth, 0 => by
    have hseparator : unitSeparator ≠ ',' := by decide
    rw [setAside, List.getElem?_cons_zero, List.getElem?_cons_zero, Option.some_inj,
      Option.some_inj, List.take_zero, depthAfter_nil]
    split
    · rename_i haside
      have hpos : depth ≠ 0 := Nat.pos_iff_ne_zero.mp haside.2
      simp [hseparator, hpos]
    · rename_i hkept
      have hzero : c = ',' → depth = 0 := fun hc => by
        by_contra hne
        exact hkept ⟨hc, Nat.pos_of_ne_zero hne⟩
      exact ⟨fun hc => ⟨hc, hzero hc⟩, fun hc => hc.1⟩
  | c :: text, depth, i + 1 => by
    simp [setAside, getElem?_setAside]

/-! ## Tokens -/

theorem parse?_trim (text : List Char) : parse? (trim text) = parse? text := by
  rw [parse?, trim_trim, parse?]

theorem unitSeparator_not_mem_inner {block : List Char} (h : unitSeparator ∉ block) :
    unitSeparator ∉ stripQuotes (trim block) := fun hmem =>
  h ((trim_sublist block).subset ((stripQuotes_sublist _).subset hmem))

/-- The tokens of a block are the directives of its parts between commas. -/
theorem tokenize_eq_filterMap {block : List Char} (h : unitSeparator ∉ block) :
    tokenize block = (splitTopLevel ',' (stripQuotes (trim block))).filterMap parse? := by
  rw [tokenize]
  split
  · -- a blank block has one blank part, which writes no directive
    rename_i hnil
    rw [← filterMap_splitTopLevel_trim (by decide) parse?_trim, List.isEmpty_iff.mp hnil]
    rfl
  · rw [splitTopLevel, ← map_restore_splitOn 0 (unitSeparator_not_mem_inner h), List.filterMap_map]
    rfl

/-- The tokens of a block that is not quoted are the directives of its parts between commas. -/
theorem tokenize_eq_parts {block : List Char} (hseparator : unitSeparator ∉ block)
    (hends : VisibleEnds block) (hquote : ∀ c, block.head? = some c → c ≠ '"' ∧ c ≠ '\'') :
    tokenize block = (splitTopLevel ',' block).filterMap parse? := by
  rw [tokenize_eq_filterMap hseparator, trim_eq_self hends, stripQuotes_eq_self hquote]

/-- **A block is cut where the plain splitter cuts it.**  A block without unit separators has the
tokens that the parts of its unquoted text write, whatever its parentheses are: setting commas aside
keeps the commas at depth zero, cutting at these gives the same parts, and neither the parts, joined
by commas, nor the text set aside, restored, differ from the text. -/
theorem tokenize_eq_splitTopLevel {block : List Char} (h : unitSeparator ∉ block) :
    let inner := stripQuotes (trim block)
    tokenize block = (splitTopLevel ',' inner).filterMap parse? ∧
      ((setAside 0 inner).splitOn ',').map restore = splitTopLevel ',' inner ∧
      [','].intercalate (splitTopLevel ',' inner) = inner ∧
      restore (setAside 0 inner) = inner ∧
      ∀ i, (setAside 0 inner)[i]? = some ',' ↔
        inner[i]? = some ',' ∧ depthAfter 0 (inner.take i) = 0 := by
  intro inner
  have hinner : unitSeparator ∉ inner := unitSeparator_not_mem_inner h
  refine ⟨tokenize_eq_filterMap h, map_restore_splitOn 0 hinner, ?_, restore_setAside 0 hinner, ?_⟩
  · exact intercalate_splitFrom ',' 0 inner
  · intro i
    exact getElem?_setAside

/-- A stray parenthesis does not shield the comma behind it, and an unclosed one shields all that
follow. -/
theorem tokenize_unbalanced :
    unitSeparator ∉ "'a(b,c)),d(e,f'".toList ∧
      (tokenize "'a(b,c)),d(e,f'".toList).map (·.text) = ["a(b,c))".toList, "d(e,f".toList] := by
  have h : unitSeparator ∉ "'a(b,c)),d(e,f'".toList := by decide +kernel
  refine ⟨h, ?_⟩
  obtain ⟨htokens, -⟩ := tokenize_eq_splitTopLevel h
  rw [htokens]
  decide +kernel

end ShapeCheck.Directive
