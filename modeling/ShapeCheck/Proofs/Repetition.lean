import ShapeCheck.Proofs.Clearing
import ShapeCheck.Proofs.Contradictions
import ShapeCheck.Proofs.ElementEntries
import ShapeCheck.Proofs.Quoting
import ShapeCheck.Proofs.RenderedArrays

/-!
# Repeated directives

Some directives put something in the place of what their slot holds, others add names or constraints
for elements to it.  `Content.Update` has both kinds.

* `Content.Update.run_andThen`, `Content.Update.run_run` — updates in a row make one update, and an
  update that is made twice is the same as one that is made once;
* `exists_update_foldl` — a list of directives makes one update of each slot;
* `foldl_repeat` — so going through a list of directives again changes nothing;
* `repetition_adds_nothing` — what follows for lists of directives and for blocks of text.
-/

set_option autoImplicit false

namespace ShapeCheck

open Directive Text

/-! ## Names and blocks that are added again -/

theorem addNames_append (known a b : List String) :
    addNames known (a ++ b) = addNames (addNames known a) b :=
  List.foldl_append

theorem addNames_of_subset {known : List String} : ∀ {new : List String},
    (∀ name ∈ new, name ∈ known) → addNames known new = known
  | [], _ => rfl
  | name :: new, h => by
    obtain ⟨hname, hnew⟩ := List.forall_mem_cons.mp h
    have hknown : known.contains name = true := List.contains_iff_mem.mpr hname
    rw [addNames, List.foldl_cons, if_pos hknown]
    exact addNames_of_subset hnew

theorem addNames_twice (known new : List String) :
    addNames (addNames known new) new = addNames known new :=
  addNames_of_subset fun _ hname => mem_addNames.mpr (Or.inr hname)

namespace ByType

variable {nested : BlockParser} {t : ValueType}

/-- **The entry for a type after blocks were set**: they leave what was there, or it is the same
whatever was there. -/
theorem get?_setBlocks_cases (nested : BlockParser) (t : ValueType) :
    ∀ blocks : List ElementBlock,
      (∀ m : ByType Constraint, (m.setBlocks nested blocks).get? t = m.get? t) ∨
        ∃ entry, ∀ m : ByType Constraint, (m.setBlocks nested blocks).get? t = entry
  | [] => Or.inl fun _ => rfl
  | b :: blocks => by
    have hcons : ∀ m : ByType Constraint, m.setBlocks nested (b :: blocks) =
        (m.setBlocks nested [b]).setBlocks nested blocks := fun m => setBlocks_append [b] blocks
    rcases get?_setBlocks_cases nested t blocks with hkeep | ⟨entry, hentry⟩
    · by_cases hb : t = b.valueType ∧ t ≠ .none
      · refine Or.inr ⟨b.constraint? nested, fun m => ?_⟩
        rw [hcons, hkeep, get?_setBlock, if_pos hb]
      · refine Or.inl fun m => ?_
        rw [hcons, hkeep, get?_setBlock, if_neg hb]
    · refine Or.inr ⟨entry, fun m => ?_⟩
      rw [hcons, hentry]

theorem setBlocks_twice (m : ByType Constraint) (blocks : List ElementBlock) :
    (m.setBlocks nested blocks).setBlocks nested blocks = m.setBlocks nested blocks := by
  refine ext_get? fun t => ?_
  rcases get?_setBlocks_cases nested t blocks with hkeep | ⟨entry, hentry⟩
  · rw [hkeep]
  · rw [hentry, hentry]

end ByType

/-! ## Updates in a row -/

namespace Content.Update

/-- One update and then another one. -/
def andThen (nested : BlockParser) : Content.Update → Content.Update → Content.Update
  | _, .put content => .put content
  | .put content, u => .put (u.run nested content)
  | .extend new blocks, .extend new' blocks' => .extend (new ++ new') (blocks ++ blocks')

variable (nested : BlockParser)

theorem run_andThen (u u' : Content.Update) (content : Content) :
    (u.andThen nested u').run nested content = u'.run nested (u.run nested content) := by
  cases u' with
  | put content' => cases u <;> rfl
  | extend new' blocks' =>
    cases u with
    | put content' => rfl
    | extend new blocks =>
      cases content with
      | names known => exact congrArg Content.names (addNames_append known new new')
      | elements known =>
        exact congrArg Content.elements (ByType.setBlocks_append (m := known) blocks blocks')
      | _ => rfl

/-- **An update that is made twice is made once.** -/
theorem run_run (u : Content.Update) (content : Content) :
    u.run nested (u.run nested content) = u.run nested content := by
  cases u with
  | put content' => rfl
  | extend new blocks =>
    cases content with
    | names known => exact congrArg Content.names (addNames_twice known new)
    | elements known => exact congrArg Content.elements (ByType.setBlocks_twice known blocks)
    | _ => rfl

end Content.Update

/-! ## Lists of directives -/

theorem Constraint.Alike.eq_of_badName {c c' : Constraint} (h : c.Alike c')
    (hbad : c.badName = c'.badName) : c = c' := by
  obtain ⟨hrules, hnote⟩ := h
  cases c
  cases c'
  simp_all

section

variable (nested : BlockParser) (t : ValueType)

/-- **A list of directives makes one update of a slot**, whatever the constraint for the type is. -/
theorem exists_update_foldl (slot : Slot) : ∀ ds : List Directive,
    ∃ u : Content.Update, ∀ c : Constraint, c.valueType = t →
      (ds.foldl (Constraint.apply nested t) c).content slot = u.run nested (c.content slot)
  | [] => ⟨.extend [] [], fun _ _ => (Content.Update.run_extend_nil nested _).symm⟩
  | d :: ds => by
    obtain ⟨u, hu⟩ := exists_update_apply nested t d slot
    obtain ⟨u', hu'⟩ := exists_update_foldl slot ds
    refine ⟨u.andThen nested u', fun c ht => ?_⟩
    rw [List.foldl_cons, hu' _ ((valueType_apply nested t c d).trans ht), hu c ht,
      Content.Update.run_andThen]

variable {ds : List Directive} (hclear : ∀ d ∈ ds, d.clears = false)

include hclear

/-- **Directives that have been gone through change nothing when they come again**: rules and note
are updated once, and the first directive that is not understood is remembered already. -/
theorem foldl_repeat {c : Constraint} (ht : c.valueType = t) :
    ds.foldl (Constraint.apply nested t) (ds.foldl (Constraint.apply nested t) c) =
      ds.foldl (Constraint.apply nested t) c := by
  have hbuilt : (ds.foldl (Constraint.apply nested t) c).valueType = t :=
    (valueType_foldl nested t ds c).trans ht
  have halike :
      (ds.foldl (Constraint.apply nested t) (ds.foldl (Constraint.apply nested t) c)).Alike
        (ds.foldl (Constraint.apply nested t) c) := by
    refine .of_content (valueType_foldl nested t ds _) fun slot => ?_
    obtain ⟨u, hu⟩ := exists_update_foldl nested t slot ds
    rw [hu _ hbuilt, hu c ht, Content.Update.run_run]
  have hbad :
      (ds.foldl (Constraint.apply nested t) (ds.foldl (Constraint.apply nested t) c)).badName =
        (ds.foldl (Constraint.apply nested t) c).badName := by
    simp only [badName_foldl _ hclear]
    cases c.badName <;> cases firstRejected? t ds <;> rfl
  exact halike.eq_of_badName hbad

end

/-- **A list of directives that is repeated at once may be left out**, wherever it stands. -/
theorem buildWith_repeat (nested : BlockParser) (t : ValueType) (before ds after : List Directive) :
    buildWith nested t (before ++ (ds ++ ds) ++ after) =
      buildWith nested t (before ++ ds ++ after) := by
  have hempty : (before ++ (ds ++ ds) ++ after).isEmpty = (before ++ ds ++ after).isEmpty := by
    cases before <;> cases ds <;> simp
  have hany : (before ++ (ds ++ ds) ++ after).any Directive.clears =
      (before ++ ds ++ after).any Directive.clears := by
    simp
  rw [buildWith_eq, buildWith_eq, hempty, hany]
  split
  · rfl
  · cases hfirst : Constraint.initial? t with
    | none => rfl
    | some first =>
      simp only [Option.map_some]
      split
      · rfl
      · rename_i hclear
        have hds : ∀ d ∈ ds, d.clears = false := fun d hd => by
          simp only [List.any_append, Bool.or_eq_true, List.any_eq_true, not_or, not_exists,
            not_and, Bool.not_eq_true] at hclear
          exact hclear.1.2 d hd
        have ht : (before.foldl (Constraint.apply nested t) first).valueType = t :=
          (valueType_foldl nested t before first).trans (Constraint.valueType_of_initial? hfirst)
        simp only [List.foldl_append, foldl_repeat nested t hds ht]

/-- **Repeated directives add nothing.**  A list of directives and the same list once more build
exactly what the list builds: the same rules at every depth, the same note and the same memory of
what was not understood.  So a list may be repeated any number of times, and a part of a list may be
repeated at once wherever it stands.  A block of text that leaves no parenthesis open may be written
again behind a comma, if no quotes are taken away from either text: it is parsed to the same
constraint, and checks against it have the same verdict and ask a sampler for the same. -/
theorem repetition_adds_nothing :
    (∀ (t : ValueType) (ds : List Directive), build t (ds ++ ds) = build t ds) ∧
    (∀ (t : ValueType) (before ds after : List Directive),
      build t (before ++ (ds ++ ds) ++ after) = build t (before ++ ds ++ after)) ∧
    (∀ (t : ValueType) (ds : List Directive) (n : ℕ),
      build t (List.replicate (n + 1) ds).flatten = build t ds) ∧
    ∀ {block : List Char}, depthAfter 0 block = 0 → unquote? (trim block) = none →
      unquote? (trim (block ++ ',' :: block)) = none → ∀ t : ValueType,
      parse t (block ++ ',' :: block) = parse t block ∧
      ∀ {σ : Type} (sampler : Sampler σ) (v : Value) (s : σ),
        let twice := checkText sampler v t (String.ofList (block ++ ',' :: block)) s
        let once := checkText sampler v t (String.ofList block) s
        twice.verdict = once.verdict ∧ twice.state = once.state := by
  have hpart : ∀ (t : ValueType) (before ds after : List Directive),
      build t (before ++ (ds ++ ds) ++ after) = build t (before ++ ds ++ after) :=
    buildWith_repeat parse
  have htwice : ∀ (t : ValueType) (ds : List Directive), build t (ds ++ ds) = build t ds :=
    fun t ds => by simpa using hpart t [] ds []
  refine ⟨htwice, hpart, fun t ds n => ?_, ?_⟩
  · induction n with
    | zero => simp
    | succ n ih =>
      have hagain := hpart t [] ds (List.replicate n ds).flatten
      rw [List.nil_append, List.nil_append] at hagain
      calc build t (List.replicate (n + 2) ds).flatten
        _ = build t (ds ++ ds ++ (List.replicate n ds).flatten) := by simp [List.replicate_succ]
        _ = build t (ds ++ (List.replicate n ds).flatten) := hagain
        _ = build t ds := by rw [← ih, List.replicate_succ, List.flatten_cons]
  · intro block hdepth hblock hboth t
    have hparse : parse t (block ++ ',' :: block) = parse t block := by
      rw [parse_eq_build, parse_eq_build, tokenize_append_comma hdepth hblock hblock hboth, htwice]
    refine ⟨hparse, fun sampler v s => ?_⟩
    simp only [checkText, String.toList_ofList, hparse]
    split
    · exact ⟨rfl, rfl⟩
    · exact ⟨rfl, rfl⟩

/-- Every kind of update for arrays, a note without text and a directive that is not understood. -/
theorem repetition_adds_nothing_array :
    let block := "foobar,each(string,minLength=2|number),!contains=1,checkType=step,note".toList
    depthAfter 0 block = 0 ∧ unquote? (trim block) = none ∧
      unquote? (trim (block ++ ',' :: block)) = none ∧
      parse .array (block ++ ',' :: block) = parse .array block := by
  intro block
  have hdepth : depthAfter 0 block = 0 := by decide +kernel
  have hblock : unquote? (trim block) = none := by decide +kernel
  have hboth : unquote? (trim (block ++ ',' :: block)) = none := by decide +kernel
  exact ⟨hdepth, hblock, hboth, (repetition_adds_nothing.2.2.2 hdepth hblock hboth .array).1⟩

end ShapeCheck
