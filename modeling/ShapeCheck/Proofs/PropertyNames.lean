import ShapeCheck.Proofs.ReadBack
import ShapeCheck.Proofs.RuleOrder
import ShapeCheck.Proofs.WrittenArguments

/-!
# Names of properties

A directive with a list of names asks for these properties, or forbids them.  What is stored for a
name is the item that it is read as: several names are stored as they are written, a single one that
reads as a finite number is stored as the displayed form of that number.

* `addNames_eraseDups` — names that are added one by one are stored once, where they first came;
* `apply_names` — one directive with names, added to rules that have no others;
* `ObjectRules.test_ofNames` — the objects that such rules let pass;
* `names_stored_as_shown` — so a list of names, and single names in turn, are stored as shown.
-/

set_option autoImplicit false

namespace ShapeCheck

open Directive

/-! ## Lists without repetition -/

/-- **Names that are added one by one are stored once**, where they first came. -/
theorem addNames_eraseDups : ∀ (new known : List String),
    addNames known.eraseDups new = (known ++ new).eraseDups
  | [], known => by rw [List.append_nil]; rfl
  | name :: new, known => by
    have hstep : (if known.eraseDups.contains name then known.eraseDups
        else known.eraseDups ++ [name]) = (known ++ [name]).eraseDups := by
      rw [List.eraseDups_append]
      by_cases hknown : name ∈ known
      · rw [if_pos (List.contains_iff_mem.mpr (List.mem_eraseDups.mpr hknown))]
        simp [List.removeAll, hknown]
      · rw [if_neg fun h => hknown (List.mem_eraseDups.mp (List.contains_iff_mem.mp h))]
        simp [List.removeAll, hknown, List.eraseDups_cons]
    calc addNames known.eraseDups (name :: new)
      _ = addNames (known ++ [name]).eraseDups new := by rw [← hstep]; rfl
      _ = (known ++ [name] ++ new).eraseDups := addNames_eraseDups new (known ++ [name])
      _ = (known ++ name :: new).eraseDups := by rw [List.append_assoc, List.singleton_append]

/-! ## Rules with names and nothing else -/

/-- The rules that ask for names, or that forbid them. -/
def ObjectRules.ofNames (unwanted : Bool) (names : List String) : ObjectRules :=
  if unwanted then { forbidden := names } else { required := names }

/-- The constraint that asks for names, or that forbids them. -/
def Constraint.ofNames (unwanted : Bool) (names : List String) : Constraint :=
  { rules := .object (.ofNames unwanted names) }

theorem Constraint.ofNames_nil (unwanted : Bool) :
    Constraint.initial? .object = some (.ofNames unwanted []) := by
  cases unwanted <;> rfl

/-- **A directive with names** adds them to the names that were asked for, or forbidden, before. -/
theorem apply_names {d : Directive} {implied : Bool}
    (hname : Keyword.ofName? d.name = some (.hasProperties, implied))
    (hitems : d.argumentItems ≠ []) (nested : BlockParser) (known : List String) :
    (Constraint.ofNames (d.negated != implied) known).apply nested .object d =
      .ofNames (d.negated != implied) (addNames known (d.argumentItems.map String.ofList)) := by
  have hchange : ∃ f, ObjectRules.change? .hasProperties (d.negated != implied) d = some f ∧
      f (.ofNames (d.negated != implied) known) =
        .ofNames (d.negated != implied) (addNames known (d.argumentItems.map String.ofList)) := by
    have hempty : (d.argumentItems.map String.ofList).isEmpty = false := by simpa using hitems
    rw [ObjectRules.change?, hempty, if_neg Bool.false_ne_true]
    refine ⟨_, rfl, ?_⟩
    cases d.negated != implied <;> rfl
  obtain ⟨f, hf, hadds⟩ := hchange
  rw [apply_of_keyword hname (by decide), Rules.change?, hf]
  exact congrArg (fun r => ({ rules := .object r } : Constraint)) hadds

theorem testNames_eq_ok_iff {names : List String} {bad : String → Bool}
    {report : String → Violation} :
    testNames names bad report = .ok () ↔ ∀ name ∈ names, bad name = false := by
  rw [testNames]
  cases hfind : names.find? bad with
  | none => simpa using List.find?_eq_none.mp hfind
  | some name =>
    refine iff_of_false (fun h => by cases h) fun hall => ?_
    exact absurd (List.find?_some hfind) (by simp [hall name (List.mem_of_find?_eq_some hfind)])

/-- **Rules with names let an object pass iff it has all the names** that they ask for, and none of
those that they forbid. -/
theorem ObjectRules.test_ofNames (unwanted : Bool) (names : List String) (o : Object Value) :
    (ofNames unwanted names).test o = .ok () ↔ ∀ name ∈ names, o.contains name = !unwanted := by
  have htest : (ofNames unwanted names).test o =
      if unwanted then testNames names o.contains fun name => .rule (.unwantedProperty name)
      else testNames names (fun name => !o.contains name)
        fun name => .rule (.missingProperty name) := by
    have hconsistent : (ofNames unwanted names).consistent = .ok () := by
      rw [consistent_of_not_both (by cases unwanted <;> nofun)]
      cases unwanted with
      | false => exact testNames_contains_nil names _
      | true => rfl
    rw [test, hconsistent]
    cases unwanted <;>
      simp only [ofNames, if_true, if_false, Bool.false_eq_true, Bool.not_false, Bool.true_or,
        Verdict.unless_true, testBound_none, testNames_nil, testProperties_false, testJson_false,
        Verdict.first_ok_cons, Verdict.first_cons_ok, Verdict.first_singleton]
  rw [htest]
  cases unwanted with
  | false => exact testNames_eq_ok_iff.trans (by simp)
  | true => exact testNames_eq_ok_iff

/-! ## Names in a list -/

/-- The directive of a word with names in parentheses. -/
def namesDirective (negated : Bool) (word : List Char) (names : List String) : List Char :=
  signed negated (word ++ '(' :: ([','].intercalate (names.map String.toList) ++ [')']))

/-- What is stored for a name that stands alone. -/
def shownName (name : String) : String := String.ofList (shownItem name.toList)

/-- What is stored for names. -/
def shownNames (names : List String) : List String :=
  (shownItems (names.map String.toList)).map String.ofList

theorem shownItems_ne_nil {ps : List (List Char)} (h : ps ≠ []) : shownItems ps ≠ [] := by
  match ps, h with
  | [_], _ => exact List.cons_ne_nil _ _
  | _ :: _ :: _, _ => exact List.cons_ne_nil _ _

section

variable {word : List Char} (negated : Bool) {names : List String}

theorem tokenize_listed (hword : IsHead word) {argument : List Char} {items : List (List Char)}
    (hbalanced : Balanced argument) (hseparator : unitSeparator ∉ argument)
    (hlisted : Listed (Text.stripQuotes (Text.trim argument)) items) :
    ∃ d, tokenize (signed negated (word ++ '(' :: (argument ++ [')']))) = [d] ∧
      d.name = Text.trim word ∧ d.negated = negated ∧ d.argumentItems = shownItems items := by
  refine ⟨_, tokenize_call hword hbalanced negated, rfl, rfl, ?_⟩
  rw [restore_eq_self hseparator]
  exact hlisted.items

theorem tokenize_namesDirective (hword : IsHead word) (hne : names ≠ [])
    (hnames : ∀ name ∈ names, Bare name.toList) :
    ∃ d, tokenize (namesDirective negated word names) = [d] ∧ d.name = Text.trim word ∧
      d.negated = negated ∧ d.argumentItems = shownItems (names.map String.toList) := by
  have hitems : ∀ p ∈ names.map String.toList, Item p :=
    List.forall_mem_map.mpr fun name hname => (hnames name hname).item
  have hmap : names.map String.toList ≠ [] := by rwa [Ne, List.map_eq_nil_iff]
  have hheld := held_intercalate hitems hmap
  have hlisted := listed_of_items hitems hmap
  exact tokenize_listed negated hword hheld.balanced hheld.separator (hlisted.read.symm ▸ hlisted)

variable {implied : Bool} (hword : Keyword.ofName? word = some (.hasProperties, implied))

include hword

theorem foldl_apply_names (nested : BlockParser) : ∀ {lists : List (List String)}
    (known : List String), (∀ names ∈ lists, names ≠ [] ∧ ∀ name ∈ names, Bare name.toList) →
    ∃ ds, (lists.flatMap fun names => tokenize (namesDirective negated word names)) = ds ∧
      ds.length = lists.length ∧ (∀ d ∈ ds, d.clears = false) ∧
      ds.foldl (Constraint.apply nested .object) (.ofNames (negated != implied) known) =
        .ofNames (negated != implied) (addNames known (lists.flatMap shownNames))
  | [], known, _ => ⟨[], rfl, rfl, List.forall_mem_nil _, rfl⟩
  | names :: lists, known, h => by
    obtain ⟨⟨hne, hnames⟩, hlists⟩ := List.forall_mem_cons.mp h
    obtain ⟨d, hd, hname, hnegated, hitems⟩ :=
      tokenize_namesDirective negated (Keyword.isHead hword) hne hnames
    have hspelled : Keyword.ofName? d.name = some (.hasProperties, implied) := by
      rw [hname, Keyword.ofName?_trim, hword]
    have hsome : d.argumentItems ≠ [] := by
      rw [hitems]
      exact shownItems_ne_nil (by rwa [Ne, List.map_eq_nil_iff])
    have hadded : (Constraint.ofNames (negated != implied) known).apply nested .object d =
        .ofNames (negated != implied) (addNames known (shownNames names)) := by
      rw [← hnegated, apply_names hspelled hsome, hitems, ← shownNames]
    obtain ⟨ds, hds, hlength, hclear, hfold⟩ :=
      foldl_apply_names nested (addNames known (shownNames names)) hlists
    refine ⟨d :: ds, ?_, ?_, List.forall_mem_cons.mpr ⟨?_, hclear⟩, ?_⟩
    · rw [List.flatMap_cons, hd, hds, List.singleton_append]
    · rw [List.length_cons, hlength, List.length_cons]
    · exact clears_of_keyword hspelled (by decide)
    · rw [List.foldl_cons, hadded, hfold, List.flatMap_cons, addNames, addNames, addNames,
        List.foldl_append]

/-- **Lists of names in turn store what is shown for them**, each name once, where it first came. -/
theorem build_namesDirectives {lists : List (List String)} (hne : lists ≠ [])
    (h : ∀ names ∈ lists, names ≠ [] ∧ ∀ name ∈ names, Bare name.toList) :
    build .object (lists.flatMap fun names => tokenize (namesDirective negated word names)) =
      some (.ofNames (negated != implied) (lists.flatMap shownNames).eraseDups) := by
  obtain ⟨ds, hds, hlength, hclear, hfold⟩ := foldl_apply_names negated hword parse [] h
  have hsome : ds ≠ [] := by
    rw [← List.length_pos_iff, hlength, List.length_pos_iff]
    exact hne
  rw [hds, build_eq_foldl (Constraint.ofNames_nil (negated != implied)) hsome hclear, hfold,
    ← List.nil_append (lists.flatMap shownNames), ← addNames_eraseDups]
  rfl

/-- **A list in parentheses stores what is shown for its items.** -/
theorem parse_listed {argument : List Char} {items : List (List Char)}
    (hbalanced : Balanced argument) (hseparator : unitSeparator ∉ argument)
    (hlisted : Listed (Text.stripQuotes (Text.trim argument)) items) :
    parse .object (signed negated (word ++ '(' :: (argument ++ [')']))) =
      some (.ofNames (negated != implied) ((shownItems items).map String.ofList).eraseDups) := by
  obtain ⟨d, htoken, hname, rfl, hitems⟩ :=
    tokenize_listed negated (Keyword.isHead hword) hbalanced hseparator hlisted
  have hspelled : Keyword.ofName? d.name = some (.hasProperties, implied) := by
    rw [hname, Keyword.ofName?_trim, hword]
  have hsome : d.argumentItems ≠ [] := hitems ▸ shownItems_ne_nil hlisted.ne_nil
  rw [parse_of_token (Constraint.ofNames_nil (d.negated != implied)) htoken
    (clears_of_keyword hspelled (by decide)), apply_names hspelled hsome, hitems,
    ← List.nil_append ((shownItems items).map String.ofList), ← addNames_eraseDups]
  rfl

end

/-! ## What is stored -/

theorem shownNames_of_not_lone {names : List String} (h : ¬ IsLoneNumber names) :
    shownNames names = names := by
  have hback : String.ofList ∘ String.toList = id := funext fun _ => String.ofList_toList
  rw [shownNames, shownItems_of_not_lone h, List.map_map, hback, List.map_id]

/-- **Names are stored as they are shown.**  A list of names, after any spelling of the keyword and
in either polarity, stores what is shown for the list, each name once and where it first came; the
objects that pass are those that have all of these names, or none.  Single names in turn store what
is shown for each.  So the names that are written are stored and looked for, unless a list has a
single name that reads as a finite number, and a list is the same as its names in turn, unless one
of them reads as such a number. -/
theorem names_stored_as_shown {word : List Char} {implied : Bool}
    (hword : Keyword.ofName? word = some (.hasProperties, implied)) (negated : Bool)
    {names : List String} (hne : names ≠ []) (hnames : ∀ name ∈ names, Bare name.toList) :
    let list := namesDirective negated word names
    let inTurn := names.flatMap fun name => tokenize (namesDirective negated word [name])
    let unwanted := negated != implied
    parse .object list = some (.ofNames unwanted (shownNames names).eraseDups) ∧
    build .object inTurn = some (.ofNames unwanted (names.map shownName).eraseDups) ∧
    (∀ {σ : Type} (sampler : Sampler σ) (o : Object Value) (s : σ),
      (checkText sampler (.object o) .object (String.ofList list) s).verdict = .ok () ↔
        ∀ name ∈ shownNames names, o.contains name = !unwanted) ∧
    (¬ IsLoneNumber names → shownNames names = names) ∧
    (∀ name ∈ names, ¬ IsLoneNumber [name] → shownName name = name) ∧
    ((∀ name ∈ names, shownName name = name) → build .object inTurn = parse .object list) := by
  intro list inTurn unwanted
  have hlist : parse .object list = some (.ofNames unwanted (shownNames names).eraseDups) := by
    have hlists := build_namesDirectives negated hword (List.cons_ne_nil names [])
      (List.forall_mem_singleton.mpr ⟨hne, hnames⟩)
    rwa [List.flatMap_singleton, List.flatMap_singleton, ← parse_eq_build] at hlists
  have hinTurn : build .object inTurn =
      some (.ofNames unwanted (names.map shownName).eraseDups) := by
    have hlists : ∀ single ∈ names.map ([·]), single ≠ [] ∧ ∀ name ∈ single, Bare name.toList := by
      refine List.forall_mem_map.mpr fun name hname => ⟨List.cons_ne_nil _ _, ?_⟩
      exact List.forall_mem_singleton.mpr (hnames name hname)
    have hsingles := build_namesDirectives negated hword (by rwa [Ne, List.map_eq_nil_iff]) hlists
    rw [List.flatMap_map, List.flatMap_map] at hsingles
    rw [hsingles, List.map_eq_flatMap]
    rfl
  refine ⟨hlist, hinTurn, fun sampler o s => ?_, shownNames_of_not_lone, fun name _ hlone => ?_,
    fun hshown => ?_⟩
  · rw [checkText, String.toList_ofList, hlist]
    refine (ObjectRules.test_ofNames unwanted _ o).trans ?_
    simp only [List.mem_eraseDups]
  · exact List.singleton_injective (shownNames_of_not_lone hlone)
  · have hself : names.map shownName = names :=
      (List.map_congr_left hshown).trans (List.map_id names)
    have hnames : shownNames names = names := by
      -- a single name that reads as a number is shown here as it is in turn
      by_cases hlone : IsLoneNumber names
      · obtain ⟨_, _, hsingle, -⟩ := hlone
        rw [hsingle] at hself ⊢
        exact hself
      · exact shownNames_of_not_lone hlone
    rw [hinTurn, hlist, hself, hnames]

/-- Names that are forbidden, one of them twice and one that would be a number if it stood alone. -/
theorem names_stored_as_shown_repeated :
    let word := "not Has Properties".toList
    let names := ["007", "id", "007"]
    Keyword.ofName? word = some (.hasProperties, true) ∧
    (names ≠ [] ∧ ∀ name ∈ names, Bare name.toList) ∧
    parse .object "not Has Properties(007,id,007)".toList = some (.ofNames true ["007", "id"]) ∧
    ∀ o : Object Value,
      (checkText Sampling.seeded (.object o) .object "not Has Properties(007,id,007)"
          (.ofSeed 7)).verdict = .ok () ↔ o.contains "007" = false ∧ o.contains "id" = false := by
  intro word names
  have hword : Keyword.ofName? word = some (.hasProperties, true) := by decide +kernel
  have hne : names ≠ [] := List.cons_ne_nil _ _
  have hnames : ∀ name ∈ names, Bare name.toList := by decide
  have hlone : ¬ IsLoneNumber names := by
    rintro ⟨_, _, hsingle, -⟩
    exact List.cons_ne_nil _ _ (List.cons.inj hsingle).2
  have hdistinct : names.eraseDups = ["007", "id"] := by decide
  obtain ⟨hparse, -, hcheck, hself, -, -⟩ := names_stored_as_shown hword false hne hnames
  rw [hself hlone] at hparse hcheck
  refine ⟨hword, ⟨hne, hnames⟩, hdistinct ▸ hparse, fun o => ?_⟩
  refine (hcheck Sampling.seeded o (.ofSeed 7)).trans ?_
  simp [names]
  tauto

/-- A single name that reads as a number: an object with that name, and without the displayed form
of the number, does not pass. -/
theorem lone_number_stored_as_displayed :
    let o : Object Value := .ofList [("007", .number 1)]
    Bare "007".toList ∧ o.contains "007" = true ∧
    parse .object "hasProperties(007)".toList = some (.ofNames false ["7"]) ∧
    ({ seed := some 7 } : Checker).check (.object o) "hasProperties(007)" =
      .error (.rule (.missingProperty "7")) := by
  intro o
  have hname : Bare "007".toList := by decide
  have hparse : parse .object "hasProperties(007)".toList = some (.ofNames false ["7"]) := by
    have hshown : shownNames ["007"] = ["7"] := by decide +kernel
    have hword : Keyword.ofName? "hasProperties".toList = some (.hasProperties, false) := rfl
    have hlists : ∀ names ∈ [["007"]], names ≠ [] ∧ ∀ name ∈ names, Bare name.toList := by decide
    have hbuild := build_namesDirectives false hword (List.cons_ne_nil _ _) hlists
    rw [List.flatMap_singleton, List.flatMap_singleton, ← parse_eq_build, hshown] at hbuild
    exact hbuild
  refine ⟨hname, rfl, hparse, ?_⟩
  show (checkText Sampling.seeded (.object o) .object "hasProperties(007)" _).verdict = _
  rw [checkText, hparse]
  rfl

end ShapeCheck
