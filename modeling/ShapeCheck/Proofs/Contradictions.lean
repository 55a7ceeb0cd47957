import ShapeCheck.Proofs.Conjunction

/-!
# Contradictory declarations

Both sides of a pair of directives may be declared.  The constraint is built all the same, and no
value passes it.

* `Conflict.sides_eq`, `Violation.NamesBoth` — a conflict is reported by the directives on its sides;
* `heldBy_apply`, `heldBy_foldl` — what a directive declares is held by the rules from there on;
* `Conflict.before` — the tests that stand before that of a pair: those of whole numbers and of zero
  before the signs, those of lengths before the relations of texts and the items of arrays, each
  relation before the next one and all of them before patterns, and for objects nothing but the
  conflicts that are looked for first;
* `reports_of_heldBy` — rules that hold both sides give the first verdict that something is wrong
  among these, and the conflict where there is none;
* `contradictions_never_pass` — so it is for every list of directives that declares both sides.
-/

set_option autoImplicit false

namespace ShapeCheck

/-! ## The sides of a conflict -/

/-- The keyword that asks for a relation between texts. -/
def TextRelation.keyword : TextRelation → Keyword
  | .startsWith => .startsWith
  | .endsWith => .endsWith
  | .contains => .contains

namespace Conflict

/-- The type of the values whose rules can be in a conflict. -/
def valueType : Conflict → ValueType
  | .sign => .number
  | .text _ => .string
  | .pattern => .string
  | .items => .array
  | .emptiness => .object
  | .property _ => .object

/-- The keyword on one side of a conflict. -/
def keyword (second : Bool) : Conflict → Keyword
  | .sign => if second then .negative else .positive
  | .text relation => relation.keyword
  | .pattern => .match
  | .items => .contains
  | .emptiness => .empty
  | .property _ => .hasProperties

/-- The polarity on one side of a conflict: the second side is the negation of the first one, except
for the signs of numbers, which have a keyword each. -/
def negated (second : Bool) : Conflict → Bool
  | .sign => false
  | _ => second

/-- The name that both sides have to have in common, for lists of names. -/
def name? : Conflict → Option String
  | .property name => some name
  | _ => none

/-- The word on one side of a conflict. -/
def word (second : Bool) : Conflict → String
  | .sign => if second then "negative" else "positive"
  | .text .startsWith => "startsWith"
  | .text .endsWith => "endsWith"
  | .text .contains => "contains"
  | .pattern => "match"
  | .items => "contains"
  | .emptiness => "empty"
  | .property _ => "hasProperties"

/-- One side of a conflict as a directive: the word, behind an exclamation mark where the side is
negated, and before the name that both sides have in common. -/
def side (second : Bool) (conflict : Conflict) : String :=
  (if conflict.negated second then "!" else "") ++ conflict.word second ++
    conflict.name?.elim "" fun name => "(" ++ name ++ ")"

/-- The word on a side is a spelling of the keyword of that side, and does not negate it. -/
theorem ofName?_word (conflict : Conflict) (second : Bool) :
    Keyword.ofName? (conflict.word second).toList = some (conflict.keyword second, false) := by
  cases conflict with
  | sign => cases second <;> decide +kernel
  | text relation => cases relation <;> cases second <;> decide +kernel
  | property name =>
    show Keyword.ofName? "hasProperties".toList = some (.hasProperties, false)
    decide +kernel
  | _ => cases second <;> decide +kernel

/-- **A conflict is reported by the directives on its sides.** -/
theorem sides_eq (conflict : Conflict) :
    conflict.sides = (conflict.side false, conflict.side true) := by
  cases conflict with
  | text relation => cases relation <;> rfl
  | property name =>
    have hside : ∀ mark : String, mark ++ ("hasProperties" ++ "(") ++ name ++ ")" =
        mark ++ "hasProperties" ++ ("(" ++ name ++ ")") := fun mark => by
      simp only [String.append_assoc]
    exact Prod.ext (hside "") (hside "!")
  | _ => rfl

example : (Conflict.property "id").side true = "!hasProperties(id)" := rfl

end Conflict

/-- A violation reports a conflict and names both of its sides, each by a directive of the keyword
and the polarity of that side. -/
structure Violation.NamesBoth (violation : Violation) (conflict : Conflict) : Prop where
  eq_conflict : violation = .conflict conflict
  kind : violation.kind = "directive_conflict"
  sides : conflict.sides = (conflict.side false, conflict.side true)
  keywords : ∀ second, Keyword.ofName? (conflict.word second).toList =
    some (conflict.keyword second, false)
  message : violation.message =
    "conflicting directives `" ++ conflict.side false ++ "` and `" ++ conflict.side true ++ "`"

theorem Violation.namesBoth (conflict : Conflict) :
    (Violation.conflict conflict).NamesBoth conflict where
  eq_conflict := rfl
  kind := rfl
  sides := conflict.sides_eq
  keywords := conflict.ofName?_word
  message := by
    change "conflicting directives `" ++ conflict.sides.1 ++ "` and `" ++ conflict.sides.2 ++ "`" = _
    rw [conflict.sides_eq]

/-- What a slot holds asks for something: a flag that is set, a text or an item, or names with a
given one among them. -/
def Content.asks (name? : Option String) : Content → Bool
  | .flag set => set
  | .text operand => operand.isSome
  | .item operand => operand.isSome
  | .names known => name?.any known.contains
  | _ => false

/-- Rules hold one side of a conflict. -/
def Conflict.heldBy (conflict : Conflict) (second : Bool) (r : Rules Constraint) : Prop :=
  (r.content (conflict.keyword second) (conflict.negated second)).asks conflict.name? = true

/-- A directive declares one side of a conflict: it is understood, its keyword and its polarity are
those of the side, and a list of names has the common one among them. -/
structure Directive.Declares (conflict : Conflict) (second : Bool) (d : Directive) : Prop where
  accepted : d.accepted conflict.valueType = true
  slot : d.slot? = some (.rule (conflict.keyword second) (conflict.negated second))
  names : ∀ name ∈ conflict.name?, name ∈ d.argumentItems.map String.ofList

instance (conflict : Conflict) (second : Bool) (d : Directive) :
    Decidable (d.Declares conflict second) :=
  decidable_of_iff
    (d.accepted conflict.valueType = true ∧
      d.slot? = some (.rule (conflict.keyword second) (conflict.negated second)) ∧
      ∀ name ∈ conflict.name?, name ∈ d.argumentItems.map String.ofList)
    ⟨fun ⟨accepted, slot, names⟩ => ⟨accepted, slot, names⟩, fun h => ⟨h.accepted, h.slot, h.names⟩⟩

/-- A list of directives declares both sides of a conflict. -/
def Conflict.DeclaredBy (conflict : Conflict) (ds : List Directive) : Prop :=
  ∀ second, ∃ d ∈ ds, d.Declares conflict second

instance (conflict : Conflict) (ds : List Directive) : Decidable (conflict.DeclaredBy ds) :=
  inferInstanceAs (Decidable (∀ second, ∃ d ∈ ds, d.Declares conflict second))

theorem heldBy_property {name : String} {second : Bool} {r : ObjectRules} :
    (Conflict.property name).heldBy second (.object r) ↔
      name ∈ if second then r.forbidden else r.required := by
  cases second <;> exact List.contains_iff_mem

/-! ## What is declared is held -/

theorem mem_addNames {name : String} {new known : List String} :
    name ∈ addNames known new ↔ name ∈ known ∨ name ∈ new := by
  rw [addNames]
  induction new generalizing known with
  | nil => simp
  | cons first new ih =>
    rw [List.foldl_cons, ih, List.mem_cons]
    split
    · rename_i hknown
      have hmem : first ∈ known := by simpa using hknown
      constructor
      · exact Or.imp_right Or.inr
      · rintro (h | rfl | h)
        · exact Or.inl h
        · exact Or.inl hmem
        · exact Or.inr h
    · rw [List.mem_append, List.mem_singleton, or_assoc]

section

variable {nested : BlockParser} {conflict : Conflict} {second : Bool} {d : Directive}

/-- A change of the rules that one side of a conflict names leaves that side held, if it was held
before or the directive has the common name. -/
theorem heldBy_change? {f : Rules Constraint → Rules Constraint}
    (hf : Rules.change? nested conflict.valueType (conflict.keyword second)
      (conflict.negated second) d = some f) {r : Rules Constraint}
    (hr : r.valueType = conflict.valueType)
    (h : conflict.heldBy second r ∨
      ∀ name ∈ conflict.name?, name ∈ d.argumentItems.map String.ofList) :
    conflict.heldBy second (f r) := by
  cases conflict with
  | sign =>
    obtain ⟨g, hg, rfl⟩ := Option.map_eq_some_iff.mp hf
    obtain ⟨r, rfl⟩ := Rules.exists_number hr
    cases second <;> cases hg <;> rfl
  | text relation =>
    obtain ⟨g, hg, rfl⟩ := Option.map_eq_some_iff.mp hf
    obtain ⟨r, rfl⟩ := Rules.exists_string hr
    cases relation <;> obtain ⟨operand, -, rfl⟩ := Option.map_eq_some_iff.mp hg <;>
      cases second <;> rfl
  | pattern =>
    obtain ⟨g, hg, rfl⟩ := Option.map_eq_some_iff.mp hf
    obtain ⟨r, rfl⟩ := Rules.exists_string hr
    obtain ⟨source, -, rfl⟩ := Option.map_eq_some_iff.mp hg
    cases second <;> rfl
  | items =>
    obtain ⟨g, hg, rfl⟩ := Option.map_eq_some_iff.mp hf
    obtain ⟨r, rfl⟩ := Rules.exists_array hr
    obtain ⟨item, -, rfl⟩ := Option.map_eq_some_iff.mp hg
    cases second <;> rfl
  | emptiness =>
    cases hf
    obtain ⟨r, rfl⟩ := Rules.exists_object hr
    cases second <;> rfl
  | property name =>
    obtain ⟨r, rfl⟩ := Rules.exists_object hr
    obtain ⟨g, hg, rfl⟩ := Option.map_eq_some_iff.mp hf
    have hname : name ∈ addNames (if second then r.forbidden else r.required)
        (d.argumentItems.map String.ofList) :=
      mem_addNames.mpr (h.imp heldBy_property.mp fun hnames => hnames name rfl)
    change (if _ then none else some _) = some g at hg
    split at hg
    · cases hg
    · cases hg
      refine heldBy_property.mpr ?_
      cases second <;> exact hname

/-- **One directive**: a side that is held stays held, and one that is declared is held. -/
theorem heldBy_apply {c : Constraint} (hc : c.valueType = conflict.valueType)
    (hclear : d.clears = false)
    (h : conflict.heldBy second c.rules ∨ d.Declares conflict second) :
    conflict.heldBy second (c.apply nested conflict.valueType d).rules := by
  by_cases hslot : d.slot? = some (.rule (conflict.keyword second) (conflict.negated second))
  · unfold Constraint.apply
    rcases step_of_not_clears nested conflict.valueType hclear with
      ⟨hstep, -⟩ | ⟨f, hstep, -⟩ | ⟨hstep, hrejected⟩
    · have hnote := Directive.slot?_of_note hstep
      rw [hslot] at hnote
      cases hnote
    · obtain ⟨k, negated, hown, hf⟩ := Directive.slot?_of_change hstep
      rw [hslot] at hown
      cases hown
      rw [hstep]
      exact heldBy_change? hf hc (h.imp_right (·.names))
    · rw [hstep]
      refine h.resolve_right fun hdeclares => ?_
      rw [hdeclares.accepted] at hrejected
      cases hrejected
  · have hheld : conflict.heldBy second c.rules := h.resolve_right fun hd => hslot hd.slot
    have hsame : (c.apply nested conflict.valueType d).rules.content (conflict.keyword second)
        (conflict.negated second) = c.rules.content (conflict.keyword second)
        (conflict.negated second) := content_apply_of_ne hc hslot
    rw [Conflict.heldBy, hsame]
    exact hheld

/-- **A list of directives**: what one of them declares is held at the end. -/
theorem heldBy_foldl : ∀ {ds : List Directive} {c : Constraint},
    c.valueType = conflict.valueType → (∀ d ∈ ds, d.clears = false) →
    (conflict.heldBy second c.rules ∨ ∃ d ∈ ds, d.Declares conflict second) →
    conflict.heldBy second (ds.foldl (Constraint.apply nested conflict.valueType) c).rules
  | [], _, _, _, h => h.resolve_right (by simp)
  | d :: ds, c, hc, hclear, h => by
    obtain ⟨hd, hds⟩ := List.forall_mem_cons.mp hclear
    rw [List.foldl_cons]
    refine heldBy_foldl ((valueType_apply nested _ c d).trans hc) hds ?_
    rcases h with hheld | ⟨d', hd', hdeclares⟩
    · exact Or.inl (heldBy_apply hc hd (Or.inl hheld))
    · rcases List.mem_cons.mp hd' with rfl | hlater
      · exact Or.inl (heldBy_apply hc hd (Or.inr hdeclares))
      · exact Or.inr ⟨d', hlater, hdeclares⟩

end

/-! ## The first verdict that something is wrong -/

namespace Verdict

theorem first_cons_first (vs rest : List Verdict) :
    first (first vs :: rest) = first (vs ++ rest) := by
  induction vs with
  | nil => rfl
  | cons v vs ih =>
    cases v with
    | ok _ => exact ih
    | error violation => rfl

theorem first_append_first (before vs rest : List Verdict) :
    first (before ++ first vs :: rest) = first (before ++ vs ++ rest) := by
  induction before with
  | nil => exact first_cons_first vs rest
  | cons v before ih =>
    cases v with
    | ok _ => exact ih
    | error violation => rfl

/-- A violation in a list of verdicts is reported unless something before it is. -/
theorem first_append_error (vs rest : List Verdict) (blamed : Violation) :
    ∃ violation, first (vs ++ .error blamed :: rest) = .error violation ∧
      ((∀ v ∈ vs, v = .ok ()) → violation = blamed) ∧
      (violation = blamed ∨ .error violation ∈ vs) := by
  induction vs with
  | nil => exact ⟨blamed, rfl, fun _ => rfl, Or.inl rfl⟩
  | cons v vs ih =>
    cases v with
    | ok _ =>
      obtain ⟨violation, hfirst, hpass, hfrom⟩ := ih
      exact ⟨violation, hfirst, fun h => hpass (List.forall_mem_cons.mp h).2,
        hfrom.imp_right (List.mem_cons_of_mem _)⟩
    | error violation =>
      exact ⟨violation, rfl, fun h => (nomatch (List.forall_mem_cons.mp h).1),
        Or.inr List.mem_cons_self⟩

end Verdict

/-- Names are tested up to a bad one, and then that one is reported. -/
theorem testNames_of_mem {names : List String} {name : String} {bad : String → Bool}
    (hmem : name ∈ names) (hbad : bad name = true) (report : String → Violation) :
    testNames names bad report = Verdict.first
      [testNames (names.takeWhile (· != name)) bad report, .error (report name)] := by
  induction names with
  | nil => cases hmem
  | cons other names ih =>
    by_cases h : other = name
    · subst h
      simp [testNames, hbad, Verdict.first]
    · have hlater : name ∈ names := (List.mem_cons.mp hmem).resolve_left (Ne.symm h)
      rw [List.takeWhile_cons_of_pos (by simpa using h)]
      cases hother : bad other with
      | true => simp [testNames, hother, Verdict.first]
      | false => simpa [testNames, hother] using ih hlater

theorem TwoSided.test_of_both {α : Type} {r : TwoSided α} (h : ∀ second, (r.side second).isSome)
    (conflict : Conflict) (wanted unwanted : α → Verdict) :
    r.test conflict wanted unwanted = .error (.conflict conflict) := by
  obtain ⟨_ | _, _ | _⟩ := r
  · cases h false
  · cases h false
  · cases h true
  · rfl

theorem TextRelation.test_of_both (relation : TextRelation) {r : TwoSided String}
    (h : ∀ second, (r.side second).isSome) (subject : String) :
    relation.test r subject = .error (.conflict (.text relation)) :=
  TwoSided.test_of_both h (.text relation) _ _

/-! ## The tests before a pair -/

/-- The tests that a text has to pass before those of a relation. -/
def TextRelation.before (r : StringRules) (subject : String) : TextRelation → List Verdict
  | .startsWith => [testLength r.minLength r.maxLength subject.length]
  | .endsWith =>
    [testLength r.minLength r.maxLength subject.length,
     TextRelation.startsWith.test r.startsWith subject]
  | .contains =>
    [testLength r.minLength r.maxLength subject.length,
     TextRelation.startsWith.test r.startsWith subject,
     TextRelation.endsWith.test r.endsWith subject]

/-- The tests that a value has to pass before a conflict is looked for, in their order. -/
def Conflict.before : Conflict → Rules Constraint → Value → List Verdict
  | .sign, .number r, .number x =>
    [.unless (!r.integer || Decimal.isWholeFloat x) (.notInteger x),
     .unless (!r.notZero || x != 0.0) .zero]
  | .text relation, .string r, .string subject => relation.before r subject
  | .pattern, .string r, .string subject =>
    TextRelation.contains.before r subject ++ [TextRelation.contains.test r.contains subject]
  | .items, .array r, .array elements => [testLength r.minLength r.maxLength elements.length]
  | .property name, .object r, .object _ =>
    [.unless (!(r.empty && r.notEmpty)) (.conflict .emptiness),
     testNames (r.required.takeWhile (· != name)) r.forbidden.contains
      fun other => .conflict (.property other)]
  | _, _, _ => []

/-- A verdict goes through the tests that stand before a conflict and then reports it. -/
def Conflict.Reports (conflict : Conflict) (r : Rules Constraint) (v : Value) (verdict : Verdict) :
    Prop :=
  ∃ rest, verdict = Verdict.first (conflict.before r v ++ .error (.conflict conflict) :: rest)

theorem exists_of_testNames {names : List String} {bad : String → Bool}
    {report : String → Violation} {violation : Violation}
    (h : testNames names bad report = .error violation) : ∃ name, violation = report name := by
  rw [testNames] at h
  split at h
  · exact ⟨_, (Except.error.inj h).symm⟩
  · cases h

/-- Before a conflict of objects only conflicts are looked for. -/
theorem exists_conflict_of_before {conflict : Conflict} (hobject : conflict.valueType = .object)
    {r : Rules Constraint} {v : Value} {violation : Violation}
    (h : .error violation ∈ conflict.before r v) : ∃ found, violation = .conflict found := by
  unfold Conflict.before at h
  split at h
  · cases hobject
  · cases hobject
  · cases hobject
  · cases hobject
  · simp only [List.mem_cons, List.not_mem_nil, or_false] at h
    rcases h with h | h
    · exact ⟨_, Verdict.eq_of_unless h.symm⟩
    · obtain ⟨name, hname⟩ := exists_of_testNames h.symm
      exact ⟨_, hname⟩
  · cases h

/-! ## Rules that hold both sides -/

theorem NumberRules.reports_sign {r : NumberRules}
    (h : ∀ second, Conflict.sign.heldBy second (.number r)) (x : Float) :
    Conflict.sign.Reports (.number r) (.number x) (r.test x) := by
  have hpositive : r.positive = true := h false
  have hnegative : r.negative = true := h true
  have hboth : Verdict.unless (!(r.positive && r.negative)) (.conflict .sign) =
      .error (.conflict .sign) := by
    rw [hpositive, hnegative]
    rfl
  rw [NumberRules.test, hboth]
  exact ⟨_, rfl⟩

theorem StringRules.reports_text {r : StringRules} {relation : TextRelation}
    (h : ∀ second, (Conflict.text relation).heldBy second (.string r)) (subject : String) :
    (Conflict.text relation).Reports (.string r) (.string subject) (r.test subject) := by
  cases relation with
  | startsWith =>
    rw [StringRules.test, TextRelation.startsWith.test_of_both h]
    exact ⟨_, rfl⟩
  | endsWith =>
    rw [StringRules.test, TextRelation.endsWith.test_of_both h]
    exact ⟨_, rfl⟩
  | contains =>
    rw [StringRules.test, TextRelation.contains.test_of_both h]
    exact ⟨_, rfl⟩

theorem StringRules.reports_pattern {r : StringRules}
    (h : ∀ second, Conflict.pattern.heldBy second (.string r)) (subject : String) :
    Conflict.pattern.Reports (.string r) (.string subject) (r.test subject) := by
  rw [StringRules.test, TwoSided.test_of_both h]
  exact ⟨_, rfl⟩

theorem ObjectRules.reports_emptiness {r : ObjectRules}
    (h : ∀ second, Conflict.emptiness.heldBy second (.object r)) (o : Object Value) :
    Conflict.emptiness.Reports (.object r) (.object o) (r.test o) := by
  have hempty : r.empty = true := h false
  have hnotEmpty : r.notEmpty = true := h true
  have hboth : Verdict.unless (!(r.empty && r.notEmpty)) (.conflict .emptiness) =
      .error (.conflict .emptiness) := by
    rw [hempty, hnotEmpty]
    rfl
  rw [ObjectRules.test, ObjectRules.consistent, Verdict.first_cons_first, hboth]
  exact ⟨_, rfl⟩

theorem ObjectRules.reports_property {r : ObjectRules} {name : String}
    (h : ∀ second, (Conflict.property name).heldBy second (.object r)) (o : Object Value) :
    (Conflict.property name).Reports (.object r) (.object o) (r.test o) := by
  have hrequired : name ∈ r.required := heldBy_property.mp (h false)
  have hforbidden : name ∈ r.forbidden := heldBy_property.mp (h true)
  rw [ObjectRules.test, ObjectRules.consistent, Verdict.first_cons_first,
    testNames_of_mem hrequired (List.contains_iff_mem.mpr hforbidden)]
  -- the names stand behind the test of emptiness, so the list is flattened there
  exact ⟨_, Verdict.first_append_first [_] _ _⟩

section

variable {σ : Type} (sampler : Sampler σ) (s : σ)

theorem ArrayRules.reports_items {r : ArrayRules Constraint}
    (h : ∀ second, Conflict.items.heldBy second (.array r)) (items : List Value) :
    Conflict.items.Reports (.array r) (.array items) (testArray sampler r items s).verdict := by
  rw [verdict_testArray, ArrayRules.testOwn, TwoSided.test_of_both h, Verdict.first_cons_first]
  exact ⟨_, rfl⟩

variable {conflict : Conflict} {r : Rules Constraint} {v : Value}

/-- **Rules that hold both sides report the conflict, or what stands before it.** -/
theorem reports_of_heldBy (hr : r.valueType = conflict.valueType)
    (hv : ValueType.of v = conflict.valueType) (h : ∀ second, conflict.heldBy second r) :
    conflict.Reports r v (testRules sampler r v s).verdict := by
  cases conflict with
  | sign =>
    obtain ⟨r, rfl⟩ := Rules.exists_number hr
    cases v with
    | number x =>
      simp only [testRules]
      exact r.reports_sign h x
    | _ => cases hv
  | text relation =>
    obtain ⟨r, rfl⟩ := Rules.exists_string hr
    cases v with
    | string subject =>
      simp only [testRules]
      exact r.reports_text h subject
    | _ => cases hv
  | pattern =>
    obtain ⟨r, rfl⟩ := Rules.exists_string hr
    cases v with
    | string subject =>
      simp only [testRules]
      exact r.reports_pattern h subject
    | _ => cases hv
  | items =>
    obtain ⟨r, rfl⟩ := Rules.exists_array hr
    cases v with
    | array items =>
      simp only [testRules]
      exact r.reports_items sampler s h items
    | _ => cases hv
  | emptiness =>
    obtain ⟨r, rfl⟩ := Rules.exists_object hr
    cases v with
    | object o =>
      simp only [testRules]
      exact r.reports_emptiness h o
    | _ => cases hv
  | property name =>
    obtain ⟨r, rfl⟩ := Rules.exists_object hr
    cases v with
    | object o =>
      simp only [testRules]
      exact r.reports_property h o
    | _ => cases hv

end

/-! ## Lists that declare both sides -/

/-- **Contradictory declarations never pass.**  A list of directives that declares both sides of a
conflict, and has none that clears the constraint, still builds a constraint.  Every value of its
type breaks that constraint, whatever the sampler is: it is blamed for the conflict, both sides of
which are named, if it passes the tests that stand before it, and else for what one of these blames
it for, which for objects is a conflict too. -/
theorem contradictions_never_pass {conflict : Conflict} {ds : List Directive}
    (hclear : ∀ d ∈ ds, d.clears = false) (h : conflict.DeclaredBy ds) :
    ∃ c, build conflict.valueType ds = some c ∧
      ∀ v : Value, ValueType.of v = conflict.valueType → ∀ {σ : Type} (sampler : Sampler σ) (s : σ),
        ∃ violation, (c.test sampler v s).verdict = .error violation ∧
          ((∀ earlier ∈ conflict.before c.rules v, earlier = .ok ()) →
            violation.NamesBoth conflict) ∧
          (violation.NamesBoth conflict ∨ .error violation ∈ conflict.before c.rules v) ∧
          (conflict.valueType = .object → ∃ found, violation.NamesBoth found) := by
  have htype : conflict.valueType ≠ .none := by cases conflict <;> nofun
  obtain ⟨first, hfirst, -, -⟩ := exists_initial? htype
  have hne : ds ≠ [] := by
    rintro rfl
    obtain ⟨d, hd, -⟩ := h false
    cases hd
  have hfirstType : first.valueType = conflict.valueType := Constraint.valueType_of_initial? hfirst
  refine ⟨_, build_eq_foldl hfirst hne hclear, fun v hv σ sampler s => ?_⟩
  have hheld : ∀ second, conflict.heldBy second
      (ds.foldl (Constraint.apply parse conflict.valueType) first).rules :=
    fun second => heldBy_foldl hfirstType hclear (Or.inr (h second))
  obtain ⟨rest, hverdict⟩ := reports_of_heldBy sampler s
    ((valueType_foldl parse conflict.valueType ds first).trans hfirstType) hv hheld
  obtain ⟨violation, hfails, hpass, hfrom⟩ := Verdict.first_append_error _ rest (.conflict conflict)
  rw [Constraint.test_eq, hverdict]
  refine ⟨violation, hfails, fun hbefore => ?_, hfrom.imp_left ?_, fun hobject => ?_⟩
  · rw [hpass hbefore]
    exact Violation.namesBoth conflict
  · rintro rfl
    exact Violation.namesBoth conflict
  · rcases hfrom with rfl | hbefore
    · exact ⟨conflict, Violation.namesBoth conflict⟩
    · obtain ⟨found, rfl⟩ := exists_conflict_of_before hobject hbefore
      exact ⟨found, Violation.namesBoth found⟩

/-- Both sides by one spelling, once negated again, with a length before them and a directive that
is not understood between them: a text that is long enough is blamed for the conflict. -/
theorem contradictions_never_pass_aliases :
    let ds := Directive.tokenize "minLength=2,! Not Starts With(ab),foobar,notStartsWith=cd".toList
    let conflict := Conflict.text .startsWith
    ((∀ d ∈ ds, d.clears = false) ∧ conflict.DeclaredBy ds) ∧
      ∃ c violation, build .string ds = some c ∧
        (c.test Sampler.sequential (.string "abc") ()).verdict = .error violation ∧
        violation = .conflict conflict ∧
        violation.message = "conflicting directives `startsWith` and `!startsWith`" := by
  intro ds conflict
  have hclear : ∀ d ∈ ds, d.clears = false := by decide +kernel
  have hdeclared : conflict.DeclaredBy ds := by decide +kernel
  have hpass : ((build .string ds).all fun c =>
      (conflict.before c.rules (.string "abc")).all (·.isOk)) = true := by decide +kernel
  refine ⟨⟨hclear, hdeclared⟩, ?_⟩
  obtain ⟨c, hc, hfails⟩ := contradictions_never_pass hclear hdeclared
  change build .string ds = some c at hc
  obtain ⟨violation, hverdict, hnamed, -⟩ := hfails (.string "abc") rfl Sampler.sequential ()
  rw [hc, Option.all_some] at hpass
  have hbefore : ∀ earlier ∈ conflict.before c.rules (.string "abc"), earlier = .ok () := by
    intro earlier hearlier
    have hok := List.all_eq_true.mp hpass earlier hearlier
    cases earlier with
    | ok _ => rfl
    | error _ => cases hok
  have hnames : violation.NamesBoth conflict := hnamed hbefore
  exact ⟨c, violation, hc, hverdict, hnames.eq_conflict, hnames.message⟩

end ShapeCheck
