import ShapeCheck.Check.Checker
import ShapeCheck.Proofs.Acceptance

/-!
# Directives that clear a constraint

One directive can make all others void: building stops there and leads back to the first constraint
of the type.

* `Directive.clears_iff` — which directives do: those whose keyword is one word in any spelling;
* `buildWith_of_clears` — nothing that stands before or behind the clearing one is left;
* `checkText_of_clears` — such a text tests the type of a value and nothing else;
* `clearing_absorbs` — what follows for what is built and for checks of texts.
-/

set_option autoImplicit false

namespace ShapeCheck

/-! ## The word that clears -/

theorem Keyword.ofName?_eq_noConstraint_iff {name : List Char} {implied : Bool} :
    ofName? name = some (.noConstraint, implied) ↔
      normalize name = "noconstraint".toList ∧ implied = false := by
  constructor
  · intro h
    obtain ⟨_, _, hspellings, -⟩ := List.lookup_eq_some_iff.mp h
    have hmem : (String.ofList (normalize name), noConstraint, implied) ∈ spellings := by
      rw [hspellings]
      exact List.mem_append_right _ List.mem_cons_self
    have honly : ∀ e ∈ spellings, e.2.1 = noConstraint →
        e.1.toList = "noconstraint".toList ∧ e.2.2 = false := by decide
    simpa using honly _ hmem rfl
  · rintro ⟨h, rfl⟩
    rw [ofName?, h]
    rfl

/-- Whether a directive clears depends on its name alone: on no exclamation mark, value or call. -/
theorem Directive.clears_iff {d : Directive} :
    d.clears = true ↔ Keyword.normalize d.name = "noconstraint".toList := by
  unfold clears
  split
  · rename_i implied hname
    simpa using (Keyword.ofName?_eq_noConstraint_iff.mp hname).1
  · rename_i hother
    constructor
    · nofun
    · intro h
      exact absurd (Keyword.ofName?_eq_noConstraint_iff.mpr ⟨h, rfl⟩) (hother false)

/-! ## Building up to the clearing directive -/

/-- **One clearing directive anywhere makes all others void.** -/
theorem buildWith_of_clears (nested : BlockParser) (t : ValueType) {ds : List Directive}
    (h : ∃ d ∈ ds, d.clears = true) : buildWith nested t ds = Constraint.initial? t := by
  have hempty : ds.isEmpty = false := by
    rw [List.isEmpty_eq_false_iff]
    rintro rfl
    simp at h
  have hany : ds.any Directive.clears = true := List.any_eq_true.mpr h
  rw [buildWith_eq, hempty, hany]
  exact Option.map_id'

/-! ## Checks of texts that clear -/

section

variable {σ : Type}

/-- A check against a text with a clearing directive tests the type of a value and asks no sampler;
for the type of null it tests nothing. -/
theorem checkText_of_clears {text : String}
    (h : ∃ d ∈ Directive.tokenize text.toList, d.clears = true) (sampler : Sampler σ) (v : Value)
    (t : ValueType) (s : σ) :
    (checkText sampler v t text s).verdict = (if t = .none then .ok () else .ofType t v) ∧
      (checkText sampler v t text s).state = s := by
  have hparse : parse t text.toList = Constraint.initial? t := by
    rw [parse, buildWith_of_clears _ t h]
  unfold checkText
  rw [hparse]
  cases hfirst : Constraint.initial? t with
  | none =>
    cases t with
    | none => exact ⟨rfl, rfl⟩
    | _ => cases hfirst
  | some first =>
    have hne : t ≠ .none := by
      rintro rfl
      cases hfirst
    simp only [test_first hfirst, if_neg hne]
    exact ⟨rfl, rfl⟩

end

/-- **A clearing directive absorbs all others.**  A directive clears if its keyword is spelled
`noconstraint`, up to blanks and letter case, whether it is negated or not and whatever its argument
is.  A list of directives with such a one at any place builds the first constraint of the type, with
no rules, no note and no directive that was not understood.  So every value passes a text with such
a directive and no sampler is asked, and a check for a declared type can only blame the type. -/
theorem clearing_absorbs :
    (∀ d : Directive, d.clears = true ↔ Keyword.normalize d.name = "noconstraint".toList) ∧
    (∀ t : ValueType, t ≠ .none → ∀ (before after : List Directive) (d : Directive),
      d.clears = true →
      ∃ r, Rules.initial? t = some r ∧
        build t (before ++ d :: after) = some { rules := r, note := none, badName := none } ∧
        rulesDirectives r = []) ∧
    ∀ text : String, (∃ d ∈ Directive.tokenize text.toList, d.clears = true) → ∀ v : Value,
      (∀ {σ : Type} (sampler : Sampler σ) (s : σ) (requests : List (Nat × Nat)),
        (checkWith sampler v text s).verdict = .ok () ∧
          (checkWith sampler.recorded v text (s, requests)).state = (s, requests)) ∧
      ∀ k : Checker, k.check v text = .ok () ∧ ∀ (declared : String) (violation : Violation),
        k.checkAs v declared text = .error violation →
          violation = .basicType (.ofName declared.toList) (.of v) := by
  refine ⟨fun _ => Directive.clears_iff, ?_, ?_⟩
  · intro t ht before after d hd
    have hbuild : build t (before ++ d :: after) = Constraint.initial? t :=
      buildWith_of_clears parse t ⟨d, List.mem_append_right _ List.mem_cons_self, hd⟩
    rw [hbuild]
    cases t with
    | none => exact absurd rfl ht
    | _ => exact ⟨_, rfl, rfl, rfl⟩
  · intro text htext v
    have hpass : ∀ {σ : Type} (sampler : Sampler σ) (s : σ),
        (checkWith sampler v text s).verdict = .ok () ∧ (checkWith sampler v text s).state = s := by
      intro σ sampler s
      obtain ⟨hverdict, hstate⟩ := checkText_of_clears htext sampler v (.of v) s
      refine ⟨hverdict.trans ?_, hstate⟩
      split
      · rfl
      · exact Verdict.ofType_of rfl
    refine ⟨fun sampler s requests => ⟨(hpass sampler s).1, (hpass sampler.recorded _).2⟩, ?_⟩
    intro k
    refine ⟨(hpass Sampling.seeded k.generator).1, fun declared violation hfails => ?_⟩
    obtain ⟨hverdict, -⟩ :=
      checkText_of_clears htext Sampling.seeded v (.ofName declared.toList) k.generator
    have hfails := hverdict.symm.trans hfails
    split at hfails
    · cases hfails
    · exact Verdict.eq_of_unless hfails

/-- A clearing directive in an odd spelling, negated and with a call, between an element constraint
that asks a sampler and a directive that is not understood. -/
theorem clearing_absorbs_spelled :
    let text := "each(number,positive),checkType=random(2),! No Constraint(7),foobar"
    let v := Value.array [.number (-1), .string "x"]
    (∃ d ∈ Directive.tokenize text.toList, d.clears = true) ∧
    (∃ before d after, Directive.tokenize text.toList = before ++ d :: after ∧
      build .array (before ++ d :: after) = some { rules := .array {} }) ∧
    (checkWith Sampler.scripted.recorded v text ([[0, 1]], [])).state = ([[0, 1]], []) ∧
    ({ seed := some 1 } : Checker).check v text = .ok () ∧
    ({} : Checker).checkAs v "number" text = .error (.basicType .number .array) := by
  intro text v
  have htext : ∃ d ∈ Directive.tokenize text.toList, d.clears = true := by decide +kernel
  obtain ⟨-, hbuild, hcheck⟩ := clearing_absorbs
  obtain ⟨hsampler, hchecker⟩ := hcheck text htext v
  refine ⟨htext, ?_, (hsampler Sampler.scripted [[0, 1]] []).2,
    (hchecker { seed := some 1 }).1, ?_⟩
  · obtain ⟨d, hd, hclear⟩ := htext
    obtain ⟨before, after, hsplit⟩ := List.append_of_mem hd
    obtain ⟨r, hr, hbuilt, -⟩ := hbuild .array nofun before after d hclear
    cases hr
    exact ⟨before, d, after, hsplit, hbuilt⟩
  · cases hfails : ({} : Checker).checkAs v "number" text with
    | ok _ =>
      have hof : (({} : Checker).checkAs v "number" text).isOk = false := by decide +kernel
      rw [hfails] at hof
      cases hof
    | error violation => rw [(hchecker {}).2 "number" violation hfails]; rfl

end ShapeCheck
