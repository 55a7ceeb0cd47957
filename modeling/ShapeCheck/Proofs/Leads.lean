import ShapeCheck.Constraint.Describe
import ShapeCheck.Proofs.Acceptance
import ShapeCheck.Proofs.BuiltRules
import ShapeCheck.Proofs.DirectiveForms
import ShapeCheck.Proofs.NestedParse

/-!
# Texts that lead from rules to rules

`Leads change? texts r r'` says that each text of a list writes a directive, and that the changes
which these directives make lead from the rules `r` to the rules `r'`.

* `Leads.keyed`, `Leads.flag`, `Leads.twoSided` — the texts of a bound, a flag, and a rule with two
  sides;
* `Leads.parse` — the constraint that is parsed from such texts, joined by commas.
-/

set_option autoImplicit false

namespace ShapeCheck

open Directive

/-- The changes that directives make, as far as they make any. -/
abbrev ChangeOf (ρ : Type) := Keyword → Bool → Directive → Option (ρ → ρ)

/-- The directives that texts write lead from rules to rules. -/
inductive Leads {ρ : Type} (change? : ChangeOf ρ) : List String → ρ → ρ → Prop where
  | nil {r : ρ} : Leads change? [] r r
  | cons {text : String} {texts : List String} {d : Directive} {k : Keyword} {f : ρ → ρ} {r r' : ρ}
      (written : Written text.toList d) (keyword : Keyword.ofName? d.name = some (k, false))
      (effective : k ≠ .noConstraint ∧ k ≠ .note) (change : change? k d.negated d = some f)
      (rest : Leads change? texts (f r) r') : Leads change? (text :: texts) r r'

namespace Leads

variable {ρ : Type} {change? : ChangeOf ρ} {texts : List String} {r r' : ρ}

theorem append {texts' : List String} {r'' : ρ} (h : Leads change? texts r r')
    (h' : Leads change? texts' r' r'') : Leads change? (texts ++ texts') r r'' := by
  induction h with
  | nil => exact h'
  | cons written keyword effective change _ ih =>
    exact .cons written keyword effective change (ih h')

theorem of_eq (h : r = r') : Leads change? [] r r' := h ▸ .nil

theorem eq_of_nil (h : Leads change? [] r r') : r = r' := by
  cases h
  rfl

theorem lift {σ : Type} {change'? : ChangeOf σ} {wrap : ρ → σ}
    (hchange : ∀ {k negated d f}, change? k negated d = some f →
      ∃ g, change'? k negated d = some g ∧ ∀ r, g (wrap r) = wrap (f r))
    (h : Leads change? texts r r') : Leads change'? texts (wrap r) (wrap r') := by
  induction h with
  | nil => exact .nil
  | cons written keyword effective change _ ih =>
    obtain ⟨g, hg, hwrap⟩ := hchange change
    exact .cons written keyword effective hg (hwrap _ ▸ ih)

theorem whole (h : Leads change? texts r r') :
    ∀ p ∈ texts.map String.toList, Whole p ∧ Unquoted p := by
  induction h with
  | nil => exact nofun
  | cons written _ _ _ _ ih =>
    rw [List.map_cons, List.forall_mem_cons]
    exact ⟨⟨written.whole, written.unquoted⟩, ih⟩

end Leads

/-! ## Texts of single rules -/

/-- A name spells a keyword that changes rules, negated if it has an exclamation mark. -/
structure Spells (name : String) (word : List Char) (negated : Bool) (k : Keyword) : Prop where
  written : name.toList = signed negated word
  isWord : IsWord word
  keyword : Keyword.ofName? word = some (k, false)
  effective : k ≠ .noConstraint ∧ k ≠ .note

theorem Spells.negate {name : String} {word : List Char} {k : Keyword}
    (h : Spells name word false k) : Spells ("!" ++ name) word true k where
  written := by
    rw [String.toList_append, h.written]
    rfl
  isWord := h.isWord
  keyword := h.keyword
  effective := h.effective

theorem Spells.of_word {name : String} (k : Keyword)
    (h : (name.toList.all isWordChar = true ∧ name.toList ≠ []) ∧
      Keyword.ofName? name.toList = some (k, false) ∧ k ≠ .noConstraint ∧ k ≠ .note) :
    Spells name name.toList false k :=
  ⟨rfl, .of_all h.1, h.2.1, h.2.2⟩

namespace Leads

variable {ρ : Type} {change? : ChangeOf ρ} {name : String} {word : List Char} {negated : Bool}
  {k : Keyword} (hname : Spells name word negated k)

include hname

theorem flag {enabled : Bool} (put : Bool → ρ)
    (hchange : ∃ f, change? k negated (ofWord negated word) = some f ∧ f (put false) = put true) :
    Leads change? (flagText enabled name) (put false) (put enabled) := by
  cases enabled with
  | false => exact .nil
  | true =>
    obtain ⟨f, hf, hput⟩ := hchange
    have hwritten : Written name.toList (ofWord negated word) :=
      hname.written ▸ .word hname.isWord negated
    exact .cons hwritten hname.keyword hname.effective hf (of_eq hput)

theorem value {shown : String} (hwhole : Whole shown.toList) {r : ρ} {f : ρ → ρ}
    (hf : change? k negated (ofKeyed negated word shown.toList) = some f) :
    Leads change? [name ++ "=" ++ shown] r (f r) := by
  have htext : (name ++ "=" ++ shown).toList = signed negated (word ++ '=' :: shown.toList) := by
    rw [String.toList_append, String.toList_append, hname.written]
    cases negated <;> simp [signed]
  have hwritten : Written (name ++ "=" ++ shown).toList (ofKeyed negated word shown.toList) :=
    htext ▸ .keyed hname.isWord hwhole negated
  exact .cons hwritten hname.keyword hname.effective hf .nil

theorem keyed {α : Type} {shown : Option α} {display : α → String} (put : Option α → ρ)
    (hwhole : ∀ a, shown = some a → Whole (display a).toList)
    (hchange : ∀ a, shown = some a → ∃ f,
      change? k negated (ofKeyed negated word (display a).toList) = some f ∧
        f (put none) = put (some a)) :
    Leads change? (keyedText name (shown.map display)) (put none) (put shown) := by
  cases shown with
  | none => exact .nil
  | some a =>
    obtain ⟨f, hf, hput⟩ := hchange a rfl
    exact hput ▸ value hname (hwhole a rfl) hf

theorem call {argument : String} (hheld : Held argument.toList) (hquote : Unquoted argument.toList)
    {r : ρ} {f : ρ → ρ} (hf : change? k negated (ofCall negated word argument.toList) = some f) :
    Leads change? [name ++ "(" ++ argument ++ ")"] r (f r) := by
  have htext : (name ++ "(" ++ argument ++ ")").toList =
      signed negated (word ++ '(' :: (argument.toList ++ [')'])) := by
    rw [String.toList_append, String.toList_append, String.toList_append, hname.written]
    cases negated <;> simp [signed]
  have hwritten : Written (name ++ "(" ++ argument ++ ")").toList
      (ofCall negated word argument.toList) :=
    htext ▸ .call hname.isWord hheld hquote negated
  exact .cons hwritten hname.keyword hname.effective hf .nil

end Leads

/-- The texts of both sides of a rule lead to rules with both sides.  `put` puts the rule with two
sides into its place. -/
theorem Leads.twoSided {ρ α : Type} {change? : ChangeOf ρ} {name : String} {word : List Char}
    {k : Keyword} (hname : Spells name word false k) {side : TwoSided α} {display : α → String}
    (put : TwoSided α → ρ) (hwhole : ∀ a ∈ side.sides, Whole (display a).toList)
    (hchange : ∀ a ∈ side.sides, ∀ negated, ∃ f,
      change? k negated (ofKeyed negated word (display a).toList) = some f ∧
        ∀ s, f (put s) = put (s.set negated a)) :
    Leads change? (keyedText name (side.wanted.map display) ++
      keyedText ("!" ++ name) (side.unwanted.map display)) (put {}) (put side) := by
  obtain ⟨wanted, unwanted⟩ := side
  have hmem : ∀ a, wanted = some a ∨ unwanted = some a → a ∈ (TwoSided.mk wanted unwanted).sides := by
    intro a ha
    rwa [TwoSided.sides, List.mem_append, Option.mem_toList, Option.mem_toList]
  have hwanted : Leads change? (keyedText name (wanted.map display)) (put {}) (put ⟨wanted, none⟩) := by
    refine .keyed hname (fun w => put ⟨w, none⟩) (fun a ha => hwhole a (hmem a (Or.inl ha)))
      fun a ha => ?_
    obtain ⟨f, hf, hput⟩ := hchange a (hmem a (Or.inl ha)) false
    exact ⟨f, hf, hput {}⟩
  have hunwanted : Leads change? (keyedText ("!" ++ name) (unwanted.map display))
      (put ⟨wanted, none⟩) (put ⟨wanted, unwanted⟩) := by
    refine .keyed hname.negate (fun u => put ⟨wanted, u⟩)
      (fun a ha => hwhole a (hmem a (Or.inr ha))) fun a ha => ?_
    obtain ⟨f, hf, hput⟩ := hchange a (hmem a (Or.inr ha)) true
    exact ⟨f, hf, hput ⟨wanted, none⟩⟩
  exact hwanted.append hunwanted

/-! ## Parsing joined texts -/

namespace Leads

variable {nested : BlockParser} {t : ValueType} {texts : List String} {r r' : Rules Constraint}

/-- The directives of texts that lead from rules to rules: none clears the constraint, and together
they change the rules and nothing else. -/
theorem foldl_apply (h : Leads (Rules.change? nested t) texts r r') :
    ∃ ds, (texts.map String.toList).filterMap parse? = ds ∧ ds.length = texts.length ∧
      ds.any Directive.clears = false ∧ ∀ note badName,
        ds.foldl (Constraint.apply nested t) ⟨r, note, badName⟩ = ⟨r', note, badName⟩ := by
  induction h with
  | nil => exact ⟨[], rfl, rfl, rfl, fun _ _ => rfl⟩
  | @cons text texts d k f r r' written keyword effective change _ ih =>
    obtain ⟨ds, hds, hlength, hclears, hfold⟩ := ih
    have hclear := clears_of_keyword keyword effective
    have happly : ∀ note badName,
        Constraint.apply nested t ⟨r, note, badName⟩ d = ⟨f r, note, badName⟩ := by
      intro note badName
      rw [apply_of_keyword keyword effective, Bool.bne_false, change]
    refine ⟨d :: ds, ?_, ?_, ?_, fun note badName => ?_⟩
    · rw [List.map_cons, List.filterMap_cons, written.reads, hds]
    · rw [List.length_cons, List.length_cons, hlength]
    · rw [List.any_cons, hclear, hclears]
      rfl
    · rw [List.foldl_cons, happly]
      exact hfold note badName

/-- **Texts that lead from the first rules of a type to some rules are parsed to these rules**, when
they are joined by commas with or without blanks. -/
theorem parse (h : Leads (Rules.change? ShapeCheck.parse t) texts r r') (hne : texts ≠ [])
    (hinit : Rules.initial? t = some r) {blanks : List Char}
    (hblanks : ∀ c ∈ blanks, Text.isBlank c = true) :
    ShapeCheck.parse t ((',' :: blanks).intercalate (texts.map String.toList)) =
      some ⟨r', none, none⟩ := by
  obtain ⟨ds, hds, hlength, hclears, hfold⟩ := h.foldl_apply
  have hempty : ds.isEmpty = false := by
    rw [List.isEmpty_eq_false_iff, ← List.length_pos_iff, hlength, List.length_pos_iff]
    exact hne
  rw [parse_eq_build, tokenize_intercalate hblanks h.whole, hds, build, buildWith_eq, hempty,
    if_neg Bool.false_ne_true, Constraint.initial?, hinit, Option.map_some, Option.map_some, hclears,
    if_neg Bool.false_ne_true, hfold]

end Leads

end ShapeCheck
