import Mathlib.Data.List.Nodup
import ShapeCheck.Proofs.EveryDepth

/-!
# What rules hold

The data that rules hold for their checks, and what is true of them whatever directives they were
built from:

* `Rules.texts`, `Rules.nameLists`, `Rules.numbers` — the data of one record of rules, without that
  of the constraints for elements;
* `Rules.Built`, `built_parse`, `built_build` — bounds are numbers, lengths fit into 64 bits, listed
  names are distinct, wanted elements are literals, and a second parameter comes with a first one.
-/

set_option autoImplicit false

namespace ShapeCheck

/-! ## The data of rules -/

/-- What the sides of a rule hold. -/
def TwoSided.sides {α : Type} (r : TwoSided α) : List α := r.wanted.toList ++ r.unwanted.toList

/-- The text that a literal is. -/
def Value.texts : Value → List String
  | .string s => [s]
  | _ => []

/-- The number that a literal is. -/
def Value.numbers : Value → List Float
  | .number x => [x]
  | _ => []

namespace Rules

variable {α : Type}

/-- The texts that rules hold: those looked for, names, and parameters. -/
def texts : Rules α → List String
  | .string r => r.startsWith.sides ++ r.endsWith.sides ++ r.contains.sides ++ r.pattern.sides
  | .object r => r.required ++ r.forbidden ++ r.instanceOf.sides
  | .array r => r.contains.sides.flatMap Value.texts ++ r.first.toList ++ r.second.toList
  | _ => []

/-- The lists of names of properties that rules hold. -/
def nameLists : Rules α → List (List String)
  | .object r => [r.required, r.forbidden]
  | _ => []

/-- The numbers that rules hold. -/
def numbers : Rules α → List Float
  | .number r => r.min.toList ++ r.max.toList ++ r.maxExclusive.toList
  | .array r => r.contains.sides.flatMap Value.numbers
  | _ => []

end Rules

/-! ## What building guarantees -/

/-- A value that a literal can write: null, a truth value, a finite number or a text. -/
def Value.IsLiteral : Value → Prop
  | .null => True
  | .bool _ => True
  | .number x => x.isFinite = true
  | .string _ => True
  | _ => False

/-- A bound on lengths fits into 64 bits. -/
def FitsLength (bound : Option Nat) : Prop := ∀ n, bound = some n → n < Nat.pow 2 64

/-- A bound on numbers is not NaN. -/
def IsBound (bound : Option Float) : Prop := ∀ x, bound = some x → x.isNaN = false

structure NumberRules.Built (r : NumberRules) : Prop where
  min : IsBound r.min
  max : IsBound r.max
  maxExclusive : IsBound r.maxExclusive

structure StringRules.Built (r : StringRules) : Prop where
  minLength : FitsLength r.minLength
  maxLength : FitsLength r.maxLength

structure ObjectRules.Built (r : ObjectRules) : Prop where
  required : r.required.Nodup
  forbidden : r.forbidden.Nodup

structure ArrayRules.Built {α : Type} (r : ArrayRules α) : Prop where
  minLength : FitsLength r.minLength
  maxLength : FitsLength r.maxLength
  contains : ∀ v ∈ r.contains.sides, v.IsLiteral
  first : r.mode = none → r.first = none
  second : r.first = none → r.second = none

/-- What is true of rules however they were built. -/
def Rules.Built {α : Type} : Rules α → Prop
  | .number r => r.Built
  | .string r => r.Built
  | .object r => r.Built
  | .array r => r.Built
  | _ => True

theorem Rules.built_of_initial? {α : Type} {t : ValueType} {r : Rules α}
    (h : Rules.initial? t = some r) : r.Built := by
  cases t with
  | none => cases h
  | boolean | regex =>
    cases h
    exact trivial
  | number =>
    cases h
    exact ⟨nofun, nofun, nofun⟩
  | string =>
    cases h
    exact ⟨nofun, nofun⟩
  | object =>
    cases h
    exact ⟨List.nodup_nil, List.nodup_nil⟩
  | array =>
    cases h
    exact ⟨nofun, nofun, nofun, fun _ => rfl, fun _ => rfl⟩

/-! ## Arguments of directives -/

theorem Directive.isBound_number? {d : Directive} {x : Float} (h : d.number? = some x) :
    IsBound (some x) := by
  intro y hy
  cases hy
  have hx := (Option.filter_eq_some_iff.mp h).2
  rwa [Bool.not_eq_true'] at hx

theorem Directive.fitsLength_length? {d : Directive} {n : Nat} (h : d.length? = some n) :
    FitsLength (some n) := by
  intro m hm
  cases hm
  obtain ⟨text, -, hread⟩ := Option.bind_eq_some_iff.mp h
  rw [Decimal.readLength?.eq_def] at hread
  dsimp only at hread
  -- with or without a plus sign, the digits are read in the same way
  split at hread <;>
  · split at hread
    · cases hread
    · split at hread
      · cases hread
        assumption
      · cases hread

theorem Value.isLiteral_ofLiteral (raw : List Char) : (Value.ofLiteral raw).IsLiteral := by
  rw [Value.ofLiteral]
  split
  · exact trivial
  · split
    · exact trivial
    · split
      · exact trivial
      · split
        · exact trivial
        · split
          · rename_i x hx
            exact (Option.filter_eq_some_iff.mp hx).2
          · exact trivial

theorem TwoSided.mem_sides_set {α : Type} {r : TwoSided α} {negated : Bool} {x y : α}
    (h : y ∈ (r.set negated x).sides) : y = x ∨ y ∈ r.sides := by
  rw [sides, List.mem_append, Option.mem_toList, Option.mem_toList] at h ⊢
  cases negated with
  | false =>
    rcases h with h | h
    · cases h
      exact Or.inl rfl
    · exact Or.inr (Or.inr h)
  | true =>
    rcases h with h | h
    · exact Or.inr (Or.inl h)
    · cases h
      exact Or.inl rfl

theorem nodup_addNames {known : List String} (new : List String) (h : known.Nodup) :
    (addNames known new).Nodup := by
  refine List.foldlRecOn new _ h fun names hnames name _ => ?_
  split
  · exact hnames
  · rename_i hnew
    rw [List.contains_iff_mem] at hnew
    refine List.nodup_append.mpr ⟨hnames, List.nodup_singleton name, ?_⟩
    rintro a ha b hb rfl
    exact hnew (List.mem_singleton.mp hb ▸ ha)

theorem Directive.mode?_second {d : Directive} {mode : Mode} {first second : Option String}
    (h : d.mode? = some (mode, first, second)) : first = none → second = none := by
  obtain ⟨raw, -, hmode⟩ := Option.bind_eq_some_iff.mp h
  dsimp only at hmode
  split at hmode <;>
  · obtain ⟨m, -, hpair⟩ := Option.map_eq_some_iff.mp hmode
    cases hpair
    intro hfirst
    rw [List.getElem?_eq_none_iff] at hfirst ⊢
    exact Nat.le_succ_of_le hfirst

/-! ## Changes of rules -/

section

variable {k : Keyword} {negated : Bool} {d : Directive}

theorem NumberRules.built_change? {f : NumberRules → NumberRules}
    (h : NumberRules.change? k negated d = some f) {r : NumberRules} (hr : r.Built) :
    (f r).Built := by
  cases negated with
  | true => cases h
  | false =>
    cases k with
    | integer | positive | negative | notZero =>
      cases h
      exact ⟨hr.min, hr.max, hr.maxExclusive⟩
    | min =>
      obtain ⟨x, hx, rfl⟩ := Option.map_eq_some_iff.mp h
      exact ⟨Directive.isBound_number? hx, hr.max, hr.maxExclusive⟩
    | max =>
      obtain ⟨x, hx, rfl⟩ := Option.map_eq_some_iff.mp h
      exact ⟨hr.min, Directive.isBound_number? hx, hr.maxExclusive⟩
    | maxExclusive =>
      obtain ⟨x, hx, rfl⟩ := Option.map_eq_some_iff.mp h
      exact ⟨hr.min, hr.max, Directive.isBound_number? hx⟩
    | _ => cases h

theorem StringRules.built_change? {f : StringRules → StringRules}
    (h : StringRules.change? k negated d = some f) {r : StringRules} (hr : r.Built) :
    (f r).Built := by
  cases k with
  | minLength =>
    cases negated with
    | true => cases h
    | false =>
      obtain ⟨n, hn, rfl⟩ := Option.map_eq_some_iff.mp h
      exact ⟨Directive.fitsLength_length? hn, hr.maxLength⟩
  | maxLength =>
    cases negated with
    | true => cases h
    | false =>
      obtain ⟨n, hn, rfl⟩ := Option.map_eq_some_iff.mp h
      exact ⟨hr.minLength, Directive.fitsLength_length? hn⟩
  | startsWith | endsWith | contains | «match» =>
    obtain ⟨s, -, rfl⟩ := Option.map_eq_some_iff.mp h
    exact ⟨hr.minLength, hr.maxLength⟩
  | _ => cases h

theorem ObjectRules.built_change? {f : ObjectRules → ObjectRules}
    (h : ObjectRules.change? k negated d = some f) {r : ObjectRules} (hr : r.Built) :
    (f r).Built := by
  cases k with
  | empty =>
    cases h
    cases negated <;> exact ⟨hr.required, hr.forbidden⟩
  | hasProperties =>
    rw [ObjectRules.change?] at h
    split at h
    · cases h
    · cases h
      cases negated with
      | false => exact ⟨nodup_addNames _ hr.required, hr.forbidden⟩
      | true => exact ⟨hr.required, nodup_addNames _ hr.forbidden⟩
  | instanceOf =>
    obtain ⟨name, -, rfl⟩ := Option.map_eq_some_iff.mp h
    exact ⟨hr.required, hr.forbidden⟩
  | notNested | noPrototype | canSerialize | noFalseyProps | noTruthyProps =>
    cases negated with
    | true => cases h
    | false =>
      cases h
      exact ⟨hr.required, hr.forbidden⟩
  | _ => cases h

theorem ArrayRules.built_change? {nested : BlockParser}
    {f : ArrayRules Constraint → ArrayRules Constraint}
    (h : ArrayRules.change? nested k negated d = some f) {r : ArrayRules Constraint}
    (hr : r.Built) : (f r).Built := by
  cases k with
  | contains =>
    obtain ⟨raw, -, rfl⟩ := Option.map_eq_some_iff.mp h
    refine ⟨hr.minLength, hr.maxLength, fun v hv => ?_, hr.first, hr.second⟩
    rcases TwoSided.mem_sides_set hv with rfl | hv
    · exact Value.isLiteral_ofLiteral raw
    · exact hr.contains v hv
  | minLength =>
    cases negated with
    | true => cases h
    | false =>
      obtain ⟨n, hn, rfl⟩ := Option.map_eq_some_iff.mp h
      exact ⟨Directive.fitsLength_length? hn, hr.maxLength, hr.contains, hr.first, hr.second⟩
  | maxLength =>
    cases negated with
    | true => cases h
    | false =>
      obtain ⟨n, hn, rfl⟩ := Option.map_eq_some_iff.mp h
      exact ⟨hr.minLength, Directive.fitsLength_length? hn, hr.contains, hr.first, hr.second⟩
  | each =>
    cases negated with
    | true => cases h
    | false =>
      obtain ⟨raw, -, rfl⟩ := Option.map_eq_some_iff.mp h
      exact ⟨hr.minLength, hr.maxLength, hr.contains, hr.first, hr.second⟩
  | checkType =>
    cases negated with
    | true => cases h
    | false =>
      obtain ⟨⟨mode, first, second⟩, hmode, rfl⟩ := Option.map_eq_some_iff.mp h
      exact ⟨hr.minLength, hr.maxLength, hr.contains, nofun, Directive.mode?_second hmode⟩
  | _ => cases h

end

theorem Rules.built_change? {nested : BlockParser} {t : ValueType} {k : Keyword} {negated : Bool}
    {d : Directive} {f : Rules Constraint → Rules Constraint}
    (h : Rules.change? nested t k negated d = some f) {r : Rules Constraint} (hr : r.Built) :
    (f r).Built := by
  cases t with
  | none => cases h
  | boolean => cases h
  | regex => cases h
  | number =>
    obtain ⟨g, hg, rfl⟩ := Option.map_eq_some_iff.mp h
    cases r with
    | number r => exact NumberRules.built_change? hg hr
    | _ => exact hr
  | string =>
    obtain ⟨g, hg, rfl⟩ := Option.map_eq_some_iff.mp h
    cases r with
    | string r => exact StringRules.built_change? hg hr
    | _ => exact hr
  | object =>
    obtain ⟨g, hg, rfl⟩ := Option.map_eq_some_iff.mp h
    cases r with
    | object r => exact ObjectRules.built_change? hg hr
    | _ => exact hr
  | array =>
    obtain ⟨g, hg, rfl⟩ := Option.map_eq_some_iff.mp h
    cases r with
    | array r => exact ArrayRules.built_change? hg hr
    | _ => exact hr

/-- **Rules at every depth of a parsed constraint are as directives build them.** -/
theorem built_parse {t : ValueType} {block : List Char} {c : Constraint}
    (h : parse t block = some c) : c.EveryDepth (fun _ r => r.Built) t :=
  everyDepth_parse (fun _ _ => Rules.built_of_initial?)
    (fun _ _ _ _ _ _ _ hf hr => Rules.built_change? hf hr) h

theorem built_build {t : ValueType} {ds : List Directive} {c : Constraint}
    (h : build t ds = some c) : c.EveryDepth (fun _ r => r.Built) t :=
  everyDepth_buildWith (fun _ _ => Rules.built_of_initial?)
    (fun _ _ _ _ _ _ _ hf hr => Rules.built_change? hf hr) (fun _ _ _ => built_parse) h

end ShapeCheck
