import ShapeCheck.Check.Checker
import ShapeCheck.Proofs.Acceptance
import ShapeCheck.Proofs.WrittenArguments

/-!
# Two forms of one argument

The argument of a keyword that takes one text may stand in parentheses or behind an equals sign.

* `change?_congr` — what a directive of such a keyword changes depends on its unquoted argument
  alone, but for items that arrays contain: these are read from the argument as it stands;
* `Value.ofLiteral_stripQuotes_iff` — when the quotes of such an item make no difference;
* `tokenize_call_argument`, `tokenize_keyed_argument` — the tokens of the two forms: they differ in
  the quotes of the argument as it stands;
* `forms_agree_iff` — so the two forms are accepted alike and build the same rules, but for items of
  arrays whose quotes, taken off in parentheses, kept them from being read as something else.
-/

set_option autoImplicit false

namespace ShapeCheck

open Directive Text

/-! ## What is read of an argument -/

/-- The keywords that take one text. -/
def Keyword.textual : List Keyword :=
  [.min, .max, .maxExclusive, .minLength, .maxLength, .startsWith, .endsWith, .contains, .match,
   .instanceOf]

theorem Keyword.effective_of_textual {k : Keyword} (hk : k ∈ textual) :
    k ≠ .noConstraint ∧ k ≠ .note := by
  have hall : ∀ k ∈ textual, k ≠ .noConstraint ∧ k ≠ .note := by decide
  exact hall k hk

section

variable {nested : BlockParser} {t : ValueType} {k : Keyword} {implied : Bool} {d d' : Directive}

/-- **Directives of one keyword with the same unquoted argument change the same**, but for items
that arrays contain. -/
theorem change?_congr (hk : k ∈ Keyword.textual) (hother : ¬ (t = .array ∧ k = .contains))
    (htext : d.argumentText? = d'.argumentText?) (negated : Bool) :
    Rules.change? nested t k negated d = Rules.change? nested t k negated d' := by
  have hnumber : d.number? = d'.number? := by rw [number?, htext, number?]
  have hlength : d.length? = d'.length? := by rw [length?, htext, length?]
  have hstring : d.string? = d'.string? := by rw [string?, htext, string?]
  cases t with
  | none | boolean | regex => rfl
  | number => cases k <;> simp only [Rules.change?, NumberRules.change?, hnumber]
  | string => cases k <;> simp only [Rules.change?, StringRules.change?, hlength, hstring]
  | object =>
    cases k <;> first
    | simp only [Rules.change?, ObjectRules.change?, hstring]; done
    | exact absurd hk (by decide)
  | array =>
    cases k <;> first
    | simp only [Rules.change?, ArrayRules.change?, hlength]; done
    | exact absurd ⟨rfl, rfl⟩ hother
    | exact absurd hk (by decide)

theorem apply_congr_argument (hname : Keyword.ofName? d.name = some (k, implied))
    (hname' : Keyword.ofName? d'.name = some (k, implied)) (hk : k ∈ Keyword.textual)
    (hother : ¬ (t = .array ∧ k = .contains)) (hnegated : d.negated = d'.negated)
    (htext : d.argumentText? = d'.argumentText?) (c : Constraint) :
    (c.apply nested t d).note = (c.apply nested t d').note ∧
    (c.apply nested t d).badName.isSome = (c.apply nested t d').badName.isSome ∧
    (c.apply nested t d).rules = (c.apply nested t d').rules := by
  have heffective := Keyword.effective_of_textual hk
  rw [apply_of_keyword hname heffective, apply_of_keyword hname' heffective, hnegated,
    change?_congr hk hother htext]
  cases Rules.change? nested t k (d'.negated != implied) d' with
  | some f => exact ⟨rfl, rfl, rfl⟩
  | none =>
    refine ⟨rfl, ?_, rfl⟩
    cases c.badName <;> rfl

end

/-! ## Items of arrays -/

theorem Value.ofLiteral_trim (t : List Char) : Value.ofLiteral (trim t) = Value.ofLiteral t := by
  rw [Value.ofLiteral, trim_trim, Value.ofLiteral]

theorem Value.ofLiteral_stripQuotes_iff (t : List Char) :
    Value.ofLiteral (stripQuotes (trim t)) = Value.ofLiteral t ↔
      ∀ inner, unquote? (trim t) = some inner →
        Value.ofLiteral inner = .string (String.ofList inner) := by
  rw [stripQuotes]
  cases hquote : unquote? (trim t) with
  | none => exact iff_of_true (Value.ofLiteral_trim t) (by rintro _ ⟨⟩)
  | some inner =>
    have hkeyed : Value.ofLiteral t = .string (String.ofList inner) := by
      rw [Value.ofLiteral, hquote]
    rw [Option.getD_some, hkeyed]
    exact ⟨fun h _ hinner => Option.some.inj hinner ▸ h, fun h => h inner rfl⟩

theorem apply_item {d : Directive} {implied : Bool}
    (hname : Keyword.ofName? d.name = some (.contains, implied)) {raw : List Char}
    (hraw : d.rawArgument? = some raw) (nested : BlockParser) :
    Constraint.apply nested .array { rules := .array {} } d =
      { rules := .array
          { contains := ({} : TwoSided Value).set (d.negated != implied) (.ofLiteral raw) } } := by
  rw [apply_of_keyword hname (by decide), Rules.change?, ArrayRules.change?, hraw]
  rfl

/-! ## The two forms -/

section

variable {word argument : List Char} (hhead : IsHead word) (negated : Bool)
  (hargument : ∀ c ∈ argument, c ∉ [',', '(', ')', unitSeparator])

include hhead hargument

/-- In parentheses an argument has no quotes, however it is read. -/
theorem tokenize_call_argument : ∃ d,
    tokenize (signed negated (word ++ '(' :: (argument ++ [')']))) = [d] ∧
      d.name = trim word ∧ d.negated = negated ∧
      d.argumentText? = some (stripQuotes (trim argument)) ∧
      d.rawArgument? = some (stripQuotes (trim argument)) := by
  have hfree : ∀ {c : Char}, c ∈ [',', '(', ')', unitSeparator] → c ∉ argument :=
    fun hc hmem => hargument _ hmem hc
  have hbalanced : Balanced argument := .of_no_paren (hfree (by decide)) (hfree (by decide))
  have htoken := tokenize_call hhead hbalanced negated
  rw [restore_eq_self (hfree (by decide))] at htoken
  exact ⟨_, htoken, rfl, rfl, rfl, rfl⟩

/-- Behind an equals sign it keeps its quotes for what is read as it stands. -/
theorem tokenize_keyed_argument : ∃ d,
    tokenize (signed negated (word ++ '=' :: argument)) = [d] ∧
      d.name = trim word ∧ d.negated = negated ∧
      d.argumentText? = some (stripQuotes (trim argument)) ∧
      d.rawArgument? = some (trim argument) := by
  have hfree : ∀ {c : Char}, c ∈ [',', '(', ')', unitSeparator] → c ∉ argument :=
    fun hc hmem => hargument _ hmem hc
  have huncut : Uncut ',' 0 argument := uncut_of_not_mem (hfree (by decide))
  have htoken := tokenize_keyed hhead huncut negated
  rw [restore_eq_self (hfree (by decide))] at htoken
  exact ⟨_, htoken, rfl, rfl, rfl, rfl⟩

end

/-- **An argument in parentheses and the same argument behind an equals sign** are accepted alike,
by every type and in either polarity, and build the same rules: all but those for an item of arrays,
which agree iff the item has no quotes or is read as a text without them as well. -/
theorem forms_agree_iff {word : List Char} {k : Keyword} {implied : Bool}
    (hword : Keyword.ofName? word = some (k, implied)) (hk : k ∈ Keyword.textual) (negated : Bool)
    {argument : List Char} (hargument : ∀ c ∈ argument, c ∉ [',', '(', ')', unitSeparator])
    (t : ValueType) :
    let call := parse t (signed negated (word ++ '(' :: (argument ++ [')'])))
    let keyed := parse t (signed negated (word ++ '=' :: argument))
    call.isSome = keyed.isSome ∧
    ∀ c ∈ call, ∀ c' ∈ keyed,
      c.note = c'.note ∧ c.badName.isSome = c'.badName.isSome ∧
      (¬ (t = .array ∧ k = .contains) → c.rules = c'.rules) ∧
      (t = .array ∧ k = .contains →
        c.rules = .array { contains :=
          ({} : TwoSided Value).set (negated != implied) (.ofLiteral (stripQuotes (trim argument))) } ∧
        c'.rules = .array { contains :=
          ({} : TwoSided Value).set (negated != implied) (.ofLiteral argument) } ∧
        (c.rules = c'.rules ↔ ∀ inner, unquote? (trim argument) = some inner →
          Value.ofLiteral inner = .string (String.ofList inner))) := by
  obtain ⟨d, hd, hname, hnegated, htext, hraw⟩ :=
    tokenize_call_argument (Keyword.isHead hword) negated hargument
  obtain ⟨d', hd', hname', hnegated', htext', hraw'⟩ :=
    tokenize_keyed_argument (Keyword.isHead hword) negated hargument
  rw [← Keyword.ofName?_trim] at hword
  have heffective := Keyword.effective_of_textual hk
  have hspelled : Keyword.ofName? d.name = some (k, implied) := hname ▸ hword
  have hspelled' : Keyword.ofName? d'.name = some (k, implied) := hname' ▸ hword
  intro call keyed
  cases hfirst : Constraint.initial? t with
  | none =>
    have hnone : ∀ block, parse t block = none := fun block => by
      simp [parse_eq_build, build, buildWith, hfirst]
    have hcall : call = none := hnone _
    have hkeyed : keyed = none := hnone _
    rw [hcall, hkeyed]
    exact ⟨rfl, by rintro _ ⟨⟩⟩
  | some first =>
    have hcall : call = some (first.apply parse t d) :=
      parse_of_token hfirst hd (clears_of_keyword hspelled heffective)
    have hkeyed : keyed = some (first.apply parse t d') :=
      parse_of_token hfirst hd' (clears_of_keyword hspelled' heffective)
    rw [hcall, hkeyed]
    refine ⟨rfl, ?_⟩
    rintro c ⟨⟩ c' ⟨⟩
    by_cases hitem : t = .array ∧ k = .contains
    · obtain ⟨rfl, rfl⟩ := hitem
      cases hfirst
      -- only the stored items differ: one is read without its quotes, the other with them
      rw [apply_item hspelled hraw, apply_item hspelled' hraw', hnegated, hnegated',
        Value.ofLiteral_trim, ← Value.ofLiteral_stripQuotes_iff]
      refine ⟨rfl, rfl, fun h => absurd ⟨rfl, rfl⟩ h, fun _ => ⟨rfl, rfl, ?_⟩⟩
      dsimp only
      rw [Rules.array.injEq, ArrayRules.mk.injEq]
      cases negated != implied <;> simp [TwoSided.set]
    · obtain ⟨hnote, hbad, hrules⟩ := apply_congr_argument hspelled hspelled' hk hitem
        (hnegated.trans hnegated'.symm) (htext.trans htext'.symm) first
      exact ⟨hnote, hbad, fun _ => hrules, fun h => absurd h hitem⟩

/-- A quoted item of arrays that is read as a text without its quotes as well. -/
theorem forms_agree_iff_quoted_text :
    let word := "not Contains".toList
    let argument := " 'a=b' ".toList
    (Keyword.ofName? word = some (.contains, true) ∧ .contains ∈ Keyword.textual ∧
      ∀ c ∈ argument, c ∉ [',', '(', ')', unitSeparator]) ∧
    ∃ c c', parse .array "!not Contains( 'a=b' )".toList = some c ∧
      parse .array "!not Contains= 'a=b' ".toList = some c' ∧ c.rules = c'.rules ∧
      c.rules = .array { contains := { wanted := some (.string "a=b") } } := by
  intro word argument
  have hword : Keyword.ofName? word = some (.contains, true) := by decide +kernel
  have hk : .contains ∈ Keyword.textual := by decide
  have hargument : ∀ c ∈ argument, c ∉ [',', '(', ')', unitSeparator] :=
    List.all_iff_forall_prop.mp (by decide)
  obtain ⟨hsome, hagree⟩ := forms_agree_iff hword hk true hargument .array
  obtain ⟨c, hc⟩ : ∃ c, parse .array "!not Contains( 'a=b' )".toList = some c :=
    Option.isSome_iff_exists.mp (by decide +kernel)
  obtain ⟨c', hc'⟩ : ∃ c', parse .array "!not Contains= 'a=b' ".toList = some c' :=
    Option.isSome_iff_exists.mp (hsome ▸ hc ▸ rfl)
  obtain ⟨-, -, -, hitems⟩ := hagree c hc c' hc'
  obtain ⟨hrules, -, hiff⟩ := hitems ⟨rfl, rfl⟩
  refine ⟨⟨hword, hk, hargument⟩, c, c', hc, hc', hiff.mpr ?_, hrules.trans ?_⟩
  · intro inner hinner
    obtain rfl : inner = "a=b".toList := Option.some.inj (hinner.symm.trans (by decide +kernel))
    with_unfolding_all rfl
  · with_unfolding_all rfl

/-- A quoted number: behind an equals sign it is a text, in parentheses it is the number. -/
theorem quoted_number_depends_on_form :
    let k : Checker := { seed := some 7 }
    parse .array "contains='3'".toList =
      some { rules := .array { contains := { wanted := some (.string "3") } } } ∧
    parse .array "contains('3')".toList =
      some { rules := .array { contains := { wanted := some (.number 3) } } } ∧
    k.validate (.array [.string "3"]) "contains='3'" = "" ∧
    k.validate (.array [.string "3"]) "contains('3')" ≠ "" := by
  intro k
  refine ⟨?_, ?_, by decide +kernel, by decide +kernel⟩ <;>
  · rw [parse_eq_build]
    with_unfolding_all rfl

end ShapeCheck
