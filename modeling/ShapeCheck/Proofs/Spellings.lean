import ShapeCheck.Proofs.Acceptance
import ShapeCheck.Proofs.WrittenArguments

/-!
# Spellings of keywords

A keyword may be written in any letter case and with any blanks, some keywords have more than one
spelling, and some spellings imply a negation, which an exclamation mark takes back.

* `IsRead`, `exists_remainder` — what stands behind a keyword is read without the keyword;
* `step_eq_keyword`, `accepted_eq_keyword` — what a directive does depends on its name only through
  the keyword and the polarity;
* `SameMeaning` — directives of one keyword in one polarity that have read the same;
* `SameMeaning.step`, `SameMeaning.accepted` — such directives do the same and are understood alike;
* `AlikeBut`, `exists_alikeBut` — so lists with one or the other build the same rules and the same
  note, and remember the same directive that was not understood, as it was written;
* `spelling_never_matters` — so do all spellings of a keyword.
-/

set_option autoImplicit false

namespace ShapeCheck

open Directive Text

/-! ## Reading behind a keyword -/

theorem splitBang_trim_name {name : List Char} (hname : IsHead name) (negated : Bool) :
    splitBang (trim (signed negated name)) = (negated, trim name) := by
  obtain ⟨front, c, back, rfl, hc⟩ := exists_visible hname.visible
  rw [trim_signed front negated hc, trim_append_cons hc]
  cases negated with
  | false =>
    refine splitBang_of_head_ne fun hhead => ?_
    have hmem : '!' ∈ trim (front ++ c :: back) := by
      rw [trim_append_cons hc]
      exact List.mem_of_head? hhead
    exact hname.not_mem (by decide) ((trim_sublist _).subset hmem)
  | true =>
    show (true, trimStart (front ++ c :: trimEnd back)) = _
    rw [trimStart_append_cons hc]

namespace Directive

/-- What is read behind a keyword. -/
structure Remainder where
  value : Option (List Char)
  /-- What the call holds. -/
  raw : Option (List Char)
  /-- Whether the keyword is the name, and not only its beginning. -/
  named : Bool

/-- A directive that has been read from a keyword and a remainder. -/
structure IsRead (d : Directive) (negated : Bool) (word : List Char) (r : Remainder) : Prop where
  negated : d.negated = negated
  value : d.value = r.value
  raw : d.call.map (·.raw) = r.raw
  argument : d.call.map (·.argument) = r.raw.map .parse
  name : Keyword.ofName? d.name = if r.named then Keyword.ofName? word else none

/-- A call of what spells a keyword has been read from the keyword and what the call holds. -/
theorem isRead_call {negated : Bool} {name word : List Char}
    (hname : Keyword.ofName? name = Keyword.ofName? word) (text raw : List Char)
    (value : Option (List Char)) :
    IsRead ⟨text, negated, name, value, some ⟨name, raw, .parse raw⟩⟩ negated word
      ⟨value, some raw, true⟩ :=
  ⟨rfl, rfl, rfl, rfl, hname⟩

theorem ofName?_of_paren (front back : List Char) :
    Keyword.ofName? (front ++ '(' :: back) = none := by
  by_contra hsome
  obtain ⟨entry, hentry⟩ := Option.ne_none_iff_exists'.mp hsome
  exact (Keyword.isHead hentry).not_mem (by decide) (List.mem_append_right _ List.mem_cons_self)

theorem parse?_name {name : List Char} (hname : IsHead name) (negated : Bool) :
    parse? (signed negated name) = some (ofWord negated (trim name)) := by
  have huncut : Uncut '=' 0 (trim name) := uncut_of_not_mem fun hmem =>
    hname.not_mem (by decide) ((trim_sublist name).subset hmem)
  have hhead : nameAndValue (trim name) = (trim name, none) := by
    rw [nameAndValue, cutTopLevel?_of_uncut huncut]
  rw [parse?_of_splitBang (splitBang_trim_name hname negated) hname.visible hhead,
    hname.parse?_eq_none]
  rfl

/-- The equals sign behind an opening parenthesis is found whatever the name before it is. -/
theorem exists_nameAndValue (rest : List Char) : ∃ back value, ∀ {name : List Char}, IsHead name →
    nameAndValue (trimStart name ++ '(' :: trimEnd rest) =
      (trimStart name ++ '(' :: back, value) := by
  have hfrom : ∀ {name : List Char}, IsHead name →
      cutTopLevel? '=' (trimStart name ++ '(' :: trimEnd rest) =
        (cutFrom? '=' 1 (trimEnd rest)).map fun parts =>
          (trimStart name ++ '(' :: parts.1, parts.2) := fun {name} hname => by
    have hopen : cutFrom? '=' 0 ('(' :: trimEnd rest) =
        (cutFrom? '=' 1 (trimEnd rest)).map fun parts => ('(' :: parts.1, parts.2) := rfl
    rw [cutTopLevel?, cutFrom?_append _ (hname.trimStart.uncut (by decide)),
      hname.trimStart.balanced.depth, hopen, Option.map_map]
    rfl
  cases hcut : cutFrom? '=' 1 (trimEnd rest) with
  | none =>
    refine ⟨trimEnd rest, none, fun hname => ?_⟩
    rw [nameAndValue, hfrom hname, hcut]
    rfl
  | some parts =>
    refine ⟨trimEnd parts.1, some (trim parts.2), fun {name} hname => ?_⟩
    have hstart : trimStart (trimStart name) = trimStart name :=
      List.dropWhile_idempotent isBlank name
    rw [nameAndValue, hfrom hname, hcut, Option.map_some]
    dsimp only
    rw [trim_append_cons (by decide), hstart]

/-- **What stands behind a keyword is read without it.** -/
theorem exists_remainder {rest : List Char} (hrest : ∀ c, rest.head? = some c → c = '=' ∨ c = '(') :
    ∃ r : Remainder, ∀ {word : List Char}, IsHead word → ∀ negated : Bool,
      ∃ d, parse? (signed negated (word ++ rest)) = some d ∧ d.IsRead negated word r := by
  cases rest with
  | nil =>
    refine ⟨⟨none, none, true⟩, fun {word} hword negated => ⟨ofWord negated (trim word), ?_, ?_⟩⟩
    · rw [List.append_nil, parse?_name hword]
    · exact ⟨rfl, rfl, rfl, rfl, Keyword.ofName?_trim word⟩
  | cons c rest =>
    rcases hrest c rfl with rfl | rfl
    · refine ⟨⟨some (trim rest), none, true⟩, fun {word} hword negated => ?_⟩
      exact ⟨_, parse?_keyed hword rest negated,
        ⟨rfl, rfl, rfl, rfl, Keyword.ofName?_trim word⟩⟩
    · obtain ⟨back, value, hhead⟩ := exists_nameAndValue rest
      have hne : ∀ word : List Char, trimStart word ++ '(' :: trimEnd rest ≠ [] := fun word =>
        List.append_ne_nil_of_right_ne_nil _ (List.cons_ne_nil _ _)
      by_cases hclosed : ('(' :: trimEnd back).getLast? = some ')'
      · refine ⟨⟨value, some (stripQuotes (trim (trimEnd back).dropLast)), true⟩,
          fun {word} hword negated => ?_⟩
        rw [parse?_of_splitBang (splitBang_trim_signed hword negated (by decide) rest) (hne word)
          (hhead hword), Call.parse?_open (hword.trimStart.not_mem (by decide))
          hword.trimStart.visible, if_pos hclosed]
        refine ⟨_, rfl, isRead_call ?_ _ _ value⟩
        rw [trim_trimStart, Keyword.ofName?_trim]
      · refine ⟨⟨value, none, false⟩, fun {word} hword negated => ?_⟩
        rw [parse?_of_splitBang (splitBang_trim_signed hword negated (by decide) rest) (hne word)
          (hhead hword), Call.parse?_open (hword.trimStart.not_mem (by decide))
          hword.trimStart.visible, if_neg hclosed]
        exact ⟨_, rfl, ⟨rfl, rfl, rfl, rfl, ofName?_of_paren _ _⟩⟩

/-! ## Directives of one meaning -/

/-- The keyword of a directive, and whether the exclamation mark and the spelling negate it. -/
def keyword? (d : Directive) : Option (Keyword × Bool) :=
  (Keyword.ofName? d.name).map fun (k, implied) => (k, d.negated != implied)

/-- What a directive does depends on its name only through the keyword. -/
theorem step_eq_keyword (d : Directive) (nested : BlockParser) (t : ValueType) :
    d.step nested t =
      match d.keyword? with
      | some (.noConstraint, _) => .clear
      | some (.note, _) => .note d.rawArgument?
      | some (k, negated) =>
        match Rules.change? nested t k negated d with
        | some f => .change f
        | none => .reject
      | none => .reject := by
  unfold step keyword?
  cases Keyword.ofName? d.name with
  | none => rfl
  | some entry =>
    obtain ⟨k, implied⟩ := entry
    cases k <;> rfl

theorem clears_eq_keyword (d : Directive) :
    d.clears =
      match d.keyword? with
      | some (.noConstraint, _) => true
      | _ => false := by
  unfold clears keyword?
  cases Keyword.ofName? d.name with
  | none => rfl
  | some entry =>
    obtain ⟨k, implied⟩ := entry
    cases k <;> rfl

theorem accepted_eq_keyword (d : Directive) (t : ValueType) :
    d.accepted t =
      match d.keyword? with
      | some (.note, _) => true
      | some (k, negated) => (k.form? t negated).any d.gives
      | none => false := by
  unfold accepted keyword?
  cases Keyword.ofName? d.name with
  | none => rfl
  | some entry =>
    obtain ⟨k, implied⟩ := entry
    cases k <;> rfl

/-- Two directives have the same keyword in the same polarity, and have read the same behind it. -/
structure SameMeaning (d d' : Directive) : Prop where
  keyword : d.keyword? = d'.keyword?
  value : d.value = d'.value
  raw : d.call.map (·.raw) = d'.call.map (·.raw)
  argument : d.call.map (·.argument) = d'.call.map (·.argument)

/-- **Two spellings of a keyword have the same meaning**, if both or neither are negated. -/
theorem IsRead.sameMeaning {d d' : Directive} {n n' : Bool} {word word' : List Char} {r : Remainder}
    (h : d.IsRead n word r) (h' : d'.IsRead n' word' r) {k : Keyword} {i i' : Bool}
    (hword : Keyword.ofName? word = some (k, i)) (hword' : Keyword.ofName? word' = some (k, i'))
    (hpolarity : (n != i) = (n' != i')) : SameMeaning d d' where
  keyword := by
    rw [keyword?, keyword?, h.name, h'.name, hword, hword', h.negated, h'.negated]
    cases r.named with
    | false => rfl
    | true => exact congrArg (fun negated => some (k, negated)) hpolarity
  value := h.value.trans h'.value.symm
  raw := h.raw.trans h'.raw.symm
  argument := h.argument.trans h'.argument.symm

namespace SameMeaning

variable {d d' : Directive} (h : SameMeaning d d')

include h

theorem argumentText? : d.argumentText? = d'.argumentText? := by
  unfold Directive.argumentText?
  rw [h.value, h.raw]

theorem rawArgument? : d.rawArgument? = d'.rawArgument? := by
  unfold Directive.rawArgument?
  rw [h.value, h.raw]

theorem argumentItems : d.argumentItems = d'.argumentItems := by
  have hitems : ∀ d : Directive, d.argumentItems =
      match d.call.map (·.argument), d.value with
      | some argument, _ => argument.items
      | none, some value => (Argument.parse value).items
      | none, none => [] := fun d => by
    unfold Directive.argumentItems
    cases d.call <;> cases d.value <;> rfl
  rw [hitems, hitems, h.argument, h.value]

theorem mode? : d.mode? = d'.mode? := by
  unfold Directive.mode?
  rw [h.value]

theorem number? : d.number? = d'.number? := by
  rw [Directive.number?, h.argumentText?, Directive.number?]

theorem length? : d.length? = d'.length? := by
  rw [Directive.length?, h.argumentText?, Directive.length?]

theorem string? : d.string? = d'.string? := by
  rw [Directive.string?, h.argumentText?, Directive.string?]

theorem change? (nested : BlockParser) (t : ValueType) (k : Keyword) (negated : Bool) :
    Rules.change? nested t k negated d = Rules.change? nested t k negated d' := by
  cases t with
  | none | boolean | regex => rfl
  | number => simp only [Rules.change?, NumberRules.change?, h.number?]
  | string => simp only [Rules.change?, StringRules.change?, h.length?, h.string?]
  | object => simp only [Rules.change?, ObjectRules.change?, h.argumentItems, h.string?]
  | array =>
    simp only [Rules.change?, ArrayRules.change?, h.rawArgument?, h.length?, h.argumentText?,
      h.mode?]

/-- **They do the same** to every constraint. -/
theorem step (nested : BlockParser) (t : ValueType) : d.step nested t = d'.step nested t := by
  rw [step_eq_keyword, step_eq_keyword, h.keyword, h.rawArgument?]
  simp only [h.change?]

theorem clears : d.clears = d'.clears := by
  rw [clears_eq_keyword, clears_eq_keyword, h.keyword]

theorem gives (form : ArgumentForm) : d.gives form = d'.gives form := by
  cases form with
  | nothing => rfl
  | number => simp only [Directive.gives, h.number?]
  | length => simp only [Directive.gives, h.length?]
  | text | name => simp only [Directive.gives, h.string?]
  | names => simp only [Directive.gives, h.argumentItems]
  | literal => simp only [Directive.gives, h.rawArgument?]
  | mode => simp only [Directive.gives, h.mode?]

/-- **They are understood alike.** -/
theorem accepted (t : ValueType) : d.accepted t = d'.accepted t := by
  rw [accepted_eq_keyword, accepted_eq_keyword, h.keyword, funext h.gives]

end SameMeaning

end Directive

/-! ## What is built -/

/-- Two constraints are alike, and the same directive was not understood, which is one in the one
and another in the other if it is not written in both alike. -/
structure Constraint.AlikeBut (d d' : Directive) (c c' : Constraint) : Prop extends c.Alike c' where
  badName : c.badName = c'.badName ∨
    c.badName = some (String.ofList d.text) ∧ c'.badName = some (String.ofList d'.text)

section

variable {d d' : Directive} {c c' : Constraint} {nested : BlockParser} {t : ValueType}

theorem Constraint.AlikeBut.apply (h : c.AlikeBut d d' c') (e : Directive) :
    (c.apply nested t e).AlikeBut d d' (c'.apply nested t e) := by
  refine ⟨h.toAlike.apply nested t e, ?_⟩
  unfold Constraint.apply
  cases e.step nested t with
  | clear | note text | change f => exact h.badName
  | reject =>
    rcases h.badName with heq | ⟨hd, hd'⟩
    · exact Or.inl (by simp only [heq])
    · exact Or.inr ⟨by simp only [hd]; rfl, by simp only [hd']; rfl⟩

theorem Constraint.AlikeBut.foldl {ds : List Directive} (h : c.AlikeBut d d' c') :
    (ds.foldl (Constraint.apply nested t) c).AlikeBut d d'
      (ds.foldl (Constraint.apply nested t) c') := by
  induction ds generalizing c c' with
  | nil => exact h
  | cons e ds ih => exact ih (h.apply e)

/-- Directives of one meaning do the same, but for how they are written if not understood. -/
theorem Directive.SameMeaning.alikeBut (h : SameMeaning d d') (c : Constraint) :
    (c.apply nested t d).AlikeBut d d' (c.apply nested t d') := by
  unfold Constraint.apply
  rw [h.step]
  cases d'.step nested t with
  | clear | note text | change f => exact ⟨.refl _, Or.inl rfl⟩
  | reject =>
    refine ⟨⟨rfl, rfl⟩, ?_⟩
    cases c.badName with
    | none => exact Or.inr ⟨rfl, rfl⟩
    | some text => exact Or.inl rfl

end

theorem build_none (ds : List Directive) : build .none ds = none := by
  rw [build, buildWith_eq]
  split <;> rfl

/-- Directives that may stand for each other at any place in a list of directives. -/
structure Directive.Interchangeable (d d' : Directive) : Prop where
  accepted : ∀ t, d.accepted t = d'.accepted t
  step : ∀ nested t, d.step nested t = d'.step nested t
  built : ∀ t before after,
    build t (before ++ d :: after) = none ∧ build t (before ++ d' :: after) = none ∧ t = .none ∨
    ∃ c c', build t (before ++ d :: after) = some c ∧ build t (before ++ d' :: after) = some c' ∧
      c.AlikeBut d d' c'

/-- **Directives of one meaning are interchangeable.** -/
theorem Directive.SameMeaning.interchangeable {d d' : Directive} (h : SameMeaning d d') :
    d.Interchangeable d' := by
  refine ⟨h.accepted, h.step, fun t before after => ?_⟩
  by_cases ht : t = .none
  · rw [ht]
    exact Or.inl ⟨build_none _, build_none _, rfl⟩
  · obtain ⟨first, hfirst, -, -⟩ := exists_initial? ht
    have hbuild : ∀ d : Directive, build t (before ++ d :: after) =
        some (if (before ++ d :: after).any Directive.clears then first
          else (before ++ d :: after).foldl (Constraint.apply parse t) first) := fun d => by
      have hempty : (before ++ d :: after).isEmpty = false := by simp
      rw [build, buildWith_eq, hempty, if_neg Bool.false_ne_true, hfirst, Option.map_some]
    refine Or.inr ⟨_, _, hbuild d, hbuild d', ?_⟩
    rw [List.any_append, List.any_append, List.any_cons, List.any_cons, h.clears]
    split
    · exact ⟨.refl _, Or.inl rfl⟩
    · rw [List.foldl_append, List.foldl_append, List.foldl_cons, List.foldl_cons]
      exact (h.alikeBut _).foldl

/-! ## Spellings -/

/-- A spelling that implies a negation is "not" before a spelling that does not. -/
theorem Keyword.exists_plain {word : List Char} {k : Keyword}
    (h : Keyword.ofName? word = some (k, true)) : ∃ plain,
      Keyword.ofName? plain = some (k, false) ∧
        Keyword.normalize word = "not".toList ++ Keyword.normalize plain := by
  have htable : ∀ e ∈ spellings, e.2.2 = true → ∃ e' ∈ spellings,
      e'.2 = (e.2.1, false) ∧ e.1.toList = "not".toList ++ e'.1.toList := by decide +kernel
  have hself : ∀ e ∈ spellings,
      ofName? e.1.toList = some e.2 ∧ normalize e.1.toList = e.1.toList := by decide +kernel
  obtain ⟨e, he, hword, hentry⟩ := exists_spelling h
  obtain ⟨e', he', hplain, hnot⟩ := htable e he (by rw [hentry])
  obtain ⟨hname, hnormal⟩ := hself e' he'
  refine ⟨e'.1.toList, ?_, ?_⟩
  · rw [hname, hplain, hentry]
  · rw [hnormal, ← hword, hnot]

/-- Two texts write directives that may stand for each other. -/
def WriteAlike (text text' : List Char) : Prop :=
  ∃ d d', parse? text = some d ∧ parse? text' = some d' ∧ d.Interchangeable d'

/-- Two spellings of a keyword write alike if both or neither are negated, whatever stands behind
them. -/
theorem writeAlike_of_keyword {word word' : List Char} {k : Keyword} {i i' n n' : Bool}
    (hword : Keyword.ofName? word = some (k, i)) (hword' : Keyword.ofName? word' = some (k, i'))
    (hpolarity : (n != i) = (n' != i')) {rest : List Char}
    (hrest : ∀ c, rest.head? = some c → c = '=' ∨ c = '(') :
    WriteAlike (signed n (word ++ rest)) (signed n' (word' ++ rest)) := by
  obtain ⟨r, hread⟩ := exists_remainder hrest
  obtain ⟨d, hd, h⟩ := hread (Keyword.isHead hword) n
  obtain ⟨d', hd', h'⟩ := hread (Keyword.isHead hword') n'
  exact ⟨d, d', hd, hd', (h.sameMeaning h' hword hword' hpolarity).interchangeable⟩

/-- **The spelling of a keyword never matters.**  Two spellings of a keyword, each with or without
an exclamation mark, so that both or neither are negated, and with the same text behind them, which
is empty or begins with an equals sign or an opening parenthesis, write directives that are
understood alike by every type and do the same at any place in a list of directives: it builds the
same rules and the same note.  So "not" before a keyword, where that is a spelling of its negation,
is the same as an exclamation mark, and both are the same as neither. -/
theorem spelling_never_matters :
    (∀ {word word' : List Char} {k : Keyword} {i i' n n' : Bool},
      Keyword.ofName? word = some (k, i) → Keyword.ofName? word' = some (k, i') →
      (n != i) = (n' != i') → ∀ {rest : List Char},
        (∀ c, rest.head? = some c → c = '=' ∨ c = '(') →
          WriteAlike (signed n (word ++ rest)) (signed n' (word' ++ rest))) ∧
    ∀ {word : List Char} {k : Keyword}, Keyword.ofName? word = some (k, true) → ∃ plain,
      Keyword.ofName? plain = some (k, false) ∧
      Keyword.normalize word = "not".toList ++ Keyword.normalize plain ∧
      ∀ {rest : List Char}, (∀ c, rest.head? = some c → c = '=' ∨ c = '(') →
        WriteAlike ('!' :: (word ++ rest)) (plain ++ rest) ∧
          WriteAlike (word ++ rest) ('!' :: (plain ++ rest)) := by
  refine ⟨writeAlike_of_keyword, fun {word k} hword => ?_⟩
  obtain ⟨plain, hplain, hnot⟩ := Keyword.exists_plain hword
  refine ⟨plain, hplain, hnot, fun hrest => ⟨?_, ?_⟩⟩
  · exact @writeAlike_of_keyword _ _ _ _ _ true false hword hplain rfl _ hrest
  · exact @writeAlike_of_keyword _ _ _ _ _ false true hword hplain rfl _ hrest

/-- An exclamation mark before a negated spelling in capital letters and the plain one between
blanks, with a value that is accepted; and the same spelling without the mark, with a parenthesis
that is not closed. -/
theorem spelling_never_matters_negated :
    let word := "NOT Starts With".toList
    let word' := " startsWith ".toList
    (Keyword.ofName? word = some (.startsWith, true) ∧
      Keyword.ofName? word' = some (.startsWith, false) ∧ (true != true) = (false != false) ∧
      (∀ c, "='a(b'".toList.head? = some c → c = '=' ∨ c = '(') ∧
      WriteAlike "!NOT Starts With='a(b'".toList " startsWith ='a(b'".toList ∧
      (parse? "!NOT Starts With='a(b'".toList).any (·.accepted .string) = true) ∧
    (∀ c, "(a".toList.head? = some c → c = '=' ∨ c = '(') ∧
    ∃ plain, Keyword.ofName? plain = some (.startsWith, false) ∧
      WriteAlike "NOT Starts With(a".toList ('!' :: (plain ++ "(a".toList)) := by
  intro word word'
  have hword : Keyword.ofName? word = some (.startsWith, true) := by decide +kernel
  have hword' : Keyword.ofName? word' = some (.startsWith, false) := by decide +kernel
  have hvalue : ∀ c, "='a(b'".toList.head? = some c → c = '=' ∨ c = '(' := by
    rintro c ⟨⟩
    exact Or.inl rfl
  have hopen : ∀ c, "(a".toList.head? = some c → c = '=' ∨ c = '(' := by
    rintro c ⟨⟩
    exact Or.inr rfl
  obtain ⟨hspellings, hnegated⟩ := spelling_never_matters
  obtain ⟨plain, hplain, -, halike⟩ := hnegated hword
  have hpolarity : (true != true) = (false != false) := rfl
  exact ⟨⟨hword, hword', hpolarity, hvalue, hspellings hword hword' hpolarity hvalue,
    by decide +kernel⟩, hopen, plain, hplain, (halike hopen).2⟩

end ShapeCheck
