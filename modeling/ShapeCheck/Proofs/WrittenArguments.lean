import Mathlib.Data.Bool.AllAny
import ShapeCheck.Proofs.Acceptance
import ShapeCheck.Proofs.DirectiveForms
import ShapeCheck.Proofs.Quoting

/-!
# Directives with any argument

A name may have blanks in it and around it, and what stands behind an equals sign or between
parentheses may be any text, also a blank or a quoted one.

* `IsHead` — what a text must be like to stand before an argument: words and the spellings of
  keywords are (`IsWord.isHead`, `Keyword.isHead`);
* `parse?_call`, `parse?_keyed` — the directive that a name with an argument writes;
* `tokenize_call`, `tokenize_keyed` — alone in a block, such a directive is its only token;
* `parse_of_token` — what is built from such a block.
-/

set_option autoImplicit false

namespace ShapeCheck

open ShapeCheck.Text

namespace Directive

/-! ## Names before arguments -/

/-- The characters that end the name of a directive, negate it, or quote a block. -/
def headMarks : List Char := ['!', '=', '(', ')', ',', '"', '\'', unitSeparator]

/-- A text that may stand before an argument: something of it shows, and it has no such marks. -/
structure IsHead (name : List Char) : Prop where
  unmarked : ∀ c ∈ name, c ∉ headMarks
  visible : trim name ≠ []

theorem IsWord.isHead {name : List Char} (h : IsWord name) : IsHead name where
  unmarked c hc hmark := by
    have hmarks : headMarks.all (!isWordChar ·) = true := by decide
    have hword := List.all_eq_true.mp hmarks c hmark
    rw [h.chars c hc] at hword
    cases hword
  visible := by
    rw [trim_eq_self h.whole.ends]
    exact h.nonempty

namespace IsHead

variable {name : List Char} (h : IsHead name)

include h

theorem not_mem {c : Char} (hc : c ∈ headMarks) : c ∉ name := fun hmem => h.unmarked c hmem hc

theorem uncut {mark : Char} (hmark : mark ∈ headMarks) : Uncut mark 0 name :=
  uncut_of_not_mem (h.not_mem hmark)

theorem balanced : Balanced name :=
  .of_no_paren (h.not_mem (by decide)) (h.not_mem (by decide))

theorem trimStart_ne_nil : trimStart name ≠ [] := fun hnil =>
  h.visible (by rw [trim, hnil]; rfl)

theorem trimStart : IsHead (trimStart name) where
  unmarked c hc := h.unmarked c ((trimStart_sublist name).subset hc)
  visible := by
    rw [trim_trimStart]
    exact h.visible

theorem unquoted : Unquoted name :=
  .of_not_mem (h.not_mem (by decide)) (h.not_mem (by decide))

theorem parse?_eq_none : Call.parse? (trim name) = none := by
  rw [Call.parse?, if_neg]
  intro hlast
  have hmem : ')' ∈ trim (trim name) := List.mem_of_getLast? hlast
  exact h.not_mem (by decide) ((trim_sublist _).subset ((trim_sublist _).subset hmem))

end IsHead

/-! ## What they write -/

theorem splitBang_of_head_ne {text : List Char} (h : text.head? ≠ some '!') :
    splitBang text = (false, text) := by
  rw [splitBang.eq_def]
  split
  · exact absurd rfl h
  · rfl

theorem trimEnd_closed (argument : List Char) : trimEnd (argument ++ [')']) = argument ++ [')'] :=
  trimEnd_append_cons (by decide) argument []

theorem trim_call (name argument : List Char) :
    trim (name ++ '(' :: (argument ++ [')'])) = trimStart name ++ '(' :: (argument ++ [')']) := by
  rw [trim_append_cons (by decide), trimEnd_closed]

/-- What stands behind the first opening parenthesis is the argument of a call iff it ends in a
closing one, whatever the name before it is. -/
theorem Call.parse?_open {name : List Char} (hopen : '(' ∉ name) (hvisible : trim name ≠ [])
    (rest : List Char) :
    Call.parse? (name ++ '(' :: rest) =
      if ('(' :: trimEnd rest).getLast? = some ')' then
        let raw := stripQuotes (trim (trimEnd rest).dropLast)
        some ⟨trim name, raw, .parse raw⟩
      else none := by
  have hlast : (trimStart name ++ '(' :: trimEnd rest).getLast? =
      ('(' :: trimEnd rest).getLast? := List.getLast?_append_of_ne_nil _ (List.cons_ne_nil _ _)
  have hstart : '(' ∉ trimStart name := fun hmem =>
    hopen ((trimStart_sublist name).subset hmem)
  have hempty : (trim name).isEmpty = false := by
    rw [List.isEmpty_eq_false_iff]
    exact hvisible
  rw [Call.parse?, trim_append_cons (by decide), hlast]
  dsimp only
  rw [cutAt?_append _ hstart]
  dsimp only
  rw [trim_trimStart, hempty, if_neg Bool.false_ne_true]

/-- A name with an argument in parentheses is a call, whose argument is trimmed and unquoted. -/
theorem Call.parse?_named {name : List Char} (hopen : '(' ∉ name) (hvisible : trim name ≠ [])
    (argument : List Char) :
    Call.parse? (name ++ '(' :: (argument ++ [')'])) =
      some ⟨trim name, stripQuotes (trim argument), .parse (stripQuotes (trim argument))⟩ := by
  have hlast : ('(' :: (argument ++ [')'])).getLast? = some ')' := by
    rw [← List.cons_append, List.getLast?_concat]
  rw [Call.parse?_open hopen hvisible, trimEnd_closed, if_pos hlast, List.dropLast_concat]

/-- Trimming stops at the exclamation mark or the name in front, and behind a visible character. -/
theorem trim_signed (name : List Char) (negated : Bool) {c : Char} (hc : isBlank c = false)
    (rest : List Char) :
    trim (signed negated (name ++ c :: rest)) =
      signed negated ((if negated then name else trimStart name) ++ c :: trimEnd rest) := by
  cases negated with
  | false => exact trim_append_cons hc name rest
  | true =>
    have hbang : trimStart ('!' :: (name ++ c :: rest)) = '!' :: name ++ c :: rest :=
      List.dropWhile_cons_of_neg (by decide)
    show trimEnd (trimStart ('!' :: (name ++ c :: rest))) = '!' :: name ++ c :: trimEnd rest
    rw [hbang, trimEnd_append_cons hc]

section

variable {name : List Char} (hname : IsHead name)

include hname

theorem splitBang_trim_signed (negated : Bool) {c : Char} (hc : isBlank c = false)
    (rest : List Char) :
    splitBang (trim (signed negated (name ++ c :: rest))) =
      (negated, trimStart name ++ c :: trimEnd rest) := by
  rw [trim_signed name negated hc]
  cases negated with
  | false =>
    refine splitBang_of_head_ne fun hhead => ?_
    change (trimStart name ++ c :: trimEnd rest).head? = some '!' at hhead
    rw [List.head?_append_of_ne_nil _ hname.trimStart_ne_nil] at hhead
    exact hname.trimStart.not_mem (by decide) (List.mem_of_head? hhead)
  | true =>
    show (true, trimStart (name ++ c :: trimEnd rest)) = _
    rw [trimStart_append_cons hc]

theorem unquote?_trim_signed (negated : Bool) {c : Char} (hc : isBlank c = false)
    (rest : List Char) : unquote? (trim (signed negated (name ++ c :: rest))) = none := by
  rw [trim_signed name negated hc]
  refine unquote?_eq_none ?_
  cases negated with
  | false => exact hname.trimStart.unquoted.append hname.trimStart_ne_nil _
  | true =>
    rintro _ ⟨⟩
    decide

/-- **A name with an argument in parentheses** writes the directive of the trimmed name with the
argument trimmed and unquoted. -/
theorem parse?_call {argument : List Char} (hargument : Balanced argument) (negated : Bool) :
    parse? (signed negated (name ++ '(' :: (argument ++ [')']))) =
      some { ofCall negated (trim name) (stripQuotes (trim argument)) with
        text := trimStart name ++ '(' :: (argument ++ [')']) } := by
  have huncut : Uncut '=' 0 (trimStart name ++ '(' :: (argument ++ [')'])) :=
    uncut_balanced_append (hname.trimStart.uncut (by decide)) hname.trimStart.balanced
      (hargument.uncut_paren '=')
  have hhead : nameAndValue (trimStart name ++ '(' :: (argument ++ [')'])) =
      (trimStart name ++ '(' :: (argument ++ [')']), none) := by
    rw [nameAndValue, cutTopLevel?_of_uncut huncut]
  have hsplit : splitBang (trim (signed negated (name ++ '(' :: (argument ++ [')'])))) =
      (negated, trimStart name ++ '(' :: (argument ++ [')'])) := by
    rw [splitBang_trim_signed hname negated (by decide), trimEnd_closed]
  rw [parse?_of_splitBang hsplit (by simp) hhead,
    Call.parse?_named (hname.trimStart.not_mem (by decide)) hname.trimStart.visible,
    trim_trimStart]
  rfl

/-- **A name with a value behind an equals sign** writes the directive of the trimmed name with the
trimmed value, whatever the value is. -/
theorem parse?_keyed (value : List Char) (negated : Bool) :
    parse? (signed negated (name ++ '=' :: value)) =
      some { ofKeyed negated (trim name) (trim value) with
        text := trimStart name ++ '=' :: trimEnd value } := by
  have hhead : nameAndValue (trimStart name ++ '=' :: trimEnd value) =
      (trim name, some (trim value)) := by
    rw [nameAndValue, cutTopLevel?_append (by decide) (by decide)
      (hname.trimStart.uncut (by decide)) (hname.trimStart.balanced.depth 0)]
    dsimp only
    rw [trim_trimStart, trim_trimEnd]
  rw [parse?_of_splitBang (splitBang_trim_signed hname negated (by decide) value) (by simp) hhead,
    hname.parse?_eq_none]
  rfl

/-! ## Alone in a block -/

theorem uncut_signed (negated : Bool) {rest : List Char} (huncut : Uncut ',' 0 rest) :
    Uncut ',' 0 (signed negated (name ++ rest)) := by
  have htext := uncut_balanced_append (hname.uncut (by decide)) hname.balanced huncut
  cases negated with
  | false => exact htext
  | true => exact ⟨rfl, htext⟩

theorem balanced_signed (negated : Bool) {rest : List Char} (hrest : Balanced rest) :
    Balanced (signed negated (name ++ rest)) := by
  have htext := hname.balanced.append hrest
  cases negated with
  | false => exact htext
  | true =>
    have hbang : Balanced ['!'] := .of_no_paren (by decide) (by decide)
    exact hbang.append htext

/-- Only the argument of a directive can have unit separators to restore. -/
theorem restore_signed (negated : Bool) {c : Char} (hc : c ≠ unitSeparator) (rest : List Char) :
    restore (signed negated (name ++ c :: rest)) = signed negated (name ++ c :: restore rest) := by
  have hcons : ∀ (d : Char) (text : List Char), d ≠ unitSeparator →
      restore (d :: text) = d :: restore text := fun d text hd => by
    rw [restore, List.map_cons, if_neg hd, ← restore]
  have happend : restore (name ++ c :: rest) = name ++ c :: restore rest := by
    rw [restore_append, hcons c rest hc, restore_eq_self (hname.not_mem (by decide))]
  cases negated with
  | false => exact happend
  | true =>
    show restore ('!' :: (name ++ c :: rest)) = '!' :: (name ++ c :: restore rest)
    rw [hcons '!' _ (by decide), happend]

theorem tokenize_signed (negated : Bool) {c : Char} (hc : isBlank c = false)
    (hseparator : c ≠ unitSeparator) {rest : List Char} (huncut : Uncut ',' 0 (c :: rest)) :
    tokenize (signed negated (name ++ c :: rest)) =
      (parse? (signed negated (name ++ c :: restore rest))).toList := by
  rw [tokenize_of_unquoted (unquote?_trim_signed hname negated hc rest), splitTopLevel,
    splitFrom_of_uncut (uncut_signed hname negated huncut),
    ← restore_signed hname negated hseparator]
  simp only [List.filterMap_cons, List.filterMap_nil]
  cases parse? (restore (signed negated (name ++ c :: rest))) <;> rfl

/-- **Alone in a block, a name with an argument in parentheses** is the token of that call. -/
theorem tokenize_call {argument : List Char} (hargument : Balanced argument) (negated : Bool) :
    tokenize (signed negated (name ++ '(' :: (argument ++ [')']))) =
      [{ ofCall negated (trim name) (stripQuotes (trim (restore argument))) with
        text := trimStart name ++ '(' :: (restore argument ++ [')']) }] := by
  have hrestore : restore (argument ++ [')']) = restore argument ++ [')'] :=
    restore_append argument [')']
  rw [tokenize_signed hname negated (by decide) (by decide) (hargument.uncut_paren ','), hrestore,
    parse?_call hname hargument.restore]
  rfl

/-- **Alone in a block, a name with a value behind an equals sign** is the token of that value. -/
theorem tokenize_keyed {value : List Char} (hvalue : Uncut ',' 0 value) (negated : Bool) :
    tokenize (signed negated (name ++ '=' :: value)) =
      [{ ofKeyed negated (trim name) (trim (restore value)) with
        text := trimStart name ++ '=' :: trimEnd (restore value) }] := by
  have huncut : Uncut ',' 0 ('=' :: value) := ⟨rfl, hvalue⟩
  rw [tokenize_signed hname negated (by decide) (by decide) huncut, parse?_keyed hname]
  rfl

end

end Directive

theorem parse_of_token {t : ValueType} {first : Constraint}
    (hfirst : Constraint.initial? t = some first) {block : List Char} {d : Directive}
    (htoken : Directive.tokenize block = [d]) (hclear : d.clears = false) :
    parse t block = some (first.apply parse t d) := by
  rw [parse_eq_build, htoken, build_eq_foldl hfirst (List.cons_ne_nil d [])
    (List.forall_mem_singleton.mpr hclear)]
  rfl

/-! ## Spellings of keywords -/

namespace Keyword

theorem normalize_trim (word : List Char) : normalize (trim word) = normalize word := by
  obtain ⟨front, back, hfront, hback, hword⟩ := exists_blanks_around word
  have hblanks : ∀ {blanks : List Char}, (∀ c ∈ blanks, isBlank c = true) →
      blanks.filter (fun c => !isBlank c) = [] := fun h =>
    List.filter_eq_nil_iff.mpr fun c hc => by simp [h c hc]
  conv_rhs => rw [hword]
  rw [normalize, normalize, List.filter_append, List.filter_append, hblanks hfront, hblanks hback,
    List.nil_append, List.append_nil]

theorem ofName?_trim (word : List Char) : ofName? (trim word) = ofName? word := by
  rw [ofName?, normalize_trim, ofName?]

/-- What spells a keyword is in the list of spellings, without its blanks and in lower case. -/
theorem exists_spelling {name : List Char} {entry : Keyword × Bool} (h : ofName? name = some entry) :
    ∃ e ∈ spellings, e.1.toList = normalize name ∧ e.2 = entry := by
  obtain ⟨_, _, hspellings, -⟩ := List.lookup_eq_some_iff.mp h
  refine ⟨(String.ofList (normalize name), entry), ?_, String.toList_ofList, rfl⟩
  rw [hspellings]
  exact List.mem_append_right _ List.mem_cons_self

/-- **What spells a keyword may stand before an argument**, in any letter case and with any blanks:
no mark turns into a letter in lower case. -/
theorem isHead {name : List Char} {entry : Keyword × Bool} (h : ofName? name = some entry) :
    Directive.IsHead name := by
  obtain ⟨e, he, hname, -⟩ := exists_spelling h
  refine ⟨fun c hc hmark => ?_, fun hblank => ?_⟩
  · have hlower : ∀ m ∈ Directive.headMarks, isBlank m = false ∧ Unicode.toLower m = [m] :=
      List.all_iff_forall_prop.mp (by decide)
    have hfree : ∀ e ∈ spellings, ∀ m ∈ Directive.headMarks, m ∉ e.1.toList := by
      have hall : ∀ e ∈ spellings, Directive.headMarks.all (· ∉ e.1.toList) = true := by decide
      exact fun e he => List.all_iff_forall_prop.mp (hall e he)
    obtain ⟨hvisible, hself⟩ := hlower c hmark
    refine hfree e he c hmark ?_
    rw [hname, normalize, List.mem_flatMap]
    exact ⟨c, List.mem_filter.mpr ⟨hc, by simp [hvisible]⟩, by rw [hself]; exact List.mem_cons_self⟩
  · have hnonempty : ∀ e ∈ spellings, e.1.toList ≠ [] := by decide
    refine hnonempty e he ?_
    rw [hname, ← normalize_trim, hblank]
    rfl

end Keyword

end ShapeCheck
