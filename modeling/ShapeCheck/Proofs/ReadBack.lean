import ShapeCheck.Constraint.Build
import ShapeCheck.Proofs.BuiltRules
import ShapeCheck.Proofs.ListedItems
import ShapeCheck.Proofs.ShownCharacters
import ShapeCheck.Proofs.WrittenArguments
import ShapeCheck.Proofs.WrittenNumbers

/-!
# Arguments that are read back

A directive gives back the length, number, text, literal, list of names or mode that was written
into it:

* `length?_ofKeyed`, `number?_ofKeyed`, `string?_ofKeyed` — values behind an equals sign;
* `Value.ofLiteral_display` — literals, whose texts stand in quotes;
* `argumentItems_ofCall` — names in parentheses, unless a single one reads as a number;
* `mode?_ofKeyed_word`, `mode?_ofKeyed_call` — modes without and with parameters.

Texts have to be plain (`IsPlain`), and numbers have to read back from their displayed form
(`ReadsBack`).
-/

set_option autoImplicit false

namespace ShapeCheck

open Directive

/-! ## Plain texts and numbers -/

/-- The characters that mean something in a block, and those that mean something in quotes. -/
def reserved : List Char := [',', '(', ')', '|', '\'', '"', '\\']

/-- A text that means itself wherever it stands: it is not empty, has no blanks at its ends and no
reserved characters, and all its characters show. -/
structure IsPlain (s : String) : Prop where
  nonempty : s.toList ≠ []
  ends : Text.VisibleEnds s.toList
  unreserved : ∀ c ∈ s.toList, c ∉ reserved
  shown : ∀ c ∈ s.toList, Text.quoteChar c = [c]

/-- The displayed form of a double is read as that double. -/
def ReadsBack (x : Float) : Prop := Decimal.readFloat? (Decimal.display x).toList = some x

/-- A list of one name that reads as a finite number. -/
def IsLoneNumber (names : List String) : Prop :=
  ∃ name x, names = [name] ∧ Decimal.readFloat? name.toList = some x ∧ x.isFinite = true

namespace IsPlain

variable {s : String}

/-- A text of ASCII characters from the space on is plain if none of them is reserved and it has no
blanks at its ends. -/
theorem of_ascii (hne : s.toList ≠ []) (hhead : s.toList.head?.all (!Text.isBlank ·) = true)
    (hlast : s.toList.getLast?.all (!Text.isBlank ·) = true)
    (hall : s.toList.all (fun c => 32 ≤ c.toNat ∧ c.toNat < 127 ∧ c ∉ reserved) = true) :
    IsPlain s := by
  have hchars : ∀ c ∈ s.toList, 32 ≤ c.toNat ∧ c.toNat < 127 ∧ c ∉ reserved :=
    fun c hc => of_decide_eq_true (List.all_eq_true.mp hall c hc)
  refine ⟨hne, .of_all hhead hlast, fun c hc => (hchars c hc).2.2, fun c hc => ?_⟩
  obtain ⟨hlow, hhigh, hreserved⟩ := hchars c hc
  refine Text.quoteChar_ascii hlow hhigh ?_ ?_ <;>
  · rintro rfl
    exact hreserved (by decide)

variable (h : IsPlain s)

include h

theorem unmarked : ∀ c ∈ s.toList, c ∉ marks := by
  intro c hc hmark
  rcases List.mem_append.mp (show c ∈ [',', '|', '(', ')'] ++ [unitSeparator] from hmark) with hm | hm
  · have hreserved : [',', '|', '(', ')'].all reserved.contains = true := by decide
    exact h.unreserved c hc (List.contains_iff_mem.mp (List.all_eq_true.mp hreserved c hm))
  · rw [List.mem_singleton.mp hm] at hc
    exact Text.quoteChar_unitSeparator (h.shown _ hc)

theorem whole : Whole s.toList := .of_chars h.unmarked h.ends h.nonempty

theorem unquoted : Unquoted s.toList :=
  .of_not_mem (fun hmem => h.unreserved _ hmem (by decide))
    fun hmem => h.unreserved _ hmem (by decide)

theorem toList_quote : (Text.quote s).toList = '"' :: s.toList ++ ['"'] := by
  have hchars : s.toList.flatMap Text.quoteChar = s.toList := by
    rw [List.flatMap_congr h.shown, List.flatMap_singleton']
  rw [Text.quote, String.toList_ofList, hchars]

end IsPlain

theorem whole_quote : Whole ['"'] := .of_char (by decide) (by decide)

/-! ## Values behind an equals sign -/

namespace Directive

variable {negated : Bool} {name : List Char}

theorem argumentText?_ofKeyed {value : List Char} (h : Unquoted value) :
    (ofKeyed negated name value).argumentText? = some value := by
  show some (Text.stripQuotes value) = some value
  rw [Text.stripQuotes_eq_self h]

theorem string?_ofKeyed {s : String} (h : IsPlain s) :
    (ofKeyed negated name s.toList).string? = some s := by
  rw [string?, argumentText?_ofKeyed h.unquoted, Option.map_some, String.ofList_toList]

theorem length?_ofKeyed {n : Nat} (h : n < Nat.pow 2 64) :
    (ofKeyed negated name (lengthText n).toList).length? = some n := by
  have hword := Decimal.isWord_natDigits n
  rw [lengthText, String.toList_ofList, length?, argumentText?_ofKeyed hword.unquoted,
    Option.bind_some, Text.trim_eq_self hword.whole.ends, Decimal.readLength?_natDigits h]

theorem number?_ofKeyed {x : Float} (hnan : x.isNaN = false) (h : ReadsBack x) :
    (ofKeyed negated name (Decimal.display x).toList).number? = some x := by
  have hword := Decimal.isWord_display x
  rw [number?, argumentText?_ofKeyed hword.unquoted, Option.bind_some,
    Text.trim_eq_self hword.whole.ends, h, Option.filter_some, hnan]
  rfl

end Directive

/-! ## Literals -/

/-- **A literal is read back from its displayed form.** -/
theorem Value.ofLiteral_display {v : Value} (hv : v.IsLiteral) (htexts : ∀ s ∈ v.texts, IsPlain s)
    (hnumbers : ∀ x ∈ v.numbers, ReadsBack x) : Value.ofLiteral v.display.toList = v := by
  cases v with
  | null => rfl
  | bool flag => cases flag <;> rfl
  | number x =>
    have hread : ReadsBack x := hnumbers x List.mem_cons_self
    have hword := Decimal.isWord_display x
    have hne : ∀ {word : List Char}, Decimal.readFloat? word = none →
        (Decimal.display x).toList ≠ word := by
      rintro word hnone rfl
      rw [hread] at hnone
      cases hnone
    have hfinite : x.isFinite = true := hv
    rw [Value.display, Value.ofLiteral, Text.trim_eq_self hword.whole.ends,
      Text.unquote?_eq_none hword.unquoted]
    dsimp only
    rw [if_neg (hne (by decide)), if_neg (hne (by decide)), if_neg (hne (by decide)), hread,
      Option.filter_some, hfinite]
    rfl
  | string s =>
    have hplain : IsPlain s := htexts s List.mem_cons_self
    have hwhole : Whole ('"' :: s.toList ++ ['"']) :=
      whole_quote.append (hplain.whole.append whole_quote)
    rw [Value.display, hplain.toList_quote, Value.ofLiteral, Text.trim_eq_self hwhole.ends,
      Text.unquote?_quoted (Or.inl rfl)]
    dsimp only
    rw [String.ofList_toList]
  | array _ => exact hv.elim
  | object _ => exact hv.elim
  | regex _ => exact hv.elim

theorem Value.whole_display {v : Value} (hv : v.IsLiteral) (htexts : ∀ s ∈ v.texts, IsPlain s) :
    Whole v.display.toList := by
  have hword : ∀ {word : String}, IsWord word.toList → Whole word.toList := fun h => h.whole
  cases v with
  | null => exact hword (.of_all (by decide))
  | bool flag => cases flag <;> exact hword (.of_all (by decide))
  | number x => exact (Decimal.isWord_display x).whole
  | string s =>
    have hplain : IsPlain s := htexts s List.mem_cons_self
    rw [Value.display, hplain.toList_quote]
    exact whole_quote.append (hplain.whole.append whole_quote)
  | array _ => exact hv.elim
  | object _ => exact hv.elim
  | regex _ => exact hv.elim

/-! ## Lists in parentheses -/

namespace Directive

/-- Names are shown as they are, unless a single one reads as a number. -/
theorem shownItems_of_not_lone {names : List String} (h : ¬ IsLoneNumber names) :
    shownItems (names.map String.toList) = names.map String.toList := by
  match names with
  | [] => rfl
  | [s] =>
    have hnumber : (Decimal.readFloat? s.toList).filter Float.isFinite = none := by
      rw [Option.filter_eq_none_iff]
      intro x hx hfinite
      exact h ⟨s, x, rfl, hx, hfinite⟩
    show [shownItem s.toList] = [s.toList]
    rw [shownItem, hnumber]
  | s :: s' :: rest => rfl

section

variable {negated : Bool} {name : List Char} {names : List String}
  (hplain : ∀ s ∈ names, IsPlain s)

include hplain in
theorem item_of_mem_map_toList : ∀ p ∈ names.map String.toList, Item p := by
  intro p hp
  obtain ⟨s, hs, rfl⟩ := List.mem_map.mp hp
  exact { (hplain s hs).whole with
    comma := fun hmem => (hplain s hs).unreserved ',' hmem (by decide)
    unquoted := (hplain s hs).unquoted }

include hplain in
/-- **Plain names in parentheses are read back, unless a single one reads as a number.** -/
theorem argumentItems_ofCall (hne : names ≠ []) (hlone : ¬ IsLoneNumber names) :
    (ofCall negated name ([','].intercalate (names.map String.toList))).argumentItems =
      names.map String.toList := by
  have hlisted := listed_of_items (item_of_mem_map_toList hplain) (by rwa [Ne, List.map_eq_nil_iff])
  show (Argument.parse _).items = _
  rw [hlisted.items, shownItems_of_not_lone hlone]

/-! ## Modes -/

theorem isWord_mode (m : Mode) : IsWord m.name.toList := by
  cases m <;> exact .of_all (by decide)

theorem ofName?_mode (m : Mode) : Mode.ofName? m.name.toList = some m := by
  cases m <;> decide

theorem mode?_ofKeyed_word (m : Mode) :
    (ofKeyed negated name m.name.toList).mode? = some (m, none, none) := by
  have hword := isWord_mode m
  show Option.bind (some m.name.toList) _ = _
  rw [Option.bind_some, Text.trim_eq_self hword.whole.ends,
    Text.stripQuotes_eq_self hword.unquoted]
  dsimp only
  rw [Call.parse?_of_word hword]
  dsimp only
  rw [ofName?_mode]
  rfl

/-- **A mode with a list in parentheses** has the items of the list as its parameters. -/
theorem mode?_listed {d : Directive} {value word argument : List Char} {items : List (List Char)}
    {m : Mode} (hvalue : d.value = some value)
    (htrim : Text.trim value = Text.trim (word ++ '(' :: (argument ++ [')']))) (hword : IsHead word)
    (hmode : Mode.ofName? word = some m)
    (hlisted : Listed (Text.stripQuotes (Text.trim argument)) items) :
    d.mode? = some (m, (items.map String.ofList)[0]?, (items.map String.ofList)[1]?) := by
  have hquote : Text.stripQuotes (Text.trim value) =
      Text.trimStart word ++ '(' :: (argument ++ [')']) := by
    rw [htrim, trim_call, Text.stripQuotes_eq_self]
    exact hword.trimStart.unquoted.append hword.trimStart_ne_nil _
  have hmode' : Mode.ofName? (Text.trim word) = some m := by
    rw [Mode.ofName?, Keyword.normalize_trim]
    exact hmode
  rw [mode?, hvalue, Option.bind_some, hquote]
  dsimp only
  rw [Call.parse?_named (hword.trimStart.not_mem (by decide)) hword.trimStart.visible,
    Text.trim_trimStart]
  dsimp only
  rw [hmode', hlisted.params]
  rfl

include hplain in
/-- **A mode with plain parameters is read back.** -/
theorem mode?_ofKeyed_call (m : Mode) (hne : names ≠ []) :
    (ofKeyed negated name
      (m.name.toList ++ '(' :: ([','].intercalate (names.map String.toList) ++ [')']))).mode? =
      some (m, names[0]?, names[1]?) := by
  have hitems := item_of_mem_map_toList hplain
  have hmap : names.map String.toList ≠ [] := by rwa [Ne, List.map_eq_nil_iff]
  have hlisted := listed_of_items hitems hmap
  have hback : (names.map String.toList).map String.ofList = names := by
    rw [List.map_map]
    exact List.map_id'' (fun _ => String.ofList_toList) names
  rw [mode?_listed rfl rfl (isWord_mode m).isHead (ofName?_mode m) (hlisted.read.symm ▸ hlisted), hback]

end

end Directive

end ShapeCheck
