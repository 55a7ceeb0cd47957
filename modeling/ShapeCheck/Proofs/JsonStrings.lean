import ShapeCheck.Json.Reader
import ShapeCheck.Json.Writer

/-!
# What strings say

The grammar of JSON strings, `Spells`, and the reader and the writer against it.

* `readString_eq_ok_iff` — a string is read exactly when its body spells something, to the closing
  quote and no further;
* `spells_escaped` — what the writer puts between quotes spells the text that it writes.
-/

set_option autoImplicit false

namespace ShapeCheck.Json

open Input

/-! ## The grammar -/

/-- The number that four hexadecimal digits write. -/
def code? : List Char → Option Nat
  | [a, b, c, d] => hexValue? (.char a) (.char b) (.char c) (.char d)
  | _ => none

/-- The ways to write a character behind a backslash: a letter, the digits of its code, or those of
a pair of surrogates. -/
inductive Escape : List Char → Char → Prop
  | letter {c d : Char} (h : escaped? c = some d) : Escape [c] d
  | code {digits : List Char} {n : Nat} (h : code? digits = some n)
      (hn : ¬ (0xD800 ≤ n ∧ n ≤ 0xDFFF)) : Escape ('u' :: digits) (Char.ofNat n)
  | pair {first second : List Char} {m n : Nat} (hfirst : code? first = some m)
      (hm : 0xD800 ≤ m ∧ m ≤ 0xDBFF) (hsecond : code? second = some n)
      (hn : 0xDC00 ≤ n ∧ n ≤ 0xDFFF) :
      Escape ('u' :: (first ++ '\\' :: 'u' :: second))
        (Char.ofNat ((m - 0xD800) * 0x400 + (n - 0xDC00) + 0x10000))

/-- The body of a string spells what the string says. -/
inductive Spells : List Char → List Char → Prop
  | nil : Spells [] []
  | plain {c : Char} {body said : List Char} (hquote : c ≠ '"') (hslash : c ≠ '\\')
      (hcontrol : ¬ c.toNat < 0x20) (h : Spells body said) : Spells (c :: body) (c :: said)
  | escape {written body said : List Char} {c : Char} (hc : Escape written c)
      (h : Spells body said) : Spells ('\\' :: (written ++ body)) (c :: said)

theorem Result.as_eq_ok {α β : Type} {f : α → β} {r : Result α} {b : β} {rest : List Symbol}
    (h : r.as f = .ok (b, rest)) : ∃ a, r = .ok (a, rest) ∧ b = f a := by
  cases r with
  | error e => cases h
  | ok result => cases h; exact ⟨result.1, rfl, rfl⟩

theorem ofChars_append (p q : List Char) : ofChars (p ++ q) = ofChars p ++ ofChars q :=
  List.map_append

/-! ## Escapes -/

theorem readCode_ofChars {digits : List Char} {n : Nat} (h : code? digits = some n)
    (rest : List Symbol) : readCode (ofChars digits ++ rest) = .ok (n, rest) := by
  unfold code? at h
  split at h
  · simp only [ofChars, List.map_cons, List.map_nil, List.cons_append, List.nil_append, readCode, h]
  · cases h

theorem exists_char_of_hexDigit? {s : Symbol} {n : Nat} (h : hexDigit? s = some n) :
    ∃ c, s = .char c := by
  cases s with
  | char c => exact ⟨c, rfl⟩
  | stray b => cases h

theorem exists_digits_of_readCode {text rest : List Symbol} {n : Nat}
    (h : readCode text = .ok (n, rest)) :
    ∃ digits, text = ofChars digits ++ rest ∧ code? digits = some n := by
  unfold readCode at h
  split at h
  · rename_i a b c d rest
    split at h
    · rename_i hvalue
      cases h
      obtain ⟨_, ha, _, hb, _, hc, _, hd, -⟩ : ∃ w, hexDigit? a = some w ∧ ∃ x,
          hexDigit? b = some x ∧ ∃ y, hexDigit? c = some y ∧ ∃ z, hexDigit? d = some z ∧
            ((w * 16 + x) * 16 + y) * 16 + z = n := by
        simpa [hexValue?, Option.bind_eq_some_iff] using hvalue
      obtain ⟨a, rfl⟩ := exists_char_of_hexDigit? ha
      obtain ⟨b, rfl⟩ := exists_char_of_hexDigit? hb
      obtain ⟨c, rfl⟩ := exists_char_of_hexDigit? hc
      obtain ⟨d, rfl⟩ := exists_char_of_hexDigit? hd
      exact ⟨[a, b, c, d], rfl, hvalue⟩
    · cases h
  · split at h <;> cases h

theorem readEscape_ofChars {written : List Char} {c : Char} (h : Escape written c)
    (rest : List Symbol) : readEscape (ofChars written ++ rest) = .ok (c, rest) := by
  cases h with
  | @letter l d h =>
    show readEscape (.char l :: rest) = _
    rw [readEscape, h]
    rintro rfl
    cases h
  | @code digits n h hn =>
    show readCodes (ofChars digits ++ rest) = _
    rw [readCodes, readCode_ofChars h]
    dsimp only
    rw [if_neg (by omega), if_neg (by omega)]
  | @pair first second m n hfirst hm hsecond hn =>
    show readCodes (ofChars (first ++ '\\' :: 'u' :: second) ++ rest) = _
    rw [ofChars_append, List.append_assoc, readCodes, readCode_ofChars hfirst]
    dsimp only
    rw [if_neg (by omega), if_pos hm]
    show readSecondHalf m (.char '\\' :: .char 'u' :: (ofChars second ++ rest)) = _
    rw [readSecondHalf, readCode_ofChars hsecond]
    dsimp only
    rw [if_pos hn]

theorem exists_written_of_readSecondHalf {m : Nat} {text rest : List Symbol} {c : Char}
    (h : readSecondHalf m text = .ok (c, rest)) :
    ∃ second n, text = ofChars ('\\' :: 'u' :: second) ++ rest ∧ code? second = some n ∧
      (0xDC00 ≤ n ∧ n ≤ 0xDFFF) ∧
      c = Char.ofNat ((m - 0xD800) * 0x400 + (n - 0xDC00) + 0x10000) := by
  unfold readSecondHalf at h
  split at h
  · cases h
  · cases h
  · split at h
    · cases h
    · rename_i more n rest hcode
      obtain ⟨second, rfl, hsecond⟩ := exists_digits_of_readCode hcode
      split at h
      · rename_i hn
        obtain ⟨rfl, rfl⟩ := Prod.mk.inj (Except.ok.inj h)
        exact ⟨second, n, rfl, hsecond, hn, rfl⟩
      · cases h
  · cases h
  · cases h

theorem exists_written_of_readEscape {text rest : List Symbol} {c : Char}
    (h : readEscape text = .ok (c, rest)) :
    ∃ written, text = ofChars written ++ rest ∧ Escape written c := by
  unfold readEscape at h
  split at h
  · cases h
  · rename_i text
    unfold readCodes at h
    cases hcode : readCode text with
    | error e => simp only [hcode] at h; cases h
    | ok result =>
      obtain ⟨m, more⟩ := result
      obtain ⟨first, rfl, hfirst⟩ := exists_digits_of_readCode hcode
      simp only [hcode] at h
      split at h
      · cases h
      · rename_i hsecond
        split at h
        · rename_i hm
          obtain ⟨second, n, rfl, hcode, hn, hc⟩ := exists_written_of_readSecondHalf h
          rw [hc]
          refine ⟨'u' :: (first ++ '\\' :: 'u' :: second), ?_, .pair hfirst hm hcode hn⟩
          simp only [ofChars, List.map_cons, List.map_append, List.cons_append, List.append_assoc]
        · rename_i hm
          cases h
          exact ⟨'u' :: first, rfl, .code hfirst (by omega)⟩
  · rename_i c more hu
    split at h
    · rename_i d hd
      cases h
      exact ⟨[c], rfl, .letter hd⟩
    · cases h
  · cases h

/-! ## Strings -/

theorem readSymbols_escape {text more : List Symbol} {c : Char}
    (h : readEscape text = .ok (c, more)) :
    readSymbols (.char '\\' :: text) = (readSymbols more).as (.char c :: ·) := by
  rw [readSymbols]
  split
  · rename_i hread
    rw [h] at hread
    cases hread
  · rename_i hread
    rw [h] at hread
    cases hread
    rfl

theorem readSymbols_spells {body said : List Char} (h : Spells body said) (rest : List Symbol) :
    readSymbols (ofChars body ++ .char '"' :: rest) = .ok (ofChars said, rest) := by
  induction h with
  | nil =>
    show readSymbols (.char '"' :: rest) = _
    rw [readSymbols]
    rfl
  | @plain c body said hquote hslash hcontrol h ih =>
    show readSymbols (.char c :: (ofChars body ++ .char '"' :: rest)) = _
    rw [readSymbols, if_neg hcontrol, ih]
    · rfl
    · exact hquote
    · exact hslash
  | @escape written body said c hc h ih =>
    show readSymbols (.char '\\' :: (ofChars (written ++ body) ++ .char '"' :: rest)) = _
    rw [ofChars_append, List.append_assoc, readSymbols_escape (readEscape_ofChars hc _), ih]
    rfl

theorem chars?_eq_some {symbols : List Symbol} {said : List Char}
    (h : chars? symbols = some said) : symbols = ofChars said := by
  induction symbols generalizing said with
  | nil => cases h; rfl
  | cons s symbols ih =>
    cases s with
    | stray b => cases h
    | char c =>
      obtain ⟨rest, hrest, rfl⟩ := Option.map_eq_some_iff.mp h
      rw [ih hrest]
      rfl

theorem chars?_ofChars (text : List Char) : chars? (ofChars text) = some text := by
  induction text with
  | nil => rfl
  | cons c text ih =>
    show (chars? (ofChars text)).map (c :: ·) = _
    rw [ih]
    rfl

theorem ofChars_eq_cons {s : Symbol} {symbols : List Symbol} {text : List Char}
    (h : s :: symbols = ofChars text) :
    ∃ c rest, s = .char c ∧ symbols = ofChars rest ∧ text = c :: rest := by
  obtain ⟨c, rest, rfl, rfl, rfl⟩ := List.map_eq_cons_iff.mp h.symm
  exact ⟨c, rest, rfl, rfl, rfl⟩

theorem exists_body_of_readSymbols {text rest symbols : List Symbol}
    (h : readSymbols text = .ok (symbols, rest)) {said : List Char}
    (hsaid : symbols = ofChars said) :
    ∃ body, text = ofChars body ++ .char '"' :: rest ∧ Spells body said := by
  fun_induction readSymbols text generalizing symbols said with
  | case1 => cases h
  | case2 =>
    cases h
    cases List.map_eq_nil_iff.mp hsaid.symm
    exact ⟨[], rfl, .nil⟩
  | case3 => cases h
  | case4 text c more hread _ ih =>
    obtain ⟨symbols, hmore, rfl⟩ := Result.as_eq_ok h
    obtain ⟨_, said, ⟨⟩, rfl, rfl⟩ := ofChars_eq_cons hsaid
    obtain ⟨body, rfl, hbody⟩ := ih hmore rfl
    obtain ⟨written, rfl, hwritten⟩ := exists_written_of_readEscape hread
    refine ⟨'\\' :: (written ++ body), ?_, .escape hwritten hbody⟩
    simp only [ofChars, List.map_cons, List.map_append, List.cons_append, List.append_assoc]
  | case5 => cases h
  | case6 c text hquote hslash hcontrol ih =>
    obtain ⟨symbols, hmore, rfl⟩ := Result.as_eq_ok h
    obtain ⟨_, said, ⟨⟩, rfl, rfl⟩ := ofChars_eq_cons hsaid
    obtain ⟨body, rfl, hbody⟩ := ih hmore rfl
    exact ⟨c :: body, rfl, .plain hquote hslash hcontrol hbody⟩
  | case7 =>
    obtain ⟨symbols, -, rfl⟩ := Result.as_eq_ok h
    obtain ⟨_, _, ⟨⟩, -, -⟩ := ofChars_eq_cons hsaid

theorem readString_eq_ok_iff {text rest : List Symbol} {said : List Char} :
    readString text = .ok (said, rest) ↔
      ∃ body, text = ofChars body ++ .char '"' :: rest ∧ Spells body said := by
  refine ⟨fun h => ?_, ?_⟩
  · unfold readString at h
    split at h
    · cases h
    · rename_i symbols rest hread
      split at h
      · rename_i chars hchars
        cases h
        exact exists_body_of_readSymbols hread (chars?_eq_some hchars)
      · cases h
  · rintro ⟨body, rfl, hbody⟩
    rw [readString, readSymbols_spells hbody]
    dsimp only
    rw [chars?_ofChars]

/-! ## Written strings -/

theorem hexDigit?_digitChar_all :
    ∀ n, n < 16 → hexDigit? (.char (Nat.digitChar n)) = some n := by decide

/-- The code of a control character is written with two zeros in front. -/
theorem Escape.control {c : Char} (hc : c.toNat < 32) :
    Escape ['u', '0', '0', Nat.digitChar (c.toNat / 16), Nat.digitChar (c.toNat % 16)] c := by
  have hcode : code? ['0', '0', Nat.digitChar (c.toNat / 16), Nat.digitChar (c.toNat % 16)] =
      some (c.toNat / 16 * 16 + c.toNat % 16) := by
    have hzero : hexDigit? (.char '0') = some 0 := rfl
    simp [code?, hexValue?, hzero, hexDigit?_digitChar_all _ (show c.toNat / 16 < 16 by omega),
      hexDigit?_digitChar_all _ (show c.toNat % 16 < 16 by omega)]
  rw [Nat.div_add_mod'] at hcode
  have h := Escape.code hcode (by omega)
  rwa [Char.ofNat_toNat] at h

theorem Spells.escapeChar_append (c : Char) {body said : List Char} (h : Spells body said) :
    Spells (escapeChar c ++ body) (c :: said) := by
  have hletter : ∀ {l d : Char}, c = d → escaped? l = some d →
      Spells (['\\', l] ++ body) (c :: said) := by
    rintro l _ rfl hl
    exact .escape (.letter hl) h
  have hcode : ∀ {n : Nat}, c.toNat = n → c = Char.ofNat n := by
    rintro _ rfl
    exact (Char.ofNat_toNat c).symm
  unfold escapeChar
  split
  · exact hletter ‹_› rfl
  split
  · exact hletter ‹_› rfl
  split
  · exact hletter ‹_› rfl
  split
  · exact hletter ‹_› rfl
  split
  · exact hletter ‹_› rfl
  split
  · exact hletter (hcode ‹_›) rfl
  split
  · exact hletter (hcode ‹_›) rfl
  split
  · exact .escape (.control ‹_›) h
  · rename_i hquote hslash _ _ _ _ _ hcontrol
    exact .plain hquote hslash hcontrol h

theorem spells_escaped : ∀ said : List Char, Spells (said.flatMap escapeChar) said
  | [] => .nil
  | c :: said => (spells_escaped said).escapeChar_append c

end ShapeCheck.Json
