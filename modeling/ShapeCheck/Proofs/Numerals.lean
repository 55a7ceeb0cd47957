import Mathlib.Data.List.TakeWhile
import ShapeCheck.Json.Number

/-!
# Where numbers end

A JSON number is read from a part of a text that depends on no more of the text than that part.

* `exists_accumulate`, `skipDigits_append`, `exists_exponentDigits` — what becomes of digits does
  not depend on what stands behind them;
* `Takes` — a reader takes its result from a token, whatever stops the number behind it;
* `takes_readNumber` — numbers are read this way, from symbols that occur in numbers.
-/

set_option autoImplicit false

namespace ShapeCheck.Json

open Input

/-! ## Symbols of numbers -/

/-- Whether a symbol is a digit. -/
def isDigit (s : Symbol) : Bool := (digit? s).isSome

/-- Whether a number goes on with a symbol. -/
def continues (s : Symbol) : Bool :=
  isDigit s || s = .char '.' || s = .char 'e' || s = .char 'E'

/-- Whether a symbol may stand in a number. -/
def isNumeral (s : Symbol) : Bool := continues s || s = .char '+' || s = .char '-'

/-- A text does not begin with a digit. -/
def NoDigit (text : List Symbol) : Prop := ∀ s, text.head? = some s → isDigit s = false

/-- A text ends any number that stands before it. -/
def Stops (text : List Symbol) : Prop := ∀ s, text.head? = some s → continues s = false

theorem Stops.noDigit {text : List Symbol} (h : Stops text) : NoDigit text := fun s hs => by
  have hcontinues := h s hs
  simp only [continues, Bool.or_eq_false_iff] at hcontinues
  exact hcontinues.1.1.1

theorem stops_nil : Stops [] := nofun

theorem stops_cons {s : Symbol} (h : continues s = false) (text : List Symbol) :
    Stops (s :: text) := fun t ht => by
  rwa [← Option.some_inj.mp ht]

theorem digit?_eq_none {s : Symbol} (h : isDigit s = false) : digit? s = none := by
  rwa [isDigit, Option.isSome_eq_false_iff, Option.isNone_iff_eq_none] at h

theorem exists_digit? {s : Symbol} (h : isDigit s = true) : ∃ d, digit? s = some d :=
  Option.isSome_iff_exists.mp h

theorem isNumeral_of_isDigit {s : Symbol} (h : isDigit s = true) : isNumeral s = true := by
  simp [isNumeral, continues, h]

theorem exists_digits (text : List Symbol) : ∃ digits rest : List Symbol,
    text = digits ++ rest ∧ (∀ s ∈ digits, isDigit s = true) ∧ NoDigit rest := by
  refine ⟨text.takeWhile isDigit, text.dropWhile isDigit,
    List.takeWhile_append_dropWhile.symm, fun s hs => List.mem_takeWhile_imp hs, fun s hs => ?_⟩
  have hnot := List.head?_dropWhile_not isDigit text
  rw [hs] at hnot
  simpa using hnot

/-! ## Runs of digits -/

theorem accumulate_of_noDigit (n : Nat) {more : List Symbol} (h : NoDigit more) :
    accumulate n more = (n, 0, more) := by
  cases more with
  | nil => rfl
  | cons s more => rw [accumulate, digit?_eq_none (h s rfl)]

/-- Digits are taken and dropped alike whatever stands behind them. -/
theorem exists_accumulate : ∀ {digits : List Symbol} (n : Nat),
    (∀ s ∈ digits, isDigit s = true) →
    ∃ final count dropped, count + dropped.length = digits.length ∧
      (∀ s ∈ dropped, isDigit s = true) ∧
      ∀ more, NoDigit more → accumulate n (digits ++ more) = (final, count, dropped ++ more)
  | [], n, _ => ⟨n, 0, [], rfl, nofun, fun _ h => accumulate_of_noDigit n h⟩
  | s :: digits, n, hdigits => by
    obtain ⟨d, hd⟩ := exists_digit? (hdigits s List.mem_cons_self)
    by_cases hlimit : significandLimit < n * 10 + d
    · refine ⟨n, 0, s :: digits, Nat.zero_add _, hdigits, fun more _ => ?_⟩
      rw [List.cons_append, accumulate, hd]
      exact if_pos hlimit
    · obtain ⟨final, count, dropped, hcount, hdropped, htaken⟩ :=
        exists_accumulate (n * 10 + d) fun t ht => hdigits t (List.mem_cons_of_mem s ht)
      refine ⟨final, count + 1, dropped, by simp only [List.length_cons]; omega, hdropped,
        fun more hmore => ?_⟩
      rw [List.cons_append, accumulate, hd]
      dsimp only
      rw [if_neg hlimit, htaken more hmore]

theorem skipDigits_append {more : List Symbol} (h : NoDigit more) : ∀ {digits : List Symbol},
    (∀ s ∈ digits, isDigit s = true) → skipDigits (digits ++ more) = (digits.length, more)
  | [], _ => by
    cases more with
    | nil => rfl
    | cons s more => rw [List.nil_append, skipDigits, digit?_eq_none (h s rfl)]; rfl
  | s :: digits, hdigits => by
    obtain ⟨d, hd⟩ := exists_digit? (hdigits s List.mem_cons_self)
    rw [List.cons_append, skipDigits, hd]
    dsimp only
    rw [skipDigits_append h fun t ht => hdigits t (List.mem_cons_of_mem s ht)]
    rfl

/-- The digits of an exponent give the same number, or are cut at the same place, whatever stands
behind them. -/
theorem exists_exponentDigits : ∀ {digits : List Symbol} (n : Nat),
    (∀ s ∈ digits, isDigit s = true) →
    (∃ power, ∀ more, NoDigit more → exponentDigits n (digits ++ more) = (.ok power, more)) ∨
      ∃ left : List Symbol, (∀ s ∈ left, isDigit s = true) ∧
        ∀ more, exponentDigits n (digits ++ more) = (.error (left ++ more), left ++ more)
  | [], n, _ => by
    refine Or.inl ⟨n, fun more h => ?_⟩
    cases more with
    | nil => rfl
    | cons s more => rw [List.nil_append, exponentDigits, digit?_eq_none (h s rfl)]
  | s :: digits, n, hdigits => by
    obtain ⟨d, hd⟩ := exists_digit? (hdigits s List.mem_cons_self)
    have hrest : ∀ t ∈ digits, isDigit t = true := fun t ht => hdigits t (List.mem_cons_of_mem s ht)
    have hstep : ∀ more, exponentDigits n (s :: digits ++ more) =
        if Nat.pow 2 31 ≤ n * 10 + d then (.error (digits ++ more), digits ++ more)
        else exponentDigits (n * 10 + d) (digits ++ more) := fun more => by
      rw [List.cons_append, exponentDigits, hd]
    by_cases hlimit : Nat.pow 2 31 ≤ n * 10 + d
    · exact Or.inr ⟨digits, hrest, fun more => (hstep more).trans (if_pos hlimit)⟩
    · rcases exists_exponentDigits (n * 10 + d) hrest with ⟨power, h⟩ | ⟨left, hleft, h⟩
      · exact Or.inl ⟨power, fun more hmore =>
          (hstep more).trans ((if_neg hlimit).trans (h more hmore))⟩
      · exact Or.inr ⟨left, hleft, fun more => (hstep more).trans ((if_neg hlimit).trans (h more))⟩

/-! ## Tokens of numbers -/

/-- A reader takes a number from a token in front of a text, and would take it from that token
whatever stopped the number behind it. -/
def Takes (read : List Symbol → Result Float) (text : List Symbol) (x : Float)
    (rest : List Symbol) : Prop :=
  ∃ token, text = token ++ rest ∧ (∀ s ∈ token, isNumeral s = true) ∧
    ∀ more, Stops more → read (token ++ more) = .ok (x, more)

/-- A token that is followed by no digit is not when something else stops the number. -/
theorem noDigit_token {token rest more : List Symbol} (h : NoDigit (token ++ rest))
    (hmore : Stops more) : NoDigit (token ++ more) := by
  cases token with
  | nil => exact hmore.noDigit
  | cons s token => exact fun t ht => h t ht

section

variable {negative : Bool} {significand : Nat} {exponent : Int} {text rest : List Symbol}
  {x : Float}

theorem finishNumber_eq_ok (h : finishNumber negative significand exponent text = .ok (x, rest)) :
    text = rest ∧
      ∀ more, finishNumber negative significand exponent more = .ok (x, more) := by
  unfold finishNumber at h ⊢
  cases hscale : scale? significand exponent with
  | none => rw [hscale] at h; cases h
  | some y =>
    rw [hscale] at h
    cases h
    exact ⟨rfl, fun _ => rfl⟩

/-- Reads the digits of an exponent, whose sign has been read. -/
def readPower (negative : Bool) (significand : Nat) (exponent : Int) (minus : Bool)
    (text : List Symbol) : Result Float :=
  match text with
  | [] => failBehind .endInValue []
  | s :: rest =>
    match digit? s with
    | none => failAt .invalidNumber (s :: rest)
    | some d =>
      match exponentDigits d rest with
      | (.ok n, rest) =>
        finishNumber negative significand (if minus then exponent - n else exponent + n) rest
      | (.error rest, _) =>
        if significand ≠ 0 ∧ !minus then failBehind .exponentOutOfRange rest
        else .ok (withSign negative 0.0, (skipDigits rest).2)

theorem takes_readPower {minus : Bool}
    (h : readPower negative significand exponent minus text = .ok (x, rest)) :
    Takes (readPower negative significand exponent minus) text x rest := by
  cases text with
  | nil => cases h
  | cons s text =>
    obtain ⟨digits, tail, rfl, hdigits, htail⟩ := exists_digits text
    cases hd : digit? s with
    | none => simp only [readPower, hd] at h; cases h
    | some d =>
      have hs : isDigit s = true := by rw [isDigit, hd]; rfl
      have htoken : ∀ t ∈ s :: digits, isNumeral t = true := by
        refine List.forall_mem_cons.mpr ⟨isNumeral_of_isDigit hs, fun t ht => ?_⟩
        exact isNumeral_of_isDigit (hdigits t ht)
      rcases exists_exponentDigits d hdigits with ⟨power, hpower⟩ | ⟨left, hleft, hpower⟩
      · simp only [readPower, hd, hpower tail htail] at h
        obtain ⟨rfl, hfinish⟩ := finishNumber_eq_ok h
        refine ⟨s :: digits, rfl, htoken, fun more hmore => ?_⟩
        simp only [List.cons_append, readPower, hd, hpower more hmore.noDigit]
        exact hfinish more
      · simp only [readPower, hd, hpower, skipDigits_append htail hleft] at h
        split at h
        · cases h
        · rename_i hsmall
          cases h
          refine ⟨s :: digits, rfl, htoken, fun more hmore => ?_⟩
          simp only [List.cons_append, readPower, hd, hpower, skipDigits_append hmore.noDigit hleft,
            if_neg hsmall]

theorem readExponent_of_no_sign {s : Symbol} (hplus : s ≠ .char '+') (hminus : s ≠ .char '-')
    (text : List Symbol) : readExponent negative significand exponent (s :: text) =
      readPower negative significand exponent false (s :: text) := by
  unfold readExponent
  split
  rename_i minus rest hsign
  split at hsign
  · rename_i heq
    exact absurd (List.cons.inj heq).1 hplus
  · rename_i heq
    exact absurd (List.cons.inj heq).1 hminus
  · cases hsign
    rfl

theorem takes_readExponent
    (h : readExponent negative significand exponent text = .ok (x, rest)) :
    Takes (readExponent negative significand exponent) text x rest := by
  cases text with
  | nil => cases h
  | cons s text =>
    by_cases hplus : s = .char '+'
    · subst hplus
      obtain ⟨token, rfl, htoken, hread⟩ : Takes (readPower negative significand exponent false)
        text x rest := takes_readPower h
      exact ⟨.char '+' :: token, rfl, List.forall_mem_cons.mpr ⟨by decide, htoken⟩, hread⟩
    by_cases hminus : s = .char '-'
    · subst hminus
      obtain ⟨token, rfl, htoken, hread⟩ : Takes (readPower negative significand exponent true)
        text x rest := takes_readPower h
      exact ⟨.char '-' :: token, rfl, List.forall_mem_cons.mpr ⟨by decide, htoken⟩, hread⟩
    rw [readExponent_of_no_sign hplus hminus] at h
    obtain ⟨token, htext, htoken, hread⟩ := takes_readPower h
    cases token with
    | nil => cases hread [] stops_nil
    | cons t token =>
      obtain ⟨rfl, rfl⟩ := List.cons.inj htext
      refine ⟨s :: token, rfl, htoken, fun more hmore => ?_⟩
      rw [List.cons_append, readExponent_of_no_sign hplus hminus]
      exact hread more hmore

theorem readTail_of_stops {more : List Symbol} (hmore : Stops more) :
    readTail negative significand exponent more =
      finishNumber negative significand exponent more := by
  unfold readTail
  split
  · cases hmore _ rfl
  · cases hmore _ rfl
  · rfl

theorem takes_readTail (h : readTail negative significand exponent text = .ok (x, rest)) :
    Takes (readTail negative significand exponent) text x rest := by
  unfold readTail at h
  split at h
  · obtain ⟨token, rfl, htoken, hread⟩ := takes_readExponent h
    exact ⟨.char 'e' :: token, rfl, List.forall_mem_cons.mpr ⟨by decide, htoken⟩, hread⟩
  · obtain ⟨token, rfl, htoken, hread⟩ := takes_readExponent h
    exact ⟨.char 'E' :: token, rfl, List.forall_mem_cons.mpr ⟨by decide, htoken⟩, hread⟩
  · obtain ⟨rfl, hfinish⟩ := finishNumber_eq_ok h
    exact ⟨[], rfl, nofun, fun more hmore => (readTail_of_stops hmore).trans (hfinish more)⟩

theorem takes_readFraction (h : readFraction negative significand exponent text = .ok (x, rest)) :
    Takes (readFraction negative significand exponent) text x rest := by
  obtain ⟨digits, tail, rfl, hdigits, htail⟩ := exists_digits text
  obtain ⟨final, count, dropped, hcount, hdropped, htaken⟩ := exists_accumulate significand hdigits
  -- there is a digit, or nothing would have been read
  have hsome : ¬ (count = 0 ∧ dropped.length = 0) := fun hnone => by
    simp only [readFraction, htaken tail htail, skipDigits_append htail hdropped,
      if_pos hnone] at h
    split at h <;> cases h
  have hstep : ∀ more, NoDigit more →
      readFraction negative significand exponent (digits ++ more) =
        readTail negative final (exponent - count) more := fun more hmore => by
    simp only [readFraction, htaken more hmore, skipDigits_append hmore hdropped, if_neg hsome]
  rw [hstep tail htail] at h
  obtain ⟨token, rfl, htoken, hread⟩ := takes_readTail h
  refine ⟨digits ++ token, (List.append_assoc ..).symm, ?_, fun more hmore => ?_⟩
  · exact List.forall_mem_append.mpr ⟨fun s hs => isNumeral_of_isDigit (hdigits s hs), htoken⟩
  · rw [List.append_assoc, hstep _ (noDigit_token htail hmore)]
    exact hread more hmore

theorem finish_of_no_point {dropped : Nat} (h : text.head? ≠ some (.char '.')) :
    readNumber.finish negative significand dropped text =
      readTail negative significand dropped text := by
  unfold readNumber.finish
  split
  · exact absurd rfl h
  · rfl

theorem Stops.head?_ne_point {more : List Symbol} (h : Stops more) :
    more.head? ≠ some (.char '.') := fun hpoint => by
  cases h _ hpoint

theorem takes_finish {dropped : Nat}
    (h : readNumber.finish negative significand dropped text = .ok (x, rest)) :
    Takes (readNumber.finish negative significand dropped) text x rest := by
  by_cases hpoint : text.head? = some (.char '.')
  · cases text with
    | nil => cases hpoint
    | cons s text =>
      cases Option.some_inj.mp hpoint
      obtain ⟨token, rfl, htoken, hread⟩ := takes_readFraction h
      exact ⟨.char '.' :: token, rfl, List.forall_mem_cons.mpr ⟨by decide, htoken⟩, hread⟩
  · rw [finish_of_no_point hpoint] at h
    obtain ⟨token, rfl, htoken, hread⟩ := takes_readTail h
    refine ⟨token, rfl, htoken, fun more hmore => ?_⟩
    rw [finish_of_no_point, hread more hmore]
    cases token with
    | nil => exact hmore.head?_ne_point
    | cons s token => exact hpoint

end

/-- A number that begins with zero has no other digit before the point. -/
theorem readNumber_zero {negative : Bool} {s : Symbol} (hs : digit? s = some 0)
    {text : List Symbol} (h : NoDigit text) :
    readNumber negative (s :: text) = readNumber.finish negative 0 0 text := by
  cases text with
  | nil => simp only [readNumber, hs]
  | cons t text => simp only [readNumber, hs, digit?_eq_none (h t rfl)]

/-- A number is read from a token of symbols of numbers, whatever stops it. -/
theorem takes_readNumber {negative : Bool} {text rest : List Symbol} {x : Float}
    (h : readNumber negative text = .ok (x, rest)) : Takes (readNumber negative) text x rest := by
  cases text with
  | nil => cases h
  | cons s text =>
    cases hd : digit? s with
    | none => simp only [readNumber, hd] at h; cases h
    | some d =>
      have hs : isNumeral s = true := isNumeral_of_isDigit (by rw [isDigit, hd]; rfl)
      cases d with
      | zero =>
        -- a digit behind the zero would be an error, so the number goes on without one
        have htext : NoDigit text := fun t ht => by
          cases text with
          | nil => cases ht
          | cons u text =>
            cases Option.some_inj.mp ht
            by_contra hdigit
            obtain ⟨d, hd'⟩ := exists_digit? (Bool.of_not_eq_false hdigit)
            simp only [readNumber, hd, hd'] at h
            cases h
        rw [readNumber_zero hd htext] at h
        obtain ⟨token, rfl, htoken, hread⟩ := takes_finish h
        refine ⟨s :: token, rfl, List.forall_mem_cons.mpr ⟨hs, htoken⟩, fun more hmore => ?_⟩
        rw [List.cons_append, readNumber_zero hd (noDigit_token htext hmore)]
        exact hread more hmore
      | succ d =>
        obtain ⟨digits, tail, rfl, hdigits, htail⟩ := exists_digits text
        obtain ⟨final, count, dropped, -, hdropped, htaken⟩ := exists_accumulate (d + 1) hdigits
        have hstep : ∀ more, NoDigit more → readNumber negative (s :: (digits ++ more)) =
            readNumber.finish negative final dropped.length more := fun more hmore => by
          simp only [readNumber, hd, htaken more hmore, skipDigits_append hmore hdropped]
        rw [hstep tail htail] at h
        obtain ⟨token, rfl, htoken, hread⟩ := takes_finish h
        refine ⟨s :: (digits ++ token), by simp, ?_, fun more hmore => ?_⟩
        · refine List.forall_mem_cons.mpr ⟨hs, List.forall_mem_append.mpr ⟨fun t ht => ?_, htoken⟩⟩
          exact isNumeral_of_isDigit (hdigits t ht)
        · rw [List.cons_append, List.append_assoc, hstep _ (noDigit_token htail hmore)]
          exact hread more hmore

end ShapeCheck.Json
