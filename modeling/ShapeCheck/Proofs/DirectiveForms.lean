import ShapeCheck.Proofs.Pieces

/-!
# The three forms of directives

A directive is a word, a word with a value behind an equals sign, or a word with an argument in
parentheses, and each may be negated.  `Written text d` says that a text may stand among others in
a block and that it writes the directive `d`:

* `Written.word`, `Written.keyed`, `Written.call` — the three forms;
* `Call.parse?_word` — the call that a word with an argument writes.
-/

set_option autoImplicit false

namespace ShapeCheck.Directive

open ShapeCheck.Text

/-! ## Words -/

/-- The code points of hyphen and point, of the digits and of the letters. -/
def isWordCode (n : Nat) : Bool :=
  n == 45 || n == 46 || (48 ≤ n && n ≤ 57) || (65 ≤ n && n ≤ 90) || (97 ≤ n && n ≤ 122)

/-- The characters of keywords, of the names of types and modes, and of numbers. -/
def isWordChar (c : Char) : Bool := isWordCode c.toNat

/-- A text of such characters. -/
structure IsWord (p : List Char) : Prop where
  chars : ∀ c ∈ p, isWordChar c = true
  nonempty : p ≠ []

theorem isWordChar_ne {c d : Char} (hc : isWordChar c = true) (hd : isWordChar d = false) :
    c ≠ d := by
  rintro rfl
  rw [hc] at hd
  cases hd

theorem isBlank_of_isWordChar {c : Char} (h : isWordChar c = true) : isBlank c = false := by
  simp only [isWordChar, isWordCode, Bool.or_eq_true, Bool.and_eq_true, beq_iff_eq,
    decide_eq_true_eq] at h
  simp only [isBlank, isBlankCode, Bool.or_eq_false_iff, Bool.and_eq_false_iff, beq_eq_false_iff_ne,
    decide_eq_false_iff_not]
  omega

namespace IsWord

variable {p : List Char}

theorem of_all (h : p.all isWordChar = true ∧ p ≠ []) : IsWord p :=
  ⟨List.all_eq_true.mp h.1, h.2⟩

theorem head (h : IsWord p) {c : Char} (hc : p.head? = some c) : isWordChar c = true :=
  h.chars c (List.mem_of_head? hc)

theorem ne_of_mem (h : IsWord p) {d : Char} (hd : isWordChar d = false) : d ∉ p :=
  fun hmem => isWordChar_ne (h.chars d hmem) hd rfl

theorem whole (h : IsWord p) : Whole p := by
  refine .of_chars (fun c hc hmark => ?_) ⟨fun c hc => ?_, fun c hc => ?_⟩ h.nonempty
  · have hmarks : marks.all (!isWordChar ·) = true := by decide
    have hc' := List.all_eq_true.mp hmarks c hmark
    rw [h.chars c hc] at hc'
    cases hc'
  · exact isBlank_of_isWordChar (h.chars c (List.mem_of_head? hc))
  · exact isBlank_of_isWordChar (h.chars c (List.mem_of_getLast? hc))

theorem unquoted (h : IsWord p) : Unquoted p := fun _ hc =>
  ⟨isWordChar_ne (h.head hc) (by decide), isWordChar_ne (h.head hc) (by decide)⟩

end IsWord

/-! ## What a directive is read from -/

/-- The name and the value of a directive, before the name is read as a call. -/
def nameAndValue (text : List Char) : List Char × Option (List Char) :=
  match cutTopLevel? '=' text with
  | some (front, back) => (trim front, some (trim back))
  | none => (text, none)

theorem parse?_of_splitBang {raw text : List Char} {negated : Bool}
    (hsplit : splitBang (trim raw) = (negated, text)) (hne : text ≠ []) {name : List Char}
    {value : Option (List Char)} (hname : nameAndValue text = (name, value)) :
    parse? raw =
      match Call.parse? name with
      | some call => some ⟨text, negated, call.name, value, some call⟩
      | none => some ⟨text, negated, name, value, none⟩ := by
  have hempty : text.isEmpty = false := by
    rw [List.isEmpty_eq_false_iff]
    exact hne
  rw [parse?, hsplit]
  dsimp only
  rw [hempty, if_neg Bool.false_ne_true]
  rw [nameAndValue] at hname
  cases hcut : cutTopLevel? '=' text with
  | none =>
    rw [hcut] at hname
    obtain ⟨rfl, rfl⟩ := Prod.mk.inj hname
    rfl
  | some parts =>
    rw [hcut] at hname
    obtain ⟨rfl, rfl⟩ := Prod.mk.inj hname
    rfl

/-! ## Negation -/

/-- A text with an exclamation mark before it if it is negated. -/
def signed (negated : Bool) (text : List Char) : List Char :=
  if negated then '!' :: text else text

theorem whole_signed {text : List Char} (h : Whole text) (negated : Bool) :
    Whole (signed negated text) := by
  cases negated with
  | false => exact h
  | true => exact (Whole.of_char (by decide) (by decide)).append h

section

variable {text : List Char} (hwhole : Whole text)
  (hhead : ∀ c, text.head? = some c → isWordChar c = true)

include hhead in
theorem splitBang_of_head : splitBang text = (false, text) := by
  rw [splitBang.eq_def]
  split
  · exact absurd rfl (isWordChar_ne (hhead '!' rfl) (by decide))
  · rfl

include hhead in
theorem unquoted_signed (negated : Bool) : Unquoted (signed negated text) := by
  intro c hc
  cases negated with
  | false => exact ⟨isWordChar_ne (hhead c hc) (by decide), isWordChar_ne (hhead c hc) (by decide)⟩
  | true =>
    cases hc
    decide

include hwhole hhead in
/-- An exclamation mark negates the directive behind it and changes nothing else. -/
theorem parse?_signed (negated : Bool) :
    parse? (signed negated text) = (parse? text).map ({ · with negated := negated }) := by
  have hsplit : splitBang (signed negated text) = (negated, text) := by
    cases negated with
    | false => exact splitBang_of_head hhead
    | true =>
      show (true, trimStart text) = (true, text)
      rw [trimStart_eq_self fun c hc => isBlank_of_isWordChar (hhead c hc)]
  rw [parse?, trim_eq_self (whole_signed hwhole negated).ends, hsplit, parse?,
    trim_eq_self hwhole.ends, splitBang_of_head hhead]
  dsimp only
  split
  · rfl
  · cases cutTopLevel? '=' text with
    | none =>
      dsimp only
      cases Call.parse? text <;> rfl
    | some parts =>
      dsimp only
      cases Call.parse? (trim parts.1) <;> rfl

include hwhole hhead in
theorem parse?_of_head {name : List Char} {value : Option (List Char)}
    (hname : nameAndValue text = (name, value)) :
    parse? text =
      match Call.parse? name with
      | some call => some ⟨text, false, call.name, value, some call⟩
      | none => some ⟨text, false, name, value, none⟩ := by
  refine parse?_of_splitBang ?_ hwhole.nonempty hname
  rw [trim_eq_self hwhole.ends, splitBang_of_head hhead]

end

/-! ## The forms -/

/-- The directive of a word alone. -/
def ofWord (negated : Bool) (name : List Char) : Directive := ⟨name, negated, name, none, none⟩

/-- The directive of a word with a value. -/
def ofKeyed (negated : Bool) (name value : List Char) : Directive :=
  ⟨name ++ '=' :: value, negated, name, some value, none⟩

/-- The directive of a word with an argument in parentheses. -/
def ofCall (negated : Bool) (name argument : List Char) : Directive :=
  ⟨name ++ '(' :: (argument ++ [')']), negated, name, none,
    some ⟨name, argument, .parse argument⟩⟩

/-- A text that may stand between the commas of a block, and the directive that it writes. -/
structure Written (text : List Char) (d : Directive) : Prop where
  whole : Whole text
  unquoted : Unquoted text
  reads : parse? text = some d

theorem written_signed {text : List Char} {d : Directive} (hwhole : Whole text)
    (hhead : ∀ c, text.head? = some c → isWordChar c = true) (hreads : parse? text = some d)
    (negated : Bool) : Written (signed negated text) { d with negated := negated } where
  whole := whole_signed hwhole negated
  unquoted := unquoted_signed hhead negated
  reads := by
    rw [parse?_signed hwhole hhead, hreads]
    rfl

theorem Call.parse?_of_word {name : List Char} (h : IsWord name) : Call.parse? name = none := by
  rw [Call.parse?, trim_eq_self h.whole.ends, if_neg]
  intro hlast
  exact h.ne_of_mem (by decide) (List.mem_of_getLast? hlast)

theorem Call.parse?_word {name argument : List Char} (hname : IsWord name) (harg : Held argument)
    (hquote : Unquoted argument) :
    Call.parse? (name ++ '(' :: (argument ++ [')'])) = some ⟨name, argument, .parse argument⟩ := by
  have hwhole : Whole (name ++ '(' :: (argument ++ [')'])) :=
    hname.whole.append (.paren harg.balanced harg.separator)
  have hlast : (name ++ '(' :: (argument ++ [')'])).getLast? = some ')' := by
    rw [← List.cons_append, ← List.append_assoc, List.getLast?_concat]
  rw [Call.parse?, trim_eq_self hwhole.ends, if_pos hlast,
    cutAt?_append _ (hname.ne_of_mem (by decide))]
  have hempty : name.isEmpty = false := by
    rw [List.isEmpty_eq_false_iff]
    exact hname.nonempty
  dsimp only
  rw [trim_eq_self hname.whole.ends, hempty, if_neg Bool.false_ne_true, List.dropLast_concat,
    trim_eq_self harg.ends, stripQuotes_eq_self hquote]

namespace Written

variable {name : List Char} (hname : IsWord name)

include hname in
theorem head_append (rest : List Char) {c : Char} (hc : (name ++ rest).head? = some c) :
    isWordChar c = true := by
  rw [List.head?_append_of_ne_nil name hname.nonempty] at hc
  exact hname.head hc

include hname in
theorem word (negated : Bool) : Written (signed negated name) (ofWord negated name) := by
  have hcut : nameAndValue name = (name, none) := by
    rw [nameAndValue, cutTopLevel?_of_uncut (uncut_of_not_mem (hname.ne_of_mem (by decide)))]
  have hhead : ∀ c, name.head? = some c → isWordChar c = true := fun _ hc => hname.head hc
  have hreads : parse? name = some (ofWord false name) := by
    rw [parse?_of_head hname.whole hhead hcut, Call.parse?_of_word hname, ofWord]
  exact written_signed hname.whole hhead hreads negated

include hname in
theorem keyed {value : List Char} (hvalue : Whole value) (negated : Bool) :
    Written (signed negated (name ++ '=' :: value)) (ofKeyed negated name value) := by
  have hequals : Whole ['='] := .of_char (by decide) (by decide)
  have hwhole : Whole (name ++ '=' :: value) := hname.whole.append (hequals.append hvalue)
  have hcut : nameAndValue (name ++ '=' :: value) = (name, some value) := by
    rw [nameAndValue, cutTopLevel?_append (by decide) (by decide)
      (uncut_of_not_mem (hname.ne_of_mem (by decide))) (hname.whole.balanced.depth 0)]
    dsimp only
    rw [trim_eq_self hname.whole.ends, trim_eq_self hvalue.ends]
  have hhead : ∀ c, (name ++ '=' :: value).head? = some c → isWordChar c = true :=
    fun _ hc => head_append hname _ hc
  have hreads : parse? (name ++ '=' :: value) = some (ofKeyed false name value) := by
    rw [parse?_of_head hwhole hhead hcut, Call.parse?_of_word hname, ofKeyed]
  exact written_signed hwhole hhead hreads negated

include hname in
theorem call {argument : List Char} (harg : Held argument) (hquote : Unquoted argument)
    (negated : Bool) :
    Written (signed negated (name ++ '(' :: (argument ++ [')']))) (ofCall negated name argument) := by
  have hwhole : Whole (name ++ '(' :: (argument ++ [')'])) :=
    hname.whole.append (.paren harg.balanced harg.separator)
  have huncut : Uncut '=' 0 (name ++ '(' :: (argument ++ [')'])) :=
    uncut_balanced_append (uncut_of_not_mem (hname.ne_of_mem (by decide))) hname.whole.balanced
      (harg.balanced.uncut_paren '=')
  have hcut : nameAndValue (name ++ '(' :: (argument ++ [')'])) =
      (name ++ '(' :: (argument ++ [')']), none) := by
    rw [nameAndValue, cutTopLevel?_of_uncut huncut]
  have hhead : ∀ c, (name ++ '(' :: (argument ++ [')'])).head? = some c → isWordChar c = true :=
    fun _ hc => head_append hname _ hc
  have hreads : parse? (name ++ '(' :: (argument ++ [')'])) = some (ofCall false name argument) := by
    rw [parse?_of_head hwhole hhead hcut, Call.parse?_word hname harg hquote, ofCall]
  exact written_signed hwhole hhead hreads negated

end Written

end ShapeCheck.Directive
