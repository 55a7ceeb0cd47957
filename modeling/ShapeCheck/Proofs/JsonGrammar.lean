import Mathlib.Data.List.DropRight
import ShapeCheck.Proofs.JsonStrings
import ShapeCheck.Proofs.Numerals

/-!
# The grammar of documents

The grammar of JSON documents, `Document`, with how deep they nest, and the readers of the parts of
lists and objects against it.

* `readItems_eq_ok_iff`, `readProperties_eq_ok_iff` — what one step of these readers does;
* `readItems_joined`, `readProperties_joined` — parts joined by commas are read if each of them is;
* `exists_items_of_readItems`, `exists_members_of_readProperties` — what is read as parts are
  documents joined by commas.
-/

set_option autoImplicit false

namespace ShapeCheck.Json

open Input

/-! ## Space -/

/-- Nothing but what may stand between the tokens of a document. -/
def IsSpace (text : List Char) : Prop := ∀ c ∈ text, isSpace (.char c) = true

theorem isSpace_nil : IsSpace [] := nofun

theorem skipSpace_append {space : List Char} (h : IsSpace space) (text : List Symbol) :
    skipSpace (ofChars space ++ text) = skipSpace text := by
  refine List.dropWhile_append_of_pos fun s hs => ?_
  obtain ⟨c, hc, rfl⟩ := List.mem_map.mp hs
  exact h c hc

theorem skipSpace_cons {s : Symbol} (h : isSpace s = false) (text : List Symbol) :
    skipSpace (s :: text) = s :: text :=
  List.dropWhile_cons_of_neg (by rw [h]; exact Bool.false_ne_true)

theorem skipSpace_skipSpace (text : List Symbol) : skipSpace (skipSpace text) = skipSpace text :=
  List.dropWhile_idempotent isSpace text

theorem exists_ofChars : ∀ {symbols : List Symbol}, (∀ s ∈ symbols, ∃ c, s = .char c) →
    ∃ text, symbols = ofChars text
  | [], _ => ⟨[], rfl⟩
  | s :: symbols, h => by
    obtain ⟨c, rfl⟩ := h s List.mem_cons_self
    obtain ⟨text, rfl⟩ := exists_ofChars fun t ht => h t (List.mem_cons_of_mem _ ht)
    exact ⟨c :: text, rfl⟩

theorem exists_space (text : List Symbol) :
    ∃ space, IsSpace space ∧ text = ofChars space ++ skipSpace text := by
  obtain ⟨space, hspace⟩ : ∃ space, text.takeWhile isSpace = ofChars space := by
    refine exists_ofChars fun s hs => ?_
    cases s with
    | char c => exact ⟨c, rfl⟩
    | stray b => cases List.mem_takeWhile_imp hs
  refine ⟨space, fun c hc => ?_, ?_⟩
  · have hmem : Symbol.char c ∈ text.takeWhile isSpace := by
      rw [hspace]
      exact List.mem_map_of_mem hc
    exact List.mem_takeWhile_imp hmem
  · rw [← hspace]
    exact List.takeWhile_append_dropWhile.symm

theorem continues_of_isSpace {s : Symbol} (h : isSpace s = true) : continues s = false := by
  simp only [isSpace, Bool.or_eq_true, decide_eq_true_eq] at h
  rcases h with ((rfl | rfl) | rfl) | rfl <;> rfl

theorem isSpace_of_isDigit {s : Symbol} (h : isDigit s = true) : isSpace s = false := by
  by_contra hspace
  have hstops := continues_of_isSpace (Bool.of_not_eq_false hspace)
  rw [continues, h] at hstops
  cases hstops

theorem Stops.space_append {rest : List Symbol} (h : Stops rest) {space : List Char}
    (hspace : IsSpace space) : Stops (ofChars space ++ rest) := by
  cases space with
  | nil => exact h
  | cons c space => exact stops_cons (continues_of_isSpace (hspace c List.mem_cons_self)) _

/-! ## The grammar -/

/-- A property as it stands in an object: space, a name between quotes, space before the colon, and
the text of its value. -/
structure Member where
  front : List Char
  body : List Char
  name : List Char
  behind : List Char
  text : List Char
  value : Value
  isSpace_front : IsSpace front
  spells : Spells body name
  isSpace_behind : IsSpace behind

namespace Member

/-- What stands behind the first quote. -/
def tail (m : Member) : List Char := m.body ++ '"' :: (m.behind ++ ':' :: m.text)

/-- The whole text. -/
def whole (m : Member) : List Char := m.front ++ '"' :: m.tail

/-- The property. -/
def property (m : Member) : String × Value := (String.ofList m.name, m.value)

end Member

/-- A text is a document for a value, and its lists and objects nest at most so deep. Every value
may have space around it. -/
inductive Document : Nat → List Char → Value → Prop
  | null {depth : Nat} : Document depth "null".toList .null
  | flag {depth : Nat} (flag : Bool) :
      Document depth (if flag then "true".toList else "false".toList) (.bool flag)
  | number {depth : Nat} {text : List Char} {x : Float}
      (h : readNumber false (ofChars text) = .ok (x, [])) : Document depth text (.number x)
  | negative {depth : Nat} {text : List Char} {x : Float}
      (h : readNumber true (ofChars text) = .ok (x, [])) : Document depth ('-' :: text) (.number x)
  | string {depth : Nat} {body said : List Char} (h : Spells body said) :
      Document depth ('"' :: body ++ ['"']) (.string (String.ofList said))
  | noItems {depth : Nat} {space : List Char} (h : IsSpace space) :
      Document (depth + 1) ('[' :: space ++ [']']) (.array [])
  | items {depth : Nat} {items : List (List Char × Value)} (hne : items ≠ [])
      (h : ∀ i ∈ items, Document depth i.1 i.2) :
      Document (depth + 1) (enclose '[' ']' (items.map Prod.fst)) (.array (items.map Prod.snd))
  | noMembers {depth : Nat} {space : List Char} (h : IsSpace space) :
      Document (depth + 1) ('\x7b' :: space ++ ['\x7d']) (.object (Object.ofList []))
  | members {depth : Nat} {members : List Member} (hne : members ≠ [])
      (h : ∀ m ∈ members, Document depth m.text m.value) :
      Document (depth + 1) (enclose '\x7b' '\x7d' (members.map Member.whole))
        (.object (Object.ofList (members.map Member.property)))
  | padded {depth : Nat} {front text behind : List Char} {v : Value} (hfront : IsSpace front)
      (h : Document depth text v) (hbehind : IsSpace behind) :
      Document depth (front ++ text ++ behind) v

/-- Where a list or an object may stand, its parts may nest one level less deep. -/
theorem exists_level {d e : Nat} (h : d + 1 ≤ e) : ∃ n, e = n + 1 ∧ d ≤ n :=
  ⟨e - 1, by omega, by omega⟩

theorem Document.mono {d e : Nat} {text : List Char} {v : Value} (h : Document d text v)
    (hde : d ≤ e) : Document e text v := by
  induction h generalizing e with
  | null => exact .null
  | flag flag => exact .flag flag
  | number h => exact .number h
  | negative h => exact .negative h
  | string h => exact .string h
  | @noItems d space h =>
    obtain ⟨e, rfl, -⟩ := exists_level hde
    exact .noItems h
  | @items d items hne _ ih =>
    obtain ⟨e, rfl, hlevel⟩ := exists_level hde
    exact .items hne fun i hi => ih i hi hlevel
  | @noMembers d space h =>
    obtain ⟨e, rfl, -⟩ := exists_level hde
    exact .noMembers h
  | @members d members hne _ ih =>
    obtain ⟨e, rfl, hlevel⟩ := exists_level hde
    exact .members hne fun m hm => ih m hm hlevel
  | padded hfront _ hbehind ih => exact .padded hfront (ih hde) hbehind

theorem Document.append_space {depth : Nat} {text space : List Char} {v : Value}
    (h : Document depth text v) (hspace : IsSpace space) : Document depth (text ++ space) v :=
  .padded isSpace_nil h hspace

/-! ## One value -/

theorem readWord_append (v : Value) : ∀ (word : List Char) (rest : List Symbol),
    readWord v word (ofChars word ++ rest) = .ok (v, rest)
  | [], _ => rfl
  | c :: word, rest => by
    show readWord v (c :: word) (.char c :: (ofChars word ++ rest)) = _
    rw [readWord, if_pos rfl, readWord_append v word rest]

theorem eq_of_readWord {v w : Value} {rest : List Symbol} : ∀ {word : List Char}
    {text : List Symbol}, readWord v word text = .ok (w, rest) → w = v ∧ text = ofChars word ++ rest
  | [], _, h => by cases h; exact ⟨rfl, rfl⟩
  | _ :: _, [], h => by cases h
  | c :: word, s :: text, h => by
    rw [readWord] at h
    split at h
    · rename_i hs
      obtain ⟨rfl, rfl⟩ := eq_of_readWord h
      exact ⟨rfl, by rw [hs]; rfl⟩
    · cases h

section

variable (bound depth : Nat)

theorem readValue_skipSpace (text : List Symbol) :
    readValue bound depth (skipSpace text) = readValue bound depth text := by
  rw [readValue, readValue, skipSpace_skipSpace]

theorem readValue_string (rest : List Symbol) : readValue bound depth (.char '"' :: rest) =
    (readString rest).as fun s => .string (String.ofList s) := by
  cases depth <;> rfl

theorem readValue_negative (rest : List Symbol) : readValue bound depth (.char '-' :: rest) =
    (readNumber true rest).as .number := by
  cases depth <;> rfl

theorem readValue_list (rest : List Symbol) : readValue bound (depth + 1) (.char '[' :: rest) =
    (readList (readValue bound depth) bound rest).as .array := rfl

theorem readValue_object (rest : List Symbol) :
    readValue bound (depth + 1) (.char '\x7b' :: rest) =
      (readObject (readValue bound depth) bound rest).as fun ps =>
        .object (Object.ofList ps) := rfl

theorem readValue_digit {s : Symbol} (hs : isDigit s = true) (rest : List Symbol) :
    readValue bound depth (s :: rest) = (readNumber false (s :: rest)).as .number := by
  rw [readValue, skipSpace_cons (isSpace_of_isDigit hs)]
  -- no digit is the first symbol of anything else
  split <;> rename_i heq <;> cases heq <;> first | cases hs | exact if_pos hs

theorem readValue_closing (rest : List Symbol) :
    readValue bound depth (.char ']' :: rest) = failAt .expectedValue (.char ']' :: rest) := by
  cases depth <;> rfl

end

/-! ## Texts that are read

`Reads` says that a reader takes a text as a value in front of whatever stops it. -/

/-- A reader reads a text as a value, up to what stops it and the space before that. -/
def Reads (read : List Symbol → Result Value) (text : List Char) (v : Value) : Prop :=
  ∀ rest, Stops rest →
    ∃ more, read (ofChars text ++ rest) = .ok (v, more) ∧ skipSpace more = skipSpace rest

section

variable {bound depth : Nat} {text : List Char} {v : Value}

theorem Reads.padded (h : Reads (readValue bound depth) text v) {front behind : List Char}
    (hfront : IsSpace front) (hbehind : IsSpace behind) :
    Reads (readValue bound depth) (front ++ text ++ behind) v := fun rest hrest => by
  obtain ⟨more, hread, hmore⟩ := h _ (hrest.space_append hbehind)
  refine ⟨more, ?_, hmore.trans (skipSpace_append hbehind rest)⟩
  rw [ofChars_append, ofChars_append, List.append_assoc, List.append_assoc, ← readValue_skipSpace,
    skipSpace_append hfront, readValue_skipSpace, hread]

/-! ### Items -/

theorem readItems_skipSpace {n : Nat} {text rest : List Symbol} {values : List Value} :
    readItems (readValue bound depth) n (skipSpace text) = .ok (values, rest) ↔
      readItems (readValue bound depth) n text = .ok (values, rest) := by
  cases n with
  | zero => exact ⟨nofun, nofun⟩
  | succ n => rw [readItems, readItems, readValue_skipSpace]

theorem skipSpace_of_readItems {n : Nat} {text rest : List Symbol} {values : List Value}
    (h : readItems (readValue bound depth) n text = .ok (values, rest)) :
    skipSpace text ≠ [] ∧ ∀ t, skipSpace text ≠ .char ']' :: t := by
  rw [← readItems_skipSpace] at h
  cases n with
  | zero => cases h
  | succ n =>
    refine ⟨fun hnil => ?_, fun t ht => ?_⟩
    · rw [hnil, readItems, readValue] at h
      cases h
    · rw [ht, readItems, readValue_closing] at h
      cases h

theorem readItems_eq_ok_iff {n : Nat} {text rest : List Symbol} {values : List Value} :
    readItems (readValue bound depth) (n + 1) text = .ok (values, rest) ↔
      ∃ v more, readValue bound depth text = .ok (v, more) ∧
        ((skipSpace more = .char ']' :: rest ∧ values = [v]) ∨
          ∃ next others, skipSpace more = .char ',' :: next ∧ values = v :: others ∧
            readItems (readValue bound depth) n next = .ok (others, rest)) := by
  constructor
  · intro h
    rw [readItems] at h
    split at h
    · cases h
    · rename_i v more hread
      refine ⟨v, more, hread, ?_⟩
      split at h
      · cases h
      · rename_i hmore
        cases h
        exact Or.inl ⟨hmore, rfl⟩
      · rename_i next hmore
        split at h
        · cases h
        · obtain ⟨others, hothers, rfl⟩ := Result.as_eq_ok h
          exact Or.inr ⟨next, others, hmore, rfl, readItems_skipSpace.mp hothers⟩
      · cases h
  · rintro ⟨v, more, hread, ⟨hmore, rfl⟩ | ⟨next, others, hmore, rfl, hothers⟩⟩
    · simp only [readItems, hread, hmore]
    · have hclosing := (skipSpace_of_readItems hothers).2
      simp only [readItems, hread, hmore]
      rw [readItems_skipSpace.mpr hothers]
      rfl

/-- Items joined by commas are read one by one, to the end of the list. -/
theorem readItems_joined (rest : List Symbol) : ∀ {n : Nat} {items : List (List Char × Value)},
    items ≠ [] → items.length ≤ n →
    (∀ i ∈ items, Reads (readValue bound depth) i.1 i.2) →
    readItems (readValue bound depth) n
      (ofChars ([','].intercalate (items.map Prod.fst)) ++ .char ']' :: rest) =
        .ok (items.map Prod.snd, rest)
  | _, [], hne, _, _ => absurd rfl hne
  | 0, _ :: _, _, hn, _ => absurd hn (Nat.not_succ_le_zero _)
  | n + 1, [i], _, _, h => by
    obtain ⟨more, hread, hmore⟩ := h i List.mem_cons_self (.char ']' :: rest) (stops_cons rfl rest)
    rw [List.map_singleton, List.intercalate_singleton]
    exact readItems_eq_ok_iff.mpr ⟨i.2, more, hread, Or.inl ⟨hmore, rfl⟩⟩
  | n + 1, i :: j :: items, _, hn, h => by
    have hothers := readItems_joined rest (List.cons_ne_nil j items) (Nat.le_of_succ_le_succ hn)
      fun k hk => h k (List.mem_cons_of_mem i hk)
    obtain ⟨more, hread, hmore⟩ := h i List.mem_cons_self (.char ',' :: _) (stops_cons rfl _)
    simp only [List.map_cons, List.intercalate_cons_cons, ofChars_append, List.append_assoc]
    exact readItems_eq_ok_iff.mpr ⟨i.2, more, hread, Or.inr ⟨_, _, hmore, rfl, hothers⟩⟩

/-- What a reader of values takes is a document in front of the rest. -/
def TakesDocuments (read : List Symbol → Result Value) (depth : Nat) : Prop :=
  ∀ {text rest : List Symbol} {v : Value}, read text = .ok (v, rest) →
    ∃ core, text = ofChars core ++ rest ∧ Document depth core v

theorem exists_items_of_readItems (htakes : TakesDocuments (readValue bound depth) depth) :
    ∀ {n : Nat} {text rest : List Symbol} {values : List Value},
    readItems (readValue bound depth) n text = .ok (values, rest) →
    ∃ items : List (List Char × Value), items ≠ [] ∧ items.map Prod.snd = values ∧
      (∀ i ∈ items, Document depth i.1 i.2) ∧
      text = ofChars ([','].intercalate (items.map Prod.fst)) ++ .char ']' :: rest
  | 0, _, _, _, h => by cases h
  | n + 1, text, rest, values, h => by
    obtain ⟨v, more, hread, hmore⟩ := readItems_eq_ok_iff.mp h
    obtain ⟨core, rfl, hcore⟩ := htakes hread
    obtain ⟨space, hspace, hskip⟩ := exists_space more
    have hitem := hcore.append_space hspace
    rcases hmore with ⟨hclosing, rfl⟩ | ⟨next, others, hcomma, rfl, hothers⟩
    · refine ⟨[(core ++ space, v)], List.cons_ne_nil _ _, rfl, ?_, ?_⟩
      · exact List.forall_mem_singleton.mpr hitem
      · rw [hskip, hclosing, ← List.append_assoc, ← ofChars_append]
        simp
    · obtain ⟨items, hne, rfl, hitems, rfl⟩ := exists_items_of_readItems htakes hothers
      obtain ⟨i, items, rfl⟩ := List.exists_cons_of_ne_nil hne
      refine ⟨(core ++ space, v) :: i :: items, List.cons_ne_nil _ _, rfl, ?_, ?_⟩
      · exact List.forall_mem_cons.mpr ⟨hitem, hitems⟩
      · rw [hskip, hcomma]
        simp [List.intercalate_cons_cons, ofChars]

theorem readList_eq_ok_iff {text rest : List Symbol} {values : List Value} :
    readList (readValue bound depth) bound text = .ok (values, rest) ↔
      (skipSpace text = .char ']' :: rest ∧ values = []) ∨
        readItems (readValue bound depth) bound text = .ok (values, rest) := by
  constructor
  · intro h
    unfold readList at h
    split at h
    · cases h
    · rename_i hclosing
      cases h
      exact Or.inl ⟨hclosing, rfl⟩
    · exact Or.inr (readItems_skipSpace.mp h)
  · rintro (⟨hclosing, rfl⟩ | h)
    · simp only [readList, hclosing]
    · obtain ⟨hnil, hclosing⟩ := skipSpace_of_readItems h
      simp only [readList]
      exact readItems_skipSpace.mpr h

/-! ### Members -/

section

variable {read : List Symbol → Result Value}

theorem readMember_eq_ok_iff {text rest : List Symbol} :
    readMember read text = .ok (v, rest) ↔
      ∃ next, skipSpace text = .char ':' :: next ∧ read next = .ok (v, rest) := by
  constructor
  · intro h
    unfold readMember at h
    split at h
    · cases h
    · rename_i next hcolon
      exact ⟨next, hcolon, h⟩
    · cases h
  · rintro ⟨next, hcolon, h⟩
    simp only [readMember, hcolon, h]

theorem readProperties_eq_ok_iff {n : Nat} {text rest : List Symbol}
    {properties : List (String × Value)} :
    readProperties read (n + 1) text = .ok (properties, rest) ↔
      ∃ name behind v more, readString text = .ok (name, behind) ∧
        readMember read behind = .ok (v, more) ∧
        ((skipSpace more = .char '\x7d' :: rest ∧ properties = [(String.ofList name, v)]) ∨
          ∃ next inside others, skipSpace more = .char ',' :: next ∧
            skipSpace next = .char '"' :: inside ∧
            properties = (String.ofList name, v) :: others ∧
            readProperties read n inside = .ok (others, rest)) := by
  constructor
  · intro h
    rw [readProperties] at h
    split at h
    · cases h
    · rename_i name behind hname
      split at h
      · cases h
      · rename_i v more hvalue
        refine ⟨name, behind, v, more, hname, hvalue, ?_⟩
        split at h
        · cases h
        · rename_i hmore
          cases h
          exact Or.inl ⟨hmore, rfl⟩
        · rename_i next hmore
          split at h
          · cases h
          · rename_i inside hquote
            obtain ⟨others, hothers, rfl⟩ := Result.as_eq_ok h
            exact Or.inr ⟨next, inside, others, hmore, hquote, rfl, hothers⟩
          · cases h
          · cases h
        · cases h
  · rintro ⟨name, behind, v, more, hname, hvalue,
      ⟨hmore, rfl⟩ | ⟨next, inside, others, hmore, hquote, rfl, hothers⟩⟩
    · simp only [readProperties, hname, hvalue, hmore]
    · simp only [readProperties, hname, hvalue, hmore, hquote, hothers]
      rfl

theorem readObject_eq_ok_iff {text rest : List Symbol} {properties : List (String × Value)} :
    readObject read bound text = .ok (properties, rest) ↔
      (skipSpace text = .char '\x7d' :: rest ∧ properties = []) ∨
        ∃ inside, skipSpace text = .char '"' :: inside ∧
          readProperties read bound inside = .ok (properties, rest) := by
  constructor
  · intro h
    unfold readObject at h
    split at h
    · cases h
    · rename_i hclosing
      cases h
      exact Or.inl ⟨hclosing, rfl⟩
    · rename_i inside hquote
      exact Or.inr ⟨inside, hquote, h⟩
    · cases h
  · rintro (⟨hclosing, rfl⟩ | ⟨inside, hquote, h⟩)
    · simp only [readObject, hclosing]
    · simp only [readObject, hquote, h]

namespace Member

theorem ofChars_whole (m : Member) (rest : List Symbol) :
    ofChars m.whole ++ rest = ofChars m.front ++ .char '"' :: (ofChars m.tail ++ rest) := by
  rw [whole, ofChars_append, List.append_assoc]
  rfl

theorem ofChars_tail (m : Member) (rest : List Symbol) :
    ofChars m.tail ++ rest = ofChars m.body ++ .char '"' ::
      (ofChars m.behind ++ .char ':' :: (ofChars m.text ++ rest)) := by
  simp [tail, ofChars]

theorem skipSpace_whole (m : Member) (rest : List Symbol) :
    skipSpace (ofChars m.whole ++ rest) = .char '"' :: (ofChars m.tail ++ rest) := by
  rw [ofChars_whole, skipSpace_append m.isSpace_front, skipSpace_cons rfl]

theorem read_tail (m : Member) (h : Reads read m.text m.value) {rest : List Symbol}
    (hrest : Stops rest) :
    ∃ behind more, readString (ofChars m.tail ++ rest) = .ok (m.name, behind) ∧
      readMember read behind = .ok (m.value, more) ∧ skipSpace more = skipSpace rest := by
  obtain ⟨more, hread, hmore⟩ := h rest hrest
  refine ⟨_, more, readString_eq_ok_iff.mpr ⟨m.body, m.ofChars_tail rest, m.spells⟩, ?_, hmore⟩
  refine readMember_eq_ok_iff.mpr ⟨_, ?_, hread⟩
  rw [skipSpace_append m.isSpace_behind, skipSpace_cons rfl]

end Member

theorem readProperties_joined (rest : List Symbol) : ∀ {n : Nat} {members : List Member},
    members ≠ [] → members.length ≤ n → (∀ m ∈ members, Reads read m.text m.value) →
    ∃ inside, skipSpace (ofChars ([','].intercalate (members.map Member.whole)) ++
        .char '\x7d' :: rest) = .char '"' :: inside ∧
      readProperties read n inside = .ok (members.map Member.property, rest)
  | _, [], hne, _, _ => absurd rfl hne
  | 0, _ :: _, _, hn, _ => absurd hn (Nat.not_succ_le_zero _)
  | n + 1, [m], _, _, h => by
    obtain ⟨behind, more, hname, hvalue, hmore⟩ :=
      m.read_tail (h m List.mem_cons_self) (stops_cons (s := .char '\x7d') rfl rest)
    rw [List.map_singleton, List.intercalate_singleton]
    refine ⟨_, m.skipSpace_whole _, ?_⟩
    exact readProperties_eq_ok_iff.mpr ⟨_, behind, _, more, hname, hvalue, Or.inl ⟨hmore, rfl⟩⟩
  | n + 1, m :: k :: members, _, hn, h => by
    obtain ⟨inside, hquote, hothers⟩ := readProperties_joined rest (List.cons_ne_nil k members)
      (Nat.le_of_succ_le_succ hn) fun l hl => h l (List.mem_cons_of_mem m hl)
    obtain ⟨behind, more, hname, hvalue, hmore⟩ :=
      m.read_tail (h m List.mem_cons_self) (stops_cons (s := .char ',') rfl _)
    simp only [List.map_cons, List.intercalate_cons_cons, ofChars_append, List.append_assoc]
    refine ⟨_, m.skipSpace_whole _, ?_⟩
    exact readProperties_eq_ok_iff.mpr ⟨_, behind, _, more, hname, hvalue,
      Or.inr ⟨_, inside, _, hmore, hquote, rfl, hothers⟩⟩

theorem exists_member (htakes : TakesDocuments read depth) {front name : List Char}
    (hfront : IsSpace front) {text behind more : List Symbol}
    (hname : readString text = .ok (name, behind))
    (hvalue : readMember read behind = .ok (v, more)) :
    ∃ m : Member, m.property = (String.ofList name, v) ∧ Document depth m.text m.value ∧
      ofChars front ++ .char '"' :: text = ofChars m.whole ++ skipSpace more := by
  obtain ⟨body, rfl, hbody⟩ := readString_eq_ok_iff.mp hname
  obtain ⟨next, hcolon, hread⟩ := readMember_eq_ok_iff.mp hvalue
  obtain ⟨core, rfl, hcore⟩ := htakes hread
  obtain ⟨space, hspace, hskip⟩ := exists_space more
  obtain ⟨gap, hgap, hbehind⟩ := exists_space behind
  refine ⟨⟨front, body, name, gap, core ++ space, v, hfront, hbody, hgap⟩, rfl,
    hcore.append_space hspace, ?_⟩
  rw [Member.ofChars_whole, Member.ofChars_tail, hbehind, hcolon]
  dsimp only
  rw [ofChars_append, List.append_assoc, ← hskip]

theorem exists_members_of_readProperties (htakes : TakesDocuments read depth) :
    ∀ {n : Nat} {front : List Char} {text rest : List Symbol} {properties : List (String × Value)},
    IsSpace front → readProperties read n text = .ok (properties, rest) →
    ∃ members : List Member, members ≠ [] ∧ members.map Member.property = properties ∧
      (∀ m ∈ members, Document depth m.text m.value) ∧
      ofChars front ++ .char '"' :: text =
        ofChars ([','].intercalate (members.map Member.whole)) ++ .char '\x7d' :: rest
  | 0, _, _, _, _, _, h => by cases h
  | n + 1, front, text, rest, properties, hfront, h => by
    obtain ⟨name, behind, v, more, hname, hvalue, hmore⟩ := readProperties_eq_ok_iff.mp h
    obtain ⟨m, hm, hdocument, hwhole⟩ := exists_member htakes hfront hname hvalue
    rcases hmore with ⟨hclosing, rfl⟩ | ⟨next, inside, others, hcomma, hquote, rfl, hothers⟩
    · refine ⟨[m], List.cons_ne_nil _ _, ?_, List.forall_mem_singleton.mpr hdocument, ?_⟩
      · rw [List.map_singleton, hm]
      · rw [hwhole, hclosing, List.map_singleton, List.intercalate_singleton]
    · obtain ⟨space, hspace, hskip⟩ := exists_space next
      obtain ⟨members, hne, rfl, hmembers, hjoined⟩ :=
        exists_members_of_readProperties htakes hspace hothers
      obtain ⟨k, members, rfl⟩ := List.exists_cons_of_ne_nil hne
      refine ⟨m :: k :: members, List.cons_ne_nil _ _, ?_, ?_, ?_⟩
      · rw [List.map_cons, hm]
      · exact List.forall_mem_cons.mpr ⟨hdocument, hmembers⟩
      · rw [hwhole, hcomma, hskip, hquote, hjoined]
        simp [List.intercalate_cons_cons, ofChars]

end

end

end ShapeCheck.Json
