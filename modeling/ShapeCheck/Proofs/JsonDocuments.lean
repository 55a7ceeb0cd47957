import ShapeCheck.Proofs.JsonGrammar

/-!
# What documents say

The reader of values against the grammar of documents.

* `reads_of_document` — a document is read as its value, whatever stops it;
* `takesDocuments_readValue` — what is read as a value is a document in front of the rest;
* `read_eq_ok_iff` — so a whole text is read exactly when it is a document that nests at most 127
  deep.
-/

set_option autoImplicit false

namespace ShapeCheck.Json

open Input

/-! ## Lengths -/

theorem ofChars_between (opening closing : Char) (inside : List Char) (rest : List Symbol) :
    ofChars (opening :: inside ++ [closing]) ++ rest =
      .char opening :: (ofChars inside ++ .char closing :: rest) := by
  simp [ofChars]

theorem length_enclose (opening closing : Char) (texts : List (List Char)) :
    (enclose opening closing texts).length = ([','].intercalate texts).length + 2 := by
  simp [enclose]

theorem length_le_intercalate : ∀ {texts : List (List Char)} {text : List Char},
    text ∈ texts → text.length ≤ ([','].intercalate texts).length
  | [t], text, h => by
    rw [List.mem_singleton.mp h, List.intercalate_singleton]
  | t :: u :: texts, text, h => by
    rw [List.intercalate_cons_cons, List.length_append, List.length_append]
    rcases List.mem_cons.mp h with rfl | h
    · omega
    · have := length_le_intercalate h
      omega

theorem length_le_intercalate_add_one : ∀ texts : List (List Char),
    texts.length ≤ ([','].intercalate texts).length + 1
  | [] => Nat.zero_le _
  | [_] => Nat.succ_le_succ (Nat.zero_le _)
  | t :: u :: texts => by
    have := length_le_intercalate_add_one (u :: texts)
    simp only [List.intercalate_cons_cons, List.length_append, List.length_cons,
      List.length_nil] at *
    omega

/-! ## Numbers -/

theorem readNumber_append {negative : Bool} {text : List Char} {x : Float}
    (h : readNumber negative (ofChars text) = .ok (x, [])) {rest : List Symbol}
    (hrest : Stops rest) : readNumber negative (ofChars text ++ rest) = .ok (x, rest) := by
  obtain ⟨token, htoken, -, hread⟩ := takes_readNumber h
  rw [List.append_nil] at htoken
  rw [htoken]
  exact hread rest hrest

theorem exists_number_of_readNumber {negative : Bool} {text rest : List Symbol} {x : Float}
    (h : readNumber negative text = .ok (x, rest)) :
    ∃ core, text = ofChars core ++ rest ∧ readNumber negative (ofChars core) = .ok (x, []) := by
  obtain ⟨token, rfl, hnumeral, hread⟩ := takes_readNumber h
  obtain ⟨core, rfl⟩ := exists_ofChars fun s hs => by
    cases s with
    | char c => exact ⟨c, rfl⟩
    | stray b => cases hnumeral _ hs
  refine ⟨core, rfl, ?_⟩
  have hwhole := hread [] stops_nil
  rwa [List.append_nil] at hwhole

theorem exists_digit_of_readNumber {negative : Bool} {text rest : List Symbol} {x : Float}
    (h : readNumber negative text = .ok (x, rest)) :
    ∃ s more, text = s :: more ∧ isDigit s = true := by
  cases text with
  | nil => cases h
  | cons s more =>
    refine ⟨s, more, rfl, ?_⟩
    by_contra hs
    simp only [readNumber, digit?_eq_none (Bool.of_not_eq_true hs)] at h
    cases h

/-! ## Documents are read -/

section

variable {bound depth : Nat}

theorem reads_number {text : List Char} {x : Float}
    (h : readNumber false (ofChars text) = .ok (x, [])) :
    Reads (readValue bound depth) text (.number x) := fun rest hrest => by
  refine ⟨rest, ?_, rfl⟩
  have hread := readNumber_append h hrest
  obtain ⟨s, more, htext, hs⟩ := exists_digit_of_readNumber hread
  rw [htext] at hread ⊢
  rw [readValue_digit bound depth hs, hread]
  rfl

theorem reads_items {items : List (List Char × Value)} (hne : items ≠ [])
    (hbound : (enclose '[' ']' (items.map Prod.fst)).length ≤ bound)
    (h : ∀ i ∈ items, i.1.length ≤ bound → Reads (readValue bound depth) i.1 i.2) :
    Reads (readValue bound (depth + 1)) (enclose '[' ']' (items.map Prod.fst))
      (.array (items.map Prod.snd)) := fun rest _ => by
  rw [length_enclose] at hbound
  have hcount := length_le_intercalate_add_one (items.map Prod.fst)
  rw [List.length_map] at hcount
  have hitems : ∀ i ∈ items, Reads (readValue bound depth) i.1 i.2 := fun i hi => by
    have hlength := length_le_intercalate (List.mem_map_of_mem (f := Prod.fst) hi)
    exact h i hi (by omega)
  refine ⟨rest, ?_, rfl⟩
  rw [enclose, ofChars_between, readValue_list,
    readList_eq_ok_iff.mpr (Or.inr (readItems_joined rest hne (by omega) hitems))]
  rfl

theorem reads_members {members : List Member} (hne : members ≠ [])
    (hbound : (enclose '\x7b' '\x7d' (members.map Member.whole)).length ≤ bound)
    (h : ∀ m ∈ members, m.text.length ≤ bound → Reads (readValue bound depth) m.text m.value) :
    Reads (readValue bound (depth + 1)) (enclose '\x7b' '\x7d' (members.map Member.whole))
      (.object (Object.ofList (members.map Member.property))) := fun rest _ => by
  rw [length_enclose] at hbound
  have hcount := length_le_intercalate_add_one (members.map Member.whole)
  rw [List.length_map] at hcount
  have hmembers : ∀ m ∈ members, Reads (readValue bound depth) m.text m.value := fun m hm => by
    have hlength := length_le_intercalate (List.mem_map_of_mem (f := Member.whole) hm)
    have hwhole : m.text.length ≤ m.whole.length := by
      simp only [Member.whole, Member.tail, List.length_append, List.length_cons]
      omega
    exact h m hm (by omega)
  refine ⟨rest, ?_, rfl⟩
  rw [enclose, ofChars_between, readValue_object,
    readObject_eq_ok_iff.mpr (Or.inr (readProperties_joined rest hne (by omega) hmembers))]
  rfl

theorem reads_of_document {d : Nat} {text : List Char} {v : Value} (h : Document d text v) :
    d ≤ depth → text.length ≤ bound → Reads (readValue bound depth) text v := by
  induction h generalizing depth with
  | null =>
    intro _ _ rest _
    refine ⟨rest, ?_, rfl⟩
    rw [readValue]
    exact readWord_append .null ['u', 'l', 'l'] rest
  | flag flag =>
    intro _ _ rest _
    refine ⟨rest, ?_, rfl⟩
    rw [readValue]
    cases flag with
    | false => exact readWord_append _ ['a', 'l', 's', 'e'] rest
    | true => exact readWord_append _ ['r', 'u', 'e'] rest
  | number h => exact fun _ _ => reads_number h
  | @negative _ text x h =>
    intro _ _ rest hrest
    refine ⟨rest, ?_, rfl⟩
    show readValue bound depth (.char '-' :: (ofChars text ++ rest)) = _
    rw [readValue_negative, readNumber_append h hrest]
    rfl
  | @string _ body said h =>
    intro _ _ rest _
    refine ⟨rest, ?_, rfl⟩
    rw [ofChars_between, readValue_string, readString_eq_ok_iff.mpr ⟨body, rfl, h⟩]
    rfl
  | @noItems d space h =>
    intro hdepth _ rest _
    obtain ⟨depth, rfl, -⟩ := exists_level hdepth
    refine ⟨rest, ?_, rfl⟩
    rw [ofChars_between, readValue_list, readList_eq_ok_iff.mpr (Or.inl ⟨?_, rfl⟩)]
    · rfl
    · rw [skipSpace_append h, skipSpace_cons rfl]
  -- `bound` limits the number of parts, of which there are no more than characters
  | @items d items hne _ ih =>
    intro hdepth hbound
    obtain ⟨depth, rfl, hlevel⟩ := exists_level hdepth
    exact reads_items hne hbound fun i hi => ih i hi hlevel
  | @noMembers d space h =>
    intro hdepth _ rest _
    obtain ⟨depth, rfl, -⟩ := exists_level hdepth
    refine ⟨rest, ?_, rfl⟩
    rw [ofChars_between, readValue_object, readObject_eq_ok_iff.mpr (Or.inl ⟨?_, rfl⟩)]
    · rfl
    · rw [skipSpace_append h, skipSpace_cons rfl]
  | @members d members hne _ ih =>
    intro hdepth hbound
    obtain ⟨depth, rfl, hlevel⟩ := exists_level hdepth
    exact reads_members hne hbound fun m hm => ih m hm hlevel
  | @padded d front text behind v hfront _ hbehind ih =>
    intro hdepth hlength
    rw [List.length_append, List.length_append] at hlength
    exact (ih hdepth (by omega)).padded hfront hbehind

end

/-! ## What is read is a document -/

section

variable {bound depth : Nat}

/-- Space before a value belongs to its document. -/
theorem exists_document_of_skipSpace {text rest : List Symbol} {core : List Char} {v : Value}
    (h : Document depth core v) (htext : skipSpace text = ofChars core ++ rest) :
    ∃ core, text = ofChars core ++ rest ∧ Document depth core v := by
  obtain ⟨space, hspace, hskip⟩ := exists_space text
  refine ⟨space ++ core ++ [], ?_, .padded hspace h isSpace_nil⟩
  rw [hskip, htext, List.append_nil, ofChars_append, List.append_assoc]

theorem takesDocuments_list (h : TakesDocuments (readValue bound depth) depth)
    {text rest : List Symbol} {values : List Value}
    (hread : readList (readValue bound depth) bound text = .ok (values, rest)) :
    ∃ core, .char '[' :: text = ofChars core ++ rest ∧
      Document (depth + 1) core (.array values) := by
  rcases readList_eq_ok_iff.mp hread with ⟨hclosing, rfl⟩ | hitems
  · obtain ⟨space, hspace, hskip⟩ := exists_space text
    refine ⟨_, ?_, .noItems hspace⟩
    rw [ofChars_between, hskip, hclosing]
  · obtain ⟨items, hne, rfl, hdocuments, rfl⟩ := exists_items_of_readItems h hitems
    exact ⟨_, (ofChars_between ..).symm, .items hne hdocuments⟩

theorem takesDocuments_object (h : TakesDocuments (readValue bound depth) depth)
    {text rest : List Symbol} {properties : List (String × Value)}
    (hread : readObject (readValue bound depth) bound text = .ok (properties, rest)) :
    ∃ core, .char '\x7b' :: text = ofChars core ++ rest ∧
      Document (depth + 1) core (.object (Object.ofList properties)) := by
  obtain ⟨space, hspace, hskip⟩ := exists_space text
  rcases readObject_eq_ok_iff.mp hread with ⟨hclosing, rfl⟩ | ⟨inside, hquote, hmembers⟩
  · refine ⟨_, ?_, .noMembers hspace⟩
    rw [ofChars_between, hskip, hclosing]
  · obtain ⟨members, hne, rfl, hdocuments, htext⟩ :=
      exists_members_of_readProperties h hspace hmembers
    refine ⟨_, ?_, .members hne hdocuments⟩
    rw [enclose, ofChars_between, hskip, hquote, htext]

theorem takesDocuments_of_nested
    (hnested : ∀ e, depth = e + 1 → TakesDocuments (readValue bound e) e) :
    TakesDocuments (readValue bound depth) depth := fun {text rest v} h => by
  rw [readValue] at h
  split at h <;> rename_i htext
  · cases h
  · obtain ⟨rfl, rfl⟩ := eq_of_readWord h
    exact exists_document_of_skipSpace .null htext
  · obtain ⟨rfl, rfl⟩ := eq_of_readWord h
    exact exists_document_of_skipSpace (.flag true) htext
  · obtain ⟨rfl, rfl⟩ := eq_of_readWord h
    exact exists_document_of_skipSpace (.flag false) htext
  · obtain ⟨x, hnumber, rfl⟩ := Result.as_eq_ok h
    obtain ⟨core, rfl, hcore⟩ := exists_number_of_readNumber hnumber
    exact exists_document_of_skipSpace (.negative hcore) htext
  · obtain ⟨said, hstring, rfl⟩ := Result.as_eq_ok h
    obtain ⟨body, rfl, hbody⟩ := readString_eq_ok_iff.mp hstring
    exact exists_document_of_skipSpace (.string hbody) (htext.trans (ofChars_between ..).symm)
  · cases depth with
    | zero => cases h
    | succ depth =>
      obtain ⟨values, hlist, rfl⟩ := Result.as_eq_ok h
      obtain ⟨core, hcore, hdocument⟩ := takesDocuments_list (hnested depth rfl) hlist
      exact exists_document_of_skipSpace hdocument (htext.trans hcore)
  · cases depth with
    | zero => cases h
    | succ depth =>
      obtain ⟨properties, hobject, rfl⟩ := Result.as_eq_ok h
      obtain ⟨core, hcore, hdocument⟩ := takesDocuments_object (hnested depth rfl) hobject
      exact exists_document_of_skipSpace hdocument (htext.trans hcore)
  · split at h
    · obtain ⟨x, hnumber, rfl⟩ := Result.as_eq_ok h
      obtain ⟨core, hcore, hread⟩ := exists_number_of_readNumber hnumber
      exact exists_document_of_skipSpace (.number hread) (htext.trans hcore)
    · cases h

/-- What is read as a value is a document in front of the rest. -/
theorem takesDocuments_readValue (bound : Nat) :
    ∀ depth : Nat, TakesDocuments (readValue bound depth) depth
  | 0 => takesDocuments_of_nested fun _ he => absurd he (Nat.zero_ne_add_one _)
  | depth + 1 => takesDocuments_of_nested fun e he => by
    cases he
    exact takesDocuments_readValue bound depth

end

theorem read_eq_ok_iff {text : List Symbol} {v : Value} :
    read text = .ok v ↔ ∃ core, text = ofChars core ∧ Document nestingLimit core v := by
  constructor
  · intro h
    unfold read at h
    split at h
    · cases h
    · rename_i value rest hread
      obtain ⟨core, rfl, hcore⟩ := takesDocuments_readValue _ _ hread
      split at h
      · rename_i hrest
        cases h
        obtain ⟨space, hspace, hskip⟩ := exists_space rest
        refine ⟨core ++ space, ?_, hcore.append_space hspace⟩
        rw [hskip, hrest, List.append_nil, ofChars_append]
      · cases h
  · rintro ⟨core, rfl, hcore⟩
    have hlength : (ofChars core).length = core.length := List.length_map _
    obtain ⟨more, hread, hmore⟩ := reads_of_document hcore le_rfl hlength.ge [] stops_nil
    rw [List.append_nil] at hread
    rw [read, hread]
    dsimp only
    rw [hmore]
    rfl

theorem read_ofChars_eq_ok_iff {text : List Char} {v : Value} :
    read (ofChars text) = .ok v ↔ Document nestingLimit text v := by
  rw [read_eq_ok_iff]
  constructor
  · rintro ⟨core, hcore, h⟩
    have htext : text = core := List.map_injective_iff.mpr (fun _ _ => Symbol.char.inj) hcore
    rwa [htext]
  · exact fun h => ⟨text, rfl, h⟩

end ShapeCheck.Json
