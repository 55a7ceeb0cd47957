import Mathlib.Data.List.Nodup
import ShapeCheck.Input.Reader
import ShapeCheck.Proofs.Encoding
import ShapeCheck.Proofs.InsertionOrder
import ShapeCheck.Proofs.JsonDocuments

/-!
# Written documents are read back

The JSON text of a value is a document for that value, with the classes of its objects forgotten.

* `Object.Built.ofList_properties` — the properties of an object that was built by insertion are put
  into an object as they are;
* `exists_document` — a value that can be written is written as a document, which nests as deep as
  the value;
* `read_written` — so that input is read as the value again.
-/

set_option autoImplicit false

namespace ShapeCheck

/-! ## Objects that were built by insertion -/

namespace Object

variable {α : Type}

/-- An object arises from an empty one by setting properties. -/
inductive Built : Object α → Prop
  | empty (className : String) : Built (ofClass className)
  | insert {o : Object α} (h : Built o) (key : String) (value : α) : Built (o.insert key value)

theorem Built.nodup {o : Object α} (h : o.Built) : o.keys.Nodup := by
  have hmap : ∃ pairs, o.IsMapOf pairs := by
    induction h with
    | empty className => exact ⟨[], isMapOf_ofClass className⟩
    | insert h key value ih =>
      obtain ⟨pairs, hpairs⟩ := ih
      exact ⟨_, hpairs.insert key value⟩
  obtain ⟨pairs, hpairs⟩ := hmap
  exact hpairs.nodup

theorem insertInto_of_not_mem {key : String} (value : α) : ∀ {properties : List (String × α)},
    key ∉ properties.map Prod.fst → insertInto key value properties = properties ++ [(key, value)]
  | [], _ => rfl
  | (k, v) :: properties, h => by
    rw [List.map_cons, List.mem_cons, not_or] at h
    rw [insertInto, if_neg (Ne.symm h.1), insertInto_of_not_mem value h.2]
    rfl

theorem foldl_insert_of_nodup (className : String) : ∀ {pairs before : List (String × α)},
    ((before ++ pairs).map Prod.fst).Nodup →
    pairs.foldl (fun o (key, value) => o.insert key value) (⟨className, before⟩ : Object α) =
      ⟨className, before ++ pairs⟩
  | [], before, _ => by rw [List.foldl_nil, List.append_nil]
  | (key, value) :: pairs, before, h => by
    have hkey : key ∉ before.map Prod.fst := fun hmem => by
      rw [List.map_append, List.map_cons, List.nodup_append] at h
      exact h.2.2 key hmem key List.mem_cons_self rfl
    have hinsert : (⟨className, before⟩ : Object α).insert key value =
        ⟨className, before ++ [(key, value)]⟩ := by
      rw [insert, insertInto_of_not_mem value hkey]
    rw [List.foldl_cons]
    dsimp only
    rw [hinsert, foldl_insert_of_nodup className (by rwa [List.append_assoc]), List.append_assoc]
    rfl

theorem ofList_of_nodup {pairs : List (String × α)} (h : (pairs.map Prod.fst).Nodup) :
    ofList pairs = ⟨plainClass, pairs⟩ :=
  foldl_insert_of_nodup plainClass h

end Object

/-! ## Values -/

namespace Value

/-- A value is another one or occurs in it, at any depth. -/
inductive Part : Value → Value → Prop
  | self {v : Value} : Part v v
  | item {v w : Value} {items : List Value} (hw : w ∈ items) (h : Part v w) : Part v (.array items)
  | property {v w : Value} {key : String} {o : Object Value} (hw : (key, w) ∈ o.properties)
      (h : Part v w) : Part v (.object o)

section

variable {v : Value}

@[simp]
theorem part_null : Part v .null ↔ v = .null :=
  ⟨fun h => by cases h; rfl, fun h => h ▸ .self⟩

@[simp]
theorem part_number {x : Float} : Part v (.number x) ↔ v = .number x :=
  ⟨fun h => by cases h; rfl, fun h => h ▸ .self⟩

@[simp]
theorem part_string {s : String} : Part v (.string s) ↔ v = .string s :=
  ⟨fun h => by cases h; rfl, fun h => h ▸ .self⟩

@[simp]
theorem part_array {items : List Value} :
    Part v (.array items) ↔ v = .array items ∨ ∃ w ∈ items, Part v w := by
  constructor
  · rintro (_ | ⟨hw, h⟩)
    · exact Or.inl rfl
    · exact Or.inr ⟨_, hw, h⟩
  · rintro (rfl | ⟨w, hw, h⟩)
    · exact .self
    · exact .item hw h

@[simp]
theorem part_object {o : Object Value} :
    Part v (.object o) ↔ v = .object o ∨ ∃ p ∈ o.properties, Part v p.2 := by
  constructor
  · rintro (_ | _ | ⟨hw, h⟩)
    · exact Or.inl rfl
    · exact Or.inr ⟨_, hw, h⟩
  · rintro (rfl | ⟨p, hp, h⟩)
    · exact .self
    · exact .property hp h

end

mutual

/-- How deep arrays and objects nest. -/
def nesting : Value → Nat
  | .array items => nestingItems items + 1
  | .object o => nestingObject o + 1
  | _ => 0

/-- How deep the items of an array nest. -/
def nestingItems : List Value → Nat
  | [] => 0
  | v :: rest => max (nesting v) (nestingItems rest)

/-- How deep the values of the properties nest. -/
def nestingObject : Object Value → Nat
  | ⟨_, properties⟩ => nestingProperties properties

/-- How deep the values in a list of properties nest. -/
def nestingProperties : List (String × Value) → Nat
  | [] => 0
  | (_, v) :: rest => max (nesting v) (nestingProperties rest)

end

mutual

/-- A value in which every object is plain. -/
def unclassed : Value → Value
  | .array items => .array (unclassedItems items)
  | .object o => .object (unclassedObject o)
  | v => v

/-- The items of an array with plain objects. -/
def unclassedItems : List Value → List Value
  | [] => []
  | v :: rest => unclassed v :: unclassedItems rest

/-- The plain object of the same properties, with plain objects in them. -/
def unclassedObject : Object Value → Object Value
  | ⟨_, properties⟩ => ⟨plainClass, unclassedProperties properties⟩

/-- A list of properties with plain objects. -/
def unclassedProperties : List (String × Value) → List (String × Value)
  | [] => []
  | (key, v) :: rest => (key, unclassed v) :: unclassedProperties rest

end

theorem unclassedItems_eq_map : ∀ items : List Value, unclassedItems items = items.map unclassed
  | [] => rfl
  | v :: rest => by rw [unclassedItems, unclassedItems_eq_map rest, List.map_cons]

theorem map_fst_unclassedProperties : ∀ properties : List (String × Value),
    (unclassedProperties properties).map Prod.fst = properties.map Prod.fst
  | [] => rfl
  | (key, v) :: rest => by
    rw [unclassedProperties, List.map_cons, map_fst_unclassedProperties rest, List.map_cons]

end Value

namespace Json

open Input Value

/-- A value can be written and its numbers read back: it has no regular expressions, its numbers are
finite and survive their JSON texts, and its objects were built by insertion. -/
structure Writable (v : Value) : Prop where
  noRegex : ∀ source, ¬ Part (.regex source) v
  finite : ∀ x, Part (.number x) v → x.isFinite = true
  built : ∀ o, Part (.object o) v → o.Built
  number : ∀ x, Part (.number x) v → read (ofChars (writeNumber x)) = .ok (.number x)

namespace Writable

theorem of_part {v w : Value} (h : Writable v) (hparts : ∀ u, Part u w → Part u v) :
    Writable w where
  noRegex source hpart := h.noRegex source (hparts _ hpart)
  finite x hpart := h.finite x (hparts _ hpart)
  built o hpart := h.built o (hparts _ hpart)
  number x hpart := h.number x (hparts _ hpart)

theorem item {items : List Value} (h : Writable (.array items)) {w : Value} (hw : w ∈ items) :
    Writable w :=
  h.of_part fun _ hpart => .item hw hpart

theorem property {o : Object Value} (h : Writable (.object o)) {p : String × Value}
    (hp : p ∈ o.properties) : Writable p.2 :=
  h.of_part fun _ hpart => .property hp hpart

end Writable

/-! ## Documents of values -/

theorem Document.of_number {d : Nat} {text : List Char} {x : Float}
    (h : Document d text (.number x)) : Document 0 text (.number x) := by
  generalize hv : Value.number x = v at h
  induction h with
  | number h => exact .number h
  | negative h => exact .negative h
  | padded hfront _ hbehind ih => exact .padded hfront (ih hv) hbehind
  | _ => cases hv

theorem exists_member_of_property (key : String) (text : List Char) (v : Value) :
    ∃ m : Member, m.whole = writeString key ++ ':' :: text ∧ m.property = (key, v) ∧
      m.text = text ∧ m.value = v := by
  refine ⟨⟨[], key.toList.flatMap escapeChar, key.toList, [], text, v, isSpace_nil,
    spells_escaped key.toList, isSpace_nil⟩, ?_, ?_, rfl, rfl⟩
  · simp [Member.whole, Member.tail, writeString]
  · rw [Member.property, String.ofList_toList]

mutual

/-- A value that can be written is written as a document for the value with plain objects, and the
document nests as deep as the value. -/
theorem exists_document : ∀ v : Value, Writable v →
    ∃ text, write v = .ok text ∧ Document v.nesting text v.unclassed
  | .null, _ => ⟨_, rfl, .null⟩
  | .bool flag, _ => ⟨_, rfl, .flag flag⟩
  | .number x, h => by
    refine ⟨writeNumber x, ?_, (read_ofChars_eq_ok_iff.mp (h.number x .self)).of_number⟩
    rw [write, if_pos (h.finite x .self)]
  | .string s, _ => by
    have hdocument : Document 0 (writeString s) (.string (String.ofList s.toList)) :=
      .string (spells_escaped s.toList)
    rw [String.ofList_toList] at hdocument
    exact ⟨writeString s, rfl, hdocument⟩
  | .array items, h => by
    obtain ⟨documents, hwrite, hvalues, hdocuments⟩ :=
      exists_documents items fun w hw => h.item hw
    refine ⟨enclose '[' ']' (documents.map Prod.fst), by rw [write, hwrite]; rfl, ?_⟩
    rw [unclassed, ← hvalues, nesting]
    cases documents with
    | nil => exact .noItems isSpace_nil
    | cons i documents => exact .items (List.cons_ne_nil i documents) hdocuments
  | .object ⟨className, properties⟩, h => by
    obtain ⟨members, hwrite, hproperties, hmembers⟩ :=
      exists_members properties fun p hp => h.property hp
    -- without a name that occurs twice, the members inserted in turn give back the same properties
    have hnodup : (unclassedProperties properties).map Prod.fst |>.Nodup := by
      rw [map_fst_unclassedProperties]
      exact (h.built _ .self).nodup
    refine ⟨enclose '\x7b' '\x7d' (members.map Member.whole), ?_, ?_⟩
    · rw [write, writeObject, hwrite]
      rfl
    · rw [unclassed, unclassedObject, ← Object.ofList_of_nodup hnodup, ← hproperties, nesting,
        nestingObject]
      cases members with
      | nil => exact .noMembers isSpace_nil
      | cons m members => exact .members (List.cons_ne_nil m members) hmembers
  | .regex source, h => absurd .self (h.noRegex source)

theorem exists_documents : ∀ items : List Value, (∀ w ∈ items, Writable w) →
    ∃ documents : List (List Char × Value), writeItems items = .ok (documents.map Prod.fst) ∧
      documents.map Prod.snd = unclassedItems items ∧
      ∀ i ∈ documents, Document (nestingItems items) i.1 i.2
  | [], _ => ⟨[], rfl, rfl, nofun⟩
  | v :: rest, h => by
    obtain ⟨text, hwrite, hdocument⟩ := exists_document v (h v List.mem_cons_self)
    obtain ⟨documents, hrest, hvalues, hdocuments⟩ :=
      exists_documents rest fun w hw => h w (List.mem_cons_of_mem v hw)
    refine ⟨(text, v.unclassed) :: documents, ?_, ?_, List.forall_mem_cons.mpr ⟨?_, ?_⟩⟩
    · rw [writeItems, hwrite, hrest]
      rfl
    · rw [List.map_cons, hvalues, unclassedItems]
    · exact hdocument.mono (Nat.le_max_left ..)
    · exact fun i hi => (hdocuments i hi).mono (Nat.le_max_right ..)

theorem exists_members : ∀ properties : List (String × Value),
    (∀ p ∈ properties, Writable p.2) →
    ∃ members : List Member, writeProperties properties = .ok (members.map Member.whole) ∧
      members.map Member.property = unclassedProperties properties ∧
      ∀ m ∈ members, Document (nestingProperties properties) m.text m.value
  | [], _ => ⟨[], rfl, rfl, nofun⟩
  | (key, v) :: rest, h => by
    obtain ⟨text, hwrite, hdocument⟩ := exists_document v (h (key, v) List.mem_cons_self)
    obtain ⟨members, hrest, hproperties, hmembers⟩ :=
      exists_members rest fun p hp => h p (List.mem_cons_of_mem (key, v) hp)
    obtain ⟨m, hwhole, hproperty, rfl, hvalue⟩ := exists_member_of_property key text v.unclassed
    refine ⟨m :: members, ?_, ?_, List.forall_mem_cons.mpr ⟨?_, ?_⟩⟩
    · rw [writeProperties, hwrite, hrest, List.map_cons, hwhole]
      rfl
    · rw [List.map_cons, hproperty, hproperties, unclassedProperties]
    · rw [hvalue]
      exact hdocument.mono (Nat.le_max_left ..)
    · exact fun n hn => (hmembers n hn).mono (Nat.le_max_right ..)

end

/-! ## Reading back -/

theorem topItems_unclassed (v : Value) : topItems v.unclassed = (topItems v).map unclassed := by
  cases v with
  | array items => exact unclassedItems_eq_map items
  | _ => rfl

/-- A value that can be written and does not nest too deep has a JSON text, and input of that text
is read as the value, or as its items if it is an array, with plain objects. -/
theorem read_written {v : Value} (h : Writable v) (hnesting : v.nesting ≤ 127) :
    ∃ text, write v = .ok text ∧
      readValues .json (encode text) = .ok ((topItems v).map unclassed) := by
  obtain ⟨text, hwrite, hdocument⟩ := exists_document v h
  refine ⟨text, hwrite, ?_⟩
  rw [readValues, decode_encode, readDocument,
    read_ofChars_eq_ok_iff.mpr (hdocument.mono hnesting), ← topItems_unclassed]
  rfl

/-- A list of a point, with a name that has to be escaped, and of a control character. -/
def pointList : Value :=
  .array [.object ⟨"Point", [("x\n", .number 1.5), ("y", .null)]⟩, .string "\x01"]

/-- The class does not come back, the rest does. -/
theorem read_written_pointList : Writable pointList ∧ pointList.nesting ≤ 127 ∧
    ∃ text, write pointList = .ok text ∧ readValues .json (encode text) =
      .ok [.object ⟨"Object", [("x\n", .number 1.5), ("y", .null)]⟩, .string "\x01"] := by
  have hbuilt : (⟨"Point", [("x\n", .number 1.5), ("y", .null)]⟩ : Object Value).Built :=
    ((Object.Built.empty "Point").insert "x\n" (Value.number 1.5)).insert "y" Value.null
  have hread : read (ofChars (writeNumber 1.5)) = .ok (.number 1.5) :=
    read_ofChars_eq_ok_iff.mpr (.number (by decide +kernel))
  have hfinite : (1.5 : Float).isFinite = true := by decide +kernel
  have hwritable : Writable pointList :=
    { noRegex := by simp [pointList]
      finite := by simpa [pointList] using hfinite
      built := by simpa [pointList] using hbuilt
      number := by simpa [pointList] using hread }
  have hnesting : pointList.nesting ≤ 127 := by decide
  exact ⟨hwritable, hnesting, read_written hwritable hnesting⟩

end Json

end ShapeCheck
