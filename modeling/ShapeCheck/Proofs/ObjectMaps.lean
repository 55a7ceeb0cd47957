import ShapeCheck.Proofs.InsertionOrder
import ShapeCheck.Proofs.JsonDocuments
import ShapeCheck.Proofs.RuleOrder

/-!
# Objects as maps

Documents and rules see of an object what was inserted into it.

* `IsMapOf.test_names`, `IsMapOf.test_emptiness` — rules on names and on emptiness ask which names
  were inserted, and how many;
* `PropertyTest`, `IsMapOf.testProperties_eq_error` — a test of all properties reports the first
  that is bad, by first insertions and last values;
* `Json.exists_read_isMapOf` — an object in a document is the map of its members;
* `objects_keep_insertion_order` — objects after every sequence of operations, those in documents,
  and the rules for them.
-/

set_option autoImplicit false

namespace ShapeCheck

/-! ## Rules for objects -/

section

variable {o : Object Value} {pairs : List (String × Value)} (h : o.IsMapOf pairs)

/-- A test that goes through all properties and reports the first that it finds bad. -/
structure PropertyTest where
  rules : ObjectRules
  bad : Value → Bool
  report : String → Value → BrokenRule

/-- The tests of all properties. -/
def PropertyTest.all : List PropertyTest :=
  [⟨{ notNested := true }, Value.isObject, fun name _ => .nested name⟩,
   ⟨{ noFalseyProps := true }, fun value => !value.isTruthy, .falseyProperty⟩,
   ⟨{ noTruthyProps := true }, Value.isTruthy, .truthyProperty⟩]

theorem PropertyTest.test_eq {test : PropertyTest} (htest : test ∈ all) (o : Object Value) :
    test.rules.test o = testProperties true o test.bad test.report := by
  simp only [all, List.mem_cons, List.not_mem_nil, or_false] at htest
  rcases htest with rfl | rfl | rfl <;>
    simp only [ObjectRules.test, ObjectRules.consistent, Bool.and_false, Bool.not_false,
      Bool.true_or, Verdict.unless_true, testBound_none, testNames_nil, testProperties_false,
      testJson_false, Verdict.first_ok_cons, Verdict.first_cons_ok, Verdict.first_singleton]

include h

theorem Object.IsMapOf.testProperties_eq_ok_iff {bad : Value → Bool}
    {report : String → Value → BrokenRule} : testProperties true o bad report = .ok () ↔
      ∀ key value, LastInserted pairs key value → bad value = false := by
  have hall : (∀ p ∈ o.properties, bad p.2 = false) ↔
      ∀ key value, LastInserted pairs key value → bad value = false := by
    simp only [Prod.forall, h.mem_properties_iff]
  rw [← hall, testProperties, if_pos rfl]
  cases hfind : o.properties.find? fun p => bad p.2 with
  | none => simpa using List.find?_eq_none.mp hfind
  | some p =>
    refine iff_of_false (fun heq => by cases heq) fun hgood => ?_
    have hbad := List.find?_some hfind
    rw [hgood p (List.mem_of_find?_eq_some hfind)] at hbad
    cases hbad

/-- **The first property that is bad** is reported, in the order of the first insertions and with
its last value. -/
theorem Object.IsMapOf.testProperties_eq_error {bad : Value → Bool}
    {report : String → Value → BrokenRule} {key : String} {value : Value}
    (hlast : LastInserted pairs key value) (hbad : bad value = true)
    (hfirst : ∀ other good, LastInserted pairs other good →
      (pairs.map Prod.fst).idxOf other < (pairs.map Prod.fst).idxOf key → bad good = false) :
    testProperties true o bad report = .error (.rule (report key value)) := by
  obtain ⟨before, after, hsplit⟩ := List.append_of_mem ((h.mem_properties_iff key value).mpr hlast)
  have hgood : ∀ p ∈ before, bad p.2 = false := by
    intro p hp
    have hmem : (p.1, p.2) ∈ o.properties := by
      rw [hsplit]
      exact List.mem_append_left _ hp
    have hordered := h.properties_ordered
    rw [hsplit, List.pairwise_append] at hordered
    exact hfirst p.1 p.2 ((h.mem_properties_iff p.1 p.2).mp hmem)
      (hordered.2.2 p hp (key, value) List.mem_cons_self)
  have hfind : o.properties.find? (fun p => bad p.2) = some (key, value) :=
    List.find?_eq_some_iff_append.mpr
      ⟨hbad, before, after, hsplit, fun p hp => by simp [hgood p hp]⟩
  rw [testProperties, if_pos rfl, hfind]

theorem Object.IsMapOf.test_names (names : List String) :
    ({ required := names } : ObjectRules).test o =
      testNames names (fun name => !(pairs.map Prod.fst).contains name)
        (fun name => .rule (.missingProperty name)) ∧
    ({ forbidden := names } : ObjectRules).test o =
      testNames names (pairs.map Prod.fst).contains fun name => .rule (.unwantedProperty name) := by
  have hcontains : o.contains = (pairs.map Prod.fst).contains := funext h.contains_eq
  have hforbidden : ObjectRules.consistent { forbidden := names } = .ok () := rfl
  have hrequired : ObjectRules.consistent { required := names } = .ok () := by
    rw [ObjectRules.consistent_of_not_both (by simp)]
    exact testNames_contains_nil names _
  rw [ObjectRules.test, ObjectRules.test, hrequired, hforbidden, hcontains]
  simp only [Bool.not_false, Bool.true_or, Verdict.unless_true, testBound_none, testNames_nil,
    testProperties_false, testJson_false, Verdict.first_ok_cons, Verdict.first_cons_ok,
    Verdict.first_singleton, and_self]

theorem Object.IsMapOf.test_emptiness :
    ({ empty := true } : ObjectRules).test o =
      .unless pairs.isEmpty (.rule (.notEmpty (pairs.map Prod.fst).toFinset.card)) ∧
    ({ notEmpty := true } : ObjectRules).test o = .unless (!pairs.isEmpty) (.rule .empty) := by
  have hempty : o.isEmpty = pairs.isEmpty := by
    rw [Bool.eq_iff_iff, h.isEmpty_iff, List.isEmpty_iff]
  rw [← h.size_eq, ← hempty]
  simp only [ObjectRules.test, ObjectRules.consistent, Bool.and_false, Bool.false_and,
    Bool.not_false, Bool.not_true, Bool.false_or, Bool.true_or, Verdict.unless_true, testBound_none,
    testNames_nil, testProperties_false, testJson_false, Verdict.first_ok_cons,
    Verdict.first_cons_ok, Verdict.first_singleton, and_self]

end

/-! ## Objects in documents -/

/-- **An object in a document** is the map of its members. -/
theorem Json.exists_read_isMapOf {members : List Member}
    (h : ∀ m ∈ members, Document 126 m.text m.value) :
    ∃ o, read (Input.ofChars (enclose '\x7b' '\x7d' (members.map Member.whole))) =
        .ok (.object o) ∧
      o.IsMapOf (members.map Member.property) ∧ o.className = plainClass := by
  refine ⟨_, read_ofChars_eq_ok_iff.mpr ?_, Object.isMapOf_ofList _,
    Object.className_foldl_insert _ _⟩
  cases members with
  | nil => exact .noMembers (fun _ hc => absurd hc List.not_mem_nil)
  | cons m members => exact .members (List.cons_ne_nil m members) h

/-! ## What follows -/

/-- **Objects keep the order of insertion.**  After every sequence of operations an object is the
map of the insertions into it: its names are those inserted, in the order of their first
insertions, and have the values of their last ones.  So no name occurs twice, a name has a value
and is found iff it was inserted, there are as many properties as names, and none iff nothing was
inserted; the class stays, but for objects made of pairs.  An insertion changes no other value and
no place of a name.  There is one such map for a class; an object in a document is the map of its
members; and rules on names, on emptiness and on all properties report what the insertions tell. -/
theorem objects_keep_insertion_order :
    (∀ {α : Type} (className : String) (ops : List (Object.Operation α)),
      let o := Object.run className ops
      let names := (Object.written ops).map Prod.fst
      o.IsMapOf (Object.written ops) ∧ o.keys.Nodup ∧
      (∀ key, o.get? key = none ↔ key ∉ names) ∧
      (∀ key, o.contains key = (o.get? key).isSome ∧ (o.contains key = true ↔ key ∈ names)) ∧
      o.size = names.toFinset.card ∧ (o.isEmpty = true ↔ Object.written ops = []) ∧
      o.className = if ops.any Object.Operation.isCollect then plainClass else className) ∧
    (∀ {α : Type} (o : Object α) (key : String) (value : α),
      (o.insert key value).className = o.className ∧
      (∀ other, other ≠ key → (o.insert key value).get? other = o.get? other) ∧
      ∀ (i : Nat) (other : String), o.keys[i]? = some other →
        (o.insert key value).keys[i]? = some other) ∧
    (∀ {α : Type} {o o' : Object α} {pairs : List (String × α)}, o.IsMapOf pairs →
      o'.IsMapOf pairs → o.className = o'.className → o = o') ∧
    (∀ {members : List Json.Member}, (∀ m ∈ members, Json.Document 126 m.text m.value) →
      ∃ o, Json.read (Input.ofChars (Json.enclose '\x7b' '\x7d' (members.map Json.Member.whole))) =
          .ok (.object o) ∧
        o.IsMapOf (members.map Json.Member.property) ∧ o.className = plainClass) ∧
    ∀ {o : Object Value} {pairs : List (String × Value)}, o.IsMapOf pairs →
      (∀ names, ({ required := names } : ObjectRules).test o =
        testNames names (fun name => !(pairs.map Prod.fst).contains name)
          fun name => .rule (.missingProperty name)) ∧
      (∀ names, ({ forbidden := names } : ObjectRules).test o =
        testNames names (pairs.map Prod.fst).contains fun name => .rule (.unwantedProperty name)) ∧
      ({ empty := true } : ObjectRules).test o =
        .unless pairs.isEmpty (.rule (.notEmpty (pairs.map Prod.fst).toFinset.card)) ∧
      ({ notEmpty := true } : ObjectRules).test o = .unless (!pairs.isEmpty) (.rule .empty) ∧
      ∀ test ∈ PropertyTest.all,
        (test.rules.test o = .ok () ↔
          ∀ key value, LastInserted pairs key value → test.bad value = false) ∧
        ∀ key value, LastInserted pairs key value → test.bad value = true →
          (∀ other good, LastInserted pairs other good →
            (pairs.map Prod.fst).idxOf other < (pairs.map Prod.fst).idxOf key →
              test.bad good = false) →
          test.rules.test o = .error (.rule (test.report key value)) := by
  refine ⟨?_, ?_, fun h h' hclass => h.eq h' hclass, Json.exists_read_isMapOf, ?_⟩
  · intro α className ops o names
    have h := Object.isMapOf_run className ops
    exact ⟨h, h.nodup, h.get?_eq_none_iff, fun key => ⟨rfl, h.contains_iff key⟩, h.size_eq,
      h.isEmpty_iff, Object.className_run className ops⟩
  · intro α o key value
    refine ⟨Object.className_insert o key value, fun other hother => ?_, fun i other hi =>
      Object.getElem?_keys_insert hi key value⟩
    rw [Object.get?_insert, if_neg hother]
  · intro o pairs h
    refine ⟨fun names => (h.test_names names).1, fun names => (h.test_names names).2,
      h.test_emptiness.1, h.test_emptiness.2, fun test htest => ⟨?_, ?_⟩⟩
    · rw [PropertyTest.test_eq htest]
      exact h.testProperties_eq_ok_iff
    · intro key value hlast hbad hfirst
      rw [PropertyTest.test_eq htest]
      exact h.testProperties_eq_error hlast hbad hfirst

/-- A name that is inserted twice keeps its first place and its last value: in an object, where it
is the first that is bad, and in a document. -/
theorem objects_keep_insertion_order_repeated :
    let ops : List (Object.Operation Value) :=
      [.insert "x" .null, .insert "y" (.object {}), .adjoin "x" (.object {})]
    let o := Object.run "Point" ops
    let text := "\x7b\"b\":null,\"a\":true,\"b\":false\x7d".toList
    (o.IsMapOf (Object.written ops) ∧ o.keys = ["x", "y"] ∧ o.size = 2 ∧ o.className = "Point") ∧
    ("y" ≠ "x" ∧ (o.insert "x" .null).get? "y" = o.get? "y" ∧
      o.keys[1]? = some "y" ∧ (o.insert "x" .null).keys[1]? = some "y") ∧
    (∃ o, Json.read (Input.ofChars text) = .ok (.object o) ∧
      o = ⟨plainClass, [("b", .bool false), ("a", .bool true)]⟩) ∧
    LastInserted (Object.written ops) "x" (.object {}) ∧
    ({ notNested := true } : ObjectRules).test o = .error (.rule (.nested "x")) := by
  intro ops o text
  obtain ⟨hrun, hinsert, hunique, hread, hrules⟩ := objects_keep_insertion_order
  obtain ⟨hmap, -, -, -, hsize, -, hclass⟩ := hrun "Point" ops
  have hlast : LastInserted (Object.written ops) "x" (.object {}) :=
    ⟨[("x", .null), ("y", .object {})], [], rfl, List.not_mem_nil⟩
  refine ⟨⟨hmap, rfl, hsize, hclass⟩, ?_, ?_, hlast, ?_⟩
  · have hother : "y" ≠ "x" := by decide
    have hplace : o.keys[1]? = some "y" := rfl
    obtain ⟨-, hvalue, hplaces⟩ := hinsert o "x" .null
    exact ⟨hother, hvalue "y" hother, hplace, hplaces 1 "y" hplace⟩
  · have hspells : ∀ c ∈ ['a', 'b'], Json.Spells [c] [c] := by
      have hall : ∀ c ∈ ['a', 'b'], c ≠ '"' ∧ c ≠ '\\' ∧ ¬ c.toNat < 0x20 :=
        List.forall_mem_cons.mpr ⟨by decide, List.forall_mem_singleton.mpr (by decide)⟩
      exact fun c hc => .plain (hall c hc).1 (hall c hc).2.1 (hall c hc).2.2 .nil
    let member (c : Char) (hc : c ∈ ['a', 'b']) (text : List Char) (v : Value) : Json.Member :=
      ⟨[], [c], [c], [], text, v, Json.isSpace_nil, hspells c hc, Json.isSpace_nil⟩
    let members : List Json.Member :=
      [member 'b' (by decide) "null".toList .null,
       member 'a' (by decide) "true".toList (.bool true),
       member 'b' (by decide) "false".toList (.bool false)]
    have hdocuments : ∀ m ∈ members, Json.Document 126 m.text m.value :=
      List.forall_mem_cons.mpr ⟨.null, List.forall_mem_cons.mpr
        ⟨.flag true, List.forall_mem_singleton.mpr (.flag false)⟩⟩
    obtain ⟨o', ho', hmap', hclass'⟩ := hread hdocuments
    have hmade : Object.ofList (members.map Json.Member.property) =
        ⟨plainClass, [("b", .bool false), ("a", .bool true)]⟩ := rfl
    exact ⟨o', ho', hmade ▸ hunique hmap' (Object.isMapOf_ofList _) hclass'⟩
  · refine ((hrules hmap).2.2.2.2 _ List.mem_cons_self).2 "x" _ hlast rfl fun other _ _ hlt => ?_
    exact absurd hlt (Nat.not_lt_zero _)

end ShapeCheck
