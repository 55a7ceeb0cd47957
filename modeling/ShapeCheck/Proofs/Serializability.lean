import Mathlib.Data.List.Lex
import ShapeCheck.Proofs.Doubles
import ShapeCheck.Proofs.NestedParse
import ShapeCheck.Proofs.RuleOrder
import ShapeCheck.Proofs.WrittenDocuments

/-!
# Objects that can be serialized

The writer of JSON goes through a value depth first and stops at the first part that has no JSON
text.

* `Value.at?`, `part_iff_at?` — parts of a value and their places in it, which are lists of
  positions from the outermost one inwards; of two places the lexicographically smaller one comes
  first;
* `obstacle?_of_unwritable`, `obstacle?_of_children` — one step of the writer: a value stops it on
  its own, or the first of its children that does;
* `obstacle?_eq_none_iff`, `obstacle?_eq_some_iff` — the whole run: the writer stops iff some part
  has no JSON text, and the cause is the first of them;
* `obstacle?_unlabeled` — names of classes and properties play no part in it;
* `serializable_exact` — what follows for constraints that ask for JSON texts.
-/

set_option autoImplicit false

namespace ShapeCheck

open Json

/-! ## Places in a value -/

namespace Value

/-- The values right inside an array or an object, in their order. -/
def children : Value → List Value
  | .array items => items
  | .object o => o.properties.map Prod.snd
  | _ => []

/-- The value at a place. -/
def at? : Value → List ℕ → Option Value
  | v, [] => some v
  | v, i :: place => v.children[i]?.bind (at? · place)

@[simp]
theorem at?_nil (v : Value) : v.at? [] = some v := rfl

@[simp]
theorem at?_cons (v : Value) (i : ℕ) (place : List ℕ) :
    v.at? (i :: place) = v.children[i]?.bind (at? · place) := rfl

theorem sizeOf_lt_of_mem_children {v w : Value} (h : w ∈ v.children) : sizeOf w < sizeOf v := by
  cases v with
  | array items =>
    have hlt : sizeOf w < sizeOf items := List.sizeOf_lt_of_mem h
    simp only [array.sizeOf_spec]
    omega
  | object o =>
    obtain ⟨className, properties⟩ := o
    obtain ⟨⟨key, w⟩, hp, rfl⟩ := List.mem_map.mp h
    have hlt := List.sizeOf_lt_of_mem hp
    simp only [object.sizeOf_spec, Object.mk.sizeOf_spec, Prod.mk.sizeOf_spec] at hlt ⊢
    omega
  | _ => cases h

/-- What holds of a value if it holds of its children holds of all values. -/
theorem childrenInduction {motive : Value → Prop}
    (h : ∀ v, (∀ w ∈ v.children, motive w) → motive v) (v : Value) : motive v :=
  h v fun w _ => childrenInduction h w
termination_by sizeOf v
decreasing_by exact sizeOf_lt_of_mem_children ‹_›

theorem part_iff_children {v w : Value} : Part w v ↔ w = v ∨ ∃ u ∈ v.children, Part w u := by
  constructor
  · rintro (_ | ⟨hu, h⟩ | ⟨hu, h⟩)
    · exact Or.inl rfl
    · exact Or.inr ⟨_, hu, h⟩
    · exact Or.inr ⟨_, List.mem_map_of_mem hu, h⟩
  · rintro (rfl | ⟨u, hu, h⟩)
    · exact .self
    · cases v with
      | array items => exact .item hu h
      | object o =>
        obtain ⟨⟨key, u⟩, hproperty, rfl⟩ := List.mem_map.mp hu
        exact .property hproperty h
      | _ => cases hu

/-- **The parts of a value are what stands at its places.** -/
theorem part_iff_at? {v w : Value} : Part w v ↔ ∃ place, v.at? place = some w := by
  induction v using childrenInduction with
  | h v ih =>
    rw [part_iff_children]
    constructor
    · rintro (rfl | ⟨u, hu, hpart⟩)
      · exact ⟨[], rfl⟩
      · obtain ⟨place, hplace⟩ := (ih u hu).mp hpart
        obtain ⟨i, hi⟩ := List.mem_iff_getElem?.mp hu
        exact ⟨i :: place, by simp [hi, hplace]⟩
    · rintro ⟨place, hplace⟩
      cases place with
      | nil => exact Or.inl (Option.some.inj hplace).symm
      | cons i place =>
        obtain ⟨u, hi, hplace⟩ := Option.bind_eq_some_iff.mp hplace
        have hu : u ∈ v.children := List.mem_of_getElem? hi
        exact Or.inr ⟨u, hu, (ih u hu).mpr ⟨place, hplace⟩⟩

end Value

namespace Json

open Value

/-! ## One step of the writer -/

/-- A value that has no JSON text on its own, and why: NaN, an infinite number or a regular
expression. -/
inductive Unwritable : Value → WriteError → Prop
  | number {x : Float} (h : x.isNaN = true ∨ x.isInf = true) : Unwritable (.number x) (.nonFinite x)
  | regex (source : String) : Unwritable (.regex source) (.regex source)

theorem Unwritable.unique {v : Value} {cause cause' : WriteError} (h : Unwritable v cause)
    (h' : Unwritable v cause') : cause = cause' := by
  cases h <;> cases h' <;> rfl

/-- The cause of a failure to write. -/
def cause? {α : Type} : Except WriteError α → Option WriteError
  | .ok _ => none
  | .error cause => some cause

theorem cause?_map {α β : Type} (f : α → β) (r : Except WriteError α) :
    cause? (r.map f) = cause? r := by
  cases r <;> rfl

/-- What stops the writer. -/
def obstacle? (v : Value) : Option WriteError := cause? (write v)

theorem cause?_writeItems (items : List Value) :
    cause? (writeItems items) = items.findSome? obstacle? := by
  induction items with
  | nil => rfl
  | cons v items ih =>
    rw [writeItems, List.findSome?_cons, ← ih, obstacle?]
    cases write v with
    | error cause => rfl
    | ok text => exact cause?_map _ _

theorem cause?_writeProperties (properties : List (String × Value)) :
    cause? (writeProperties properties) = (properties.map Prod.snd).findSome? obstacle? := by
  induction properties with
  | nil => rfl
  | cons property properties ih =>
    obtain ⟨key, v⟩ := property
    rw [writeProperties, List.map_cons, List.findSome?_cons, ← ih, obstacle?]
    cases write v with
    | error cause => rfl
    | ok text => exact cause?_map _ _

theorem obstacle?_of_unwritable {v : Value} {cause : WriteError} (h : Unwritable v cause) :
    obstacle? v = some cause := by
  cases h with
  | number h => rw [obstacle?, write, (Decimal.isFinite_eq_false_iff _).mpr h]; rfl
  | regex source => rfl

/-- **The writer goes from child to child**, up to the first one that stops it. -/
theorem obstacle?_of_children {v : Value} (h : ∀ cause, ¬ Unwritable v cause) :
    obstacle? v = v.children.findSome? obstacle? := by
  cases v with
  | null | bool | string => rfl
  | regex source => exact absurd (.regex source) (h _)
  | number x =>
    have hfinite : x.isFinite = true := by
      rw [← Bool.not_eq_false, Decimal.isFinite_eq_false_iff]
      exact fun hx => h _ (.number hx)
    rw [obstacle?, write, hfinite]
    rfl
  | array items =>
    rw [children, ← cause?_writeItems, obstacle?, write, cause?_map]
  | object o =>
    rw [children, ← cause?_writeProperties, obstacle?, write, writeObject, cause?_map]

/-! ## The first part without a JSON text -/

/-- **The writer goes through iff every part of a value can be written.** -/
theorem obstacle?_eq_none_iff {v : Value} :
    obstacle? v = none ↔ ∀ w cause, Part w v → ¬ Unwritable w cause := by
  induction v using childrenInduction with
  | h v ih =>
    by_cases hv : ∃ cause, Unwritable v cause
    · obtain ⟨cause, hcause⟩ := hv
      refine iff_of_false ?_ fun h => h v cause .self hcause
      rw [obstacle?_of_unwritable hcause]
      nofun
    · rw [not_exists] at hv
      rw [obstacle?_of_children hv, List.findSome?_eq_none_iff]
      constructor
      · intro h w cause hpart
        rcases part_iff_children.mp hpart with rfl | ⟨u, hu, hpart⟩
        · exact hv cause
        · exact (ih u hu).mp (h u hu) w cause hpart
      · intro h u hu
        refine (ih u hu).mpr fun w cause hpart => h w cause ?_
        exact part_iff_children.mpr (Or.inr ⟨u, hu, hpart⟩)

/-- The places of parts that have no JSON text. -/
def unwritablePlaces (v : Value) : Set (List ℕ) :=
  {place | ∃ w cause, v.at? place = some w ∧ Unwritable w cause}

/-- The first part that has no JSON text has none for this cause. -/
def FirstCause (v : Value) (cause : WriteError) : Prop :=
  ∃ place w, IsLeast (unwritablePlaces v) place ∧ v.at? place = some w ∧ Unwritable w cause

theorem FirstCause.unique {v : Value} {cause cause' : WriteError} (h : FirstCause v cause)
    (h' : FirstCause v cause') : cause = cause' := by
  obtain ⟨place, w, hleast, hw, hcause⟩ := h
  obtain ⟨place', w', hleast', hw', hcause'⟩ := h'
  obtain rfl := hleast.unique hleast'
  obtain rfl := Option.some.inj (hw.symm.trans hw')
  exact hcause.unique hcause'

/-- The first part of a child comes first in the whole, if the children before it have no such
part. -/
theorem isLeast_unwritablePlaces {v u : Value} {before after : List Value} {place : List ℕ}
    (hv : ∀ cause, ¬ Unwritable v cause) (hchildren : v.children = before ++ u :: after)
    (hbefore : ∀ w ∈ before, unwritablePlaces w = ∅) (h : IsLeast (unwritablePlaces u) place) :
    IsLeast (unwritablePlaces v) (before.length :: place) := by
  obtain ⟨⟨w, cause, hw, hcause⟩, hleast⟩ := h
  refine ⟨⟨w, cause, by simp [hchildren, hw], hcause⟩, ?_⟩
  rintro other ⟨w', cause', hw', hcause'⟩
  cases other with
  | nil =>
    obtain rfl := Option.some.inj hw'
    exact absurd hcause' (hv cause')
  | cons i other =>
    obtain ⟨u', hi, hother⟩ := Option.bind_eq_some_iff.mp hw'
    have hmem : other ∈ unwritablePlaces u' := ⟨w', cause', hother, hcause'⟩
    rw [hchildren] at hi
    rcases lt_trichotomy before.length i with hlt | rfl | hgt
    · exact (List.cons_lt_cons_iff.mpr (Or.inl hlt)).le
    · rw [List.getElem?_append_right le_rfl, Nat.sub_self] at hi
      obtain rfl := Option.some.inj hi
      exact List.cons_le_cons _ (hleast hmem)
    · rw [List.getElem?_append_left hgt] at hi
      rw [hbefore u' (List.mem_of_getElem? hi)] at hmem
      exact absurd hmem (Set.notMem_empty other)

theorem unwritablePlaces_eq_empty {v : Value} (h : obstacle? v = none) :
    unwritablePlaces v = ∅ := by
  rw [Set.eq_empty_iff_forall_notMem]
  rintro place ⟨w, cause, hw, hcause⟩
  exact obstacle?_eq_none_iff.mp h w cause (part_iff_at?.mpr ⟨place, hw⟩) hcause

/-- What stops the writer comes from the first part that has no JSON text. -/
theorem firstCause_of_obstacle? {v : Value} {cause : WriteError} (h : obstacle? v = some cause) :
    FirstCause v cause := by
  induction v using childrenInduction generalizing cause with
  | h v ih =>
    by_cases hv : ∃ cause, Unwritable v cause
    · obtain ⟨cause', hcause⟩ := hv
      obtain rfl := Option.some.inj (h.symm.trans (obstacle?_of_unwritable hcause))
      have hleast : IsLeast (unwritablePlaces v) [] :=
        ⟨⟨v, cause, rfl, hcause⟩, fun place _ => not_lt.mp (List.not_lt_nil place)⟩
      exact ⟨[], v, hleast, rfl, hcause⟩
    · rw [not_exists] at hv
      rw [obstacle?_of_children hv] at h
      obtain ⟨before, u, after, hchildren, hu, hbefore⟩ := List.findSome?_eq_some_iff.mp h
      have hmem : u ∈ v.children := by simp [hchildren]
      obtain ⟨place, w, hleast, hw, hcause⟩ := ih u hmem hu
      have hempty : ∀ w ∈ before, unwritablePlaces w = ∅ :=
        fun w hw => unwritablePlaces_eq_empty (hbefore w hw)
      exact ⟨before.length :: place, w, isLeast_unwritablePlaces hv hchildren hempty hleast,
        by simp [hchildren, hw], hcause⟩

/-- **The writer stops at the first part that has no JSON text.** -/
theorem obstacle?_eq_some_iff {v : Value} {cause : WriteError} :
    obstacle? v = some cause ↔ FirstCause v cause := by
  refine ⟨firstCause_of_obstacle?, fun h => ?_⟩
  cases hfails : obstacle? v with
  | some cause' => rw [(firstCause_of_obstacle? hfails).unique h]
  | none =>
    obtain ⟨place, w, ⟨hplace, -⟩, -⟩ := h
    rw [unwritablePlaces_eq_empty hfails] at hplace
    exact absurd hplace (Set.notMem_empty place)

end Json

/-! ## Names play no part -/

namespace Value

mutual

/-- A value without the names of its classes and properties. -/
def unlabeled : Value → Value
  | .array items => .array (unlabeledItems items)
  | .object o => .object (unlabeledObject o)
  | v => v

/-- The items of an array without names. -/
def unlabeledItems : List Value → List Value
  | [] => []
  | v :: rest => unlabeled v :: unlabeledItems rest

/-- An object without names. -/
def unlabeledObject : Object Value → Object Value
  | ⟨_, properties⟩ => ⟨"", unlabeledProperties properties⟩

/-- A list of properties without names. -/
def unlabeledProperties : List (String × Value) → List (String × Value)
  | [] => []
  | (_, v) :: rest => ("", unlabeled v) :: unlabeledProperties rest

end

theorem unlabeledItems_eq_map : ∀ items : List Value, unlabeledItems items = items.map unlabeled
  | [] => rfl
  | v :: rest => by rw [unlabeledItems, unlabeledItems_eq_map rest, List.map_cons]

theorem map_snd_unlabeledProperties : ∀ properties : List (String × Value),
    (unlabeledProperties properties).map Prod.snd = (properties.map Prod.snd).map unlabeled
  | [] => rfl
  | (key, v) :: rest => by
    rw [unlabeledProperties, List.map_cons, map_snd_unlabeledProperties rest, List.map_cons,
      List.map_cons]

theorem children_unlabeled (v : Value) : v.unlabeled.children = v.children.map unlabeled := by
  cases v with
  | array items => exact unlabeledItems_eq_map items
  | object o =>
    obtain ⟨className, properties⟩ := o
    exact map_snd_unlabeledProperties properties
  | _ => rfl

end Value

namespace Json

theorem unwritable_unlabeled {v : Value} {cause : WriteError} :
    Unwritable v.unlabeled cause ↔ Unwritable v cause := by
  cases v with
  | array | object => exact ⟨nofun, nofun⟩
  | _ => exact Iff.rfl

/-- **Names of classes and properties neither stop the writer nor keep it going.** -/
theorem obstacle?_unlabeled (v : Value) : obstacle? v.unlabeled = obstacle? v := by
  induction v using Value.childrenInduction with
  | h v ih =>
    by_cases hv : ∃ cause, Unwritable v cause
    · obtain ⟨cause, hcause⟩ := hv
      rw [obstacle?_of_unwritable hcause, obstacle?_of_unwritable (unwritable_unlabeled.mpr hcause)]
    · rw [not_exists] at hv
      rw [obstacle?_of_children hv,
        obstacle?_of_children fun cause => mt unwritable_unlabeled.mp (hv cause),
        Value.children_unlabeled, List.findSome?_map]
      generalize v.children = children at ih ⊢
      induction children with
      | nil => rfl
      | cons w children ih' =>
        obtain ⟨hw, hchildren⟩ := List.forall_mem_cons.mp ih
        rw [List.findSome?_cons, List.findSome?_cons, Function.comp_apply, hw, ih' hchildren]

end Json

/-! ## Constraints that ask for a JSON text -/

theorem testJson_eq (o : Object Value) : testJson true o =
    match obstacle? (.object o) with
    | none => .ok ()
    | some cause => .error (.rule (.noJson cause)) := by
  rw [testJson, if_pos rfl, obstacle?, write]
  cases writeObject o <;> rfl

theorem ObjectRules.test_canSerialize (o : Object Value) :
    ({ canSerialize := true } : ObjectRules).test o = testJson true o := by
  simp only [test, consistent, Bool.and_false, Bool.not_false, Bool.true_or, Verdict.unless_true,
    testBound_none, testNames_nil, testNames_contains_nil, testProperties_false,
    Verdict.first_ok_cons, Verdict.first_cons_ok, Verdict.first_singleton]

theorem parse_canSerialize :
    parse .object "canSerialize".toList = some { rules := .object { canSerialize := true } } := by
  rw [parse_eq_build]
  rfl

theorem test_canSerialize_eq {σ : Type} (sampler : Sampler σ) (note badName : Option String)
    (o : Object Value) (s : σ) :
    (({ rules := .object { canSerialize := true }, note, badName } : Constraint).test sampler
      (.object o) s).verdict =
      match obstacle? (.object o) with
      | none => .ok ()
      | some cause => .error (.rule (.noJson cause)) := by
  rw [Constraint.test_eq, testRules, ← testJson_eq, ← ObjectRules.test_canSerialize]
  rfl

theorem message_noJson (cause : WriteError) : (Violation.rule (.noJson cause)).message =
    "canSerialize failed: object cannot be serialized: " ++ cause.message := by
  have hhead : "canSerialize failed: object cannot be serialized: " =
      "canSerialize" ++ " failed: " ++ "object cannot be serialized: " := by decide
  rw [hhead, String.append_assoc]
  rfl

/-- The cause of a failure shows the value that has no JSON text. -/
theorem Json.Unwritable.message_eq {w : Value} {cause : WriteError} (h : Unwritable w cause) :
    cause.message = (if ValueType.of w = .regex then "regex " else "non-finite number ") ++
      w.display ++ " has no structural form" := by
  cases h with
  | number h =>
    have hnumber : ValueType.number ≠ .regex := by decide
    rw [ValueType.of, if_neg hnumber, Value.display]
    unfold WriteError.message
    rfl
  | regex source =>
    have hopening : "regex /" = "regex " ++ "/" := by decide
    have hclosing : "/ has no structural form" = "/" ++ " has no structural form" := by decide
    rw [ValueType.of, if_pos rfl, Value.display]
    unfold WriteError.message
    rw [hopening, hclosing]
    simp only [String.append_assoc]

/-- **Exactly the objects without a part that has no JSON text can be serialized.**  A constraint
that asks for nothing but a JSON text, as the block `canSerialize` writes it, lets an object pass
iff no regular expression, no NaN and no infinite number occurs in it, at any depth of arrays and
objects.  Otherwise it blames the first of them in the order of items and properties, depth first,
and shows it in the message.  Objects that differ in names of classes and properties alone have the
same verdict. -/
theorem serializable_exact :
    parse .object "canSerialize".toList = some { rules := .object { canSerialize := true } } ∧
    (∀ {σ : Type} (sampler : Sampler σ) (note badName : Option String) (o : Object Value) (s : σ),
      let c : Constraint := { rules := .object { canSerialize := true }, note, badName }
      ((c.test sampler (.object o) s).verdict = .ok () ↔
        ∀ w cause, Value.Part w (.object o) → ¬ Unwritable w cause) ∧
      (∀ violation, (c.test sampler (.object o) s).verdict = .error violation ↔
        ∃ cause, FirstCause (.object o) cause ∧ violation = .rule (.noJson cause)) ∧
      ∀ o', Value.unlabeledObject o' = Value.unlabeledObject o →
        (c.test sampler (.object o') s).verdict = (c.test sampler (.object o) s).verdict) ∧
    ∀ w cause, Unwritable w cause → (Violation.rule (.noJson cause)).message =
      "canSerialize failed: object cannot be serialized: " ++
        ((if ValueType.of w = .regex then "regex " else "non-finite number ") ++ w.display ++
          " has no structural form") := by
  refine ⟨parse_canSerialize, fun sampler note badName o s => ?_, ?_⟩
  · simp only [test_canSerialize_eq]
    refine ⟨?_, fun violation => ?_, fun o' ho' => ?_⟩
    · rw [← obstacle?_eq_none_iff]
      cases obstacle? (.object o) <;> simp
    · simp only [← obstacle?_eq_some_iff]
      cases obstacle? (.object o) with
      | none => simp
      | some cause => simp [eq_comm]
    · have hvalue : (Value.object o').unlabeled = (Value.object o).unlabeled := by
        rw [Value.unlabeled, Value.unlabeled, ho']
      rw [← obstacle?_unlabeled, hvalue, obstacle?_unlabeled]
  · intro w cause h
    rw [message_noJson, h.message_eq]

/-- A regular expression inside a list comes before NaN and infinity, whatever the names are; an
object of a class with a list in it passes. -/
theorem serializable_exact_nested :
    let c : Constraint := { rules := .object { canSerialize := true } }
    let nan : Value := .number (0.0 / 0.0)
    let infinity : Value := .number (1.0 / 0.0)
    let named : Object Value :=
      ⟨"Path", [("y", .array [.number 1, .object ⟨"Step", [("z", .regex "a+")]⟩, nan]),
        ("x", infinity)]⟩
    let renamed : Object Value :=
      ⟨"", [("x", .array [.number 1, .object ⟨"Object", [("", .regex "a+")]⟩, nan]),
        ("y", infinity)]⟩
    let finite : Object Value := ⟨"Point", [("x", .array [.null, .string "NaN"])]⟩
    (∃ cause, FirstCause (.object named) cause ∧ Unwritable (.regex "a+") cause ∧
      (Violation.rule (.noJson cause)).message =
        "canSerialize failed: object cannot be serialized: regex /a+/ has no structural form") ∧
    (Value.unlabeledObject renamed = Value.unlabeledObject named ∧
      (c.test Sampler.scripted (.object renamed) []).verdict =
        (c.test Sampler.scripted (.object named) []).verdict) ∧
    (∀ w cause, Value.Part w (.object finite) → ¬ Unwritable w cause) ∧
      (c.test Sampler.scripted (.object finite) []).verdict = .ok () := by
  intro c nan infinity named renamed finite
  obtain ⟨-, hverdict, hmessage⟩ := serializable_exact
  obtain ⟨-, herror, hnames⟩ := hverdict Sampler.scripted none none named []
  obtain ⟨hok, -, -⟩ := hverdict Sampler.scripted none none finite []
  have hsame : Value.unlabeledObject renamed = Value.unlabeledObject named := rfl
  have hfails : (c.test Sampler.scripted (.object named) []).verdict =
      .error (.rule (.noJson (.regex "a+"))) := by
    with_unfolding_all rfl
  have hfinite : ∀ w cause, Value.Part w (.object finite) → ¬ Unwritable w cause := by
    intro w cause hpart hcause
    cases hcause <;> simp [finite] at hpart
  refine ⟨?_, ⟨hsame, hnames renamed hsame⟩, hfinite, hok.mpr hfinite⟩
  obtain ⟨cause, hfirst, hblamed⟩ := (herror _).mp hfails
  cases hblamed
  refine ⟨_, hfirst, .regex "a+", ?_⟩
  rw [hmessage _ _ (.regex "a+")]
  decide

end ShapeCheck
