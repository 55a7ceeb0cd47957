import ShapeCheck.Check.Outcome
import ShapeCheck.Constraint.Basic
import ShapeCheck.Pattern.Basic

/-!
# Rules of plain values

The tests of numbers, texts and objects, and those of arrays that do not look into elements. Each
test goes through its rules in a fixed order and reports the first that is broken.
-/

namespace ShapeCheck

/-- Tests the two sides of a rule (`check_pair`). If both are given they conflict. -/
def TwoSided.test {α : Type} (r : TwoSided α) (conflict : Conflict) (wanted unwanted : α → Verdict) :
    Verdict :=
  match r.wanted, r.unwanted with
  | some _, some _ => .error (.conflict conflict)
  | some x, none => wanted x
  | none, some x => unwanted x
  | none, none => .ok ()

/-- Tests a bound that may be given. -/
def testBound {α : Type} (bound : Option α) (test : α → Verdict) : Verdict :=
  match bound with
  | some limit => test limit
  | none => .ok ()

namespace NumberRules

/-- Tests a number (`number::test`). -/
def test (r : NumberRules) (x : Float) : Verdict :=
  Verdict.first
    [.unless (!r.integer || Decimal.isWholeFloat x) (.notInteger x),
     .unless (!r.notZero || x != 0.0) .zero,
     .unless (!(r.positive && r.negative)) (.conflict .sign),
     .unless (!r.positive || !(x ≤ 0.0 || x.isNaN)) (.notPositive x),
     .unless (!r.negative || !(x ≥ 0.0 || x.isNaN)) (.notNegative x),
     testBound r.min fun m => .unless (!(x < m)) (.numberRange .min x m),
     testBound r.max fun m => .unless (!(x > m)) (.numberRange .max x m),
     testBound r.maxExclusive fun m => .unless (!(x ≥ m)) (.numberRange .maxExclusive x m)]

end NumberRules

/-- Tests the length of a text or an array. -/
def testLength (minLength maxLength : Option Nat) (length : Nat) : Verdict :=
  Verdict.first
    [testBound minLength fun n => .unless (n ≤ length) (.lengthRange .min length n),
     testBound maxLength fun n => .unless (length ≤ n) (.lengthRange .max length n)]

namespace TextRelation

/-- Whether a text stands in a relation to another. -/
def decide (relation : TextRelation) (subject operand : String) : Bool :=
  match relation with
  | .startsWith => operand.toList.isPrefixOf subject.toList
  | .endsWith => operand.toList.isSuffixOf subject.toList
  | .contains => Text.occursIn operand.toList subject.toList

/-- Tests the two sides of a rule on a relation. -/
def test (relation : TextRelation) (r : TwoSided String) (subject : String) : Verdict :=
  r.test (.text relation)
    (fun operand =>
      .unless (relation.decide subject operand) (.rule (.text relation true subject operand)))
    (fun operand =>
      .unless (!relation.decide subject operand) (.rule (.text relation false subject operand)))

end TextRelation

/-- Tests whether a text matches a pattern as wanted; a pattern that is not valid is reported
(`compile`). -/
def testPattern (source subject : String) (wanted : Bool) (violation : Violation) : Verdict :=
  match Pattern.test? source subject with
  | some found => .unless (found == wanted) violation
  | none => .error (.rule (.invalidPattern source))

namespace StringRules

/-- Tests a text (`string::test`). -/
def test (r : StringRules) (subject : String) : Verdict :=
  Verdict.first
    [testLength r.minLength r.maxLength subject.length,
     TextRelation.startsWith.test r.startsWith subject,
     TextRelation.endsWith.test r.endsWith subject,
     TextRelation.contains.test r.contains subject,
     r.pattern.test .pattern
      (fun source => testPattern source subject true (.rule (.noMatch subject source)))
      (fun source => testPattern source subject false (.rule (.unwantedMatch subject source)))]

end StringRules

/-- Whether a value is an object. -/
def Value.isObject : Value → Bool
  | .object _ => true
  | _ => false

/-- Reports the first property that a test finds bad. -/
def testProperties (enabled : Bool) (o : Object Value) (bad : Value → Bool)
    (report : String → Value → BrokenRule) : Verdict :=
  if enabled then
    match o.properties.find? fun (_, value) => bad value with
    | some (name, value) => .error (.rule (report name value))
    | none => .ok ()
  else .ok ()

/-- Reports the first name that a test finds bad. -/
def testNames (names : List String) (bad : String → Bool) (report : String → Violation) : Verdict :=
  match names.find? bad with
  | some name => .error (report name)
  | none => .ok ()

/-- Tests whether an object has a JSON text. -/
def testJson (enabled : Bool) (o : Object Value) : Verdict :=
  if enabled then
    match Json.writeObject o with
    | .ok _ => .ok ()
    | .error cause => .error (.rule (.noJson cause))
  else .ok ()

namespace ObjectRules

/-- The tests that need no object: whether rules contradict each other. -/
def consistent (r : ObjectRules) : Verdict :=
  Verdict.first
    [.unless (!(r.empty && r.notEmpty)) (.conflict .emptiness),
     testNames r.required r.forbidden.contains fun name => .conflict (.property name)]

/-- Tests an object (`object::test`). -/
def test (r : ObjectRules) (o : Object Value) : Verdict :=
  Verdict.first
    [r.consistent,
     .unless (!r.empty || o.isEmpty) (.rule (.notEmpty o.size)),
     .unless (!r.notEmpty || !o.isEmpty) (.rule .empty),
     testNames r.required (fun name => !o.contains name) fun name =>
      .rule (.missingProperty name),
     testNames r.forbidden o.contains fun name => .rule (.unwantedProperty name),
     testProperties r.notNested o Value.isObject fun name _ => .nested name,
     .unless (!r.noPrototype || o.className == plainClass) (.rule (.derived o.className)),
     testJson r.canSerialize o,
     testProperties r.noFalseyProps o (fun value => !value.isTruthy) .falseyProperty,
     testProperties r.noTruthyProps o Value.isTruthy .truthyProperty,
     testBound r.instanceOf.wanted fun name =>
      .unless (o.className == name) (.rule (.otherClass o.className name)),
     testBound r.instanceOf.unwanted fun name =>
      .unless (o.className != name) (.rule (.unwantedClass name))]

end ObjectRules

namespace ArrayRules

/-- Tests the length of an array and what it contains (`array::test`). -/
def testOwn {α : Type} (r : ArrayRules α) (items : List Value) : Verdict :=
  Verdict.first
    [testLength r.minLength r.maxLength items.length,
     r.contains.test .items
      (fun item => .unless (items.contains item) (.rule (.missingItem item)))
      (fun item => .unless (!items.contains item) (.rule (.unwantedItem item)))]

end ArrayRules

end ShapeCheck
