import ShapeCheck.Check.Checker
import ShapeCheck.Proofs.EveryDepth
import ShapeCheck.Proofs.Traversal

/-!
# What depends on a sampler

Two checks of one value with two samplers are compared.  Their outcomes agree as long as each
request is answered alike, and no request is made where no mode is random.

* `agree_selectIndices`, `agree_checkPlaces`, `agree_test` — from related states of the samplers a
  selection, a run and a test agree, and the states stay related;
* `agree_recorded`, `agree_lazily` — keeping a record of the requests, or making the state of a
  sampler only when it is asked, changes no check;
* `Constraint.Drawless.agree` — where no mode at any depth is random, any two samplers agree, and
  each is left in the state that it had;
* `draws_only_where_random` — what follows for checks of texts.
-/

set_option autoImplicit false

namespace ShapeCheck

open Sampling

variable {σ τ : Type}

/-! ## Samplers and outcomes that agree -/

/-- From states in a relation two samplers give the same answer and go on in related states. -/
def Sampler.AnswerAlike (R : σ → τ → Prop) (sampler : Sampler σ) (other : Sampler τ) : Prop :=
  ∀ length amount s u, R s u →
    (sampler.draw length amount s).1 = (other.draw length amount u).1 ∧
      R (sampler.draw length amount s).2 (other.draw length amount u).2

/-- Two outcomes with the same verdict and the same events, and with states in a relation. -/
structure Outcome.Agree (R : σ → τ → Prop) (o : Outcome σ) (p : Outcome τ) : Prop where
  verdict : o.verdict = p.verdict
  events : o.events = p.events
  state : R o.state p.state

namespace Outcome.Agree

variable {R : σ → τ → Prop} {s : σ} {u : τ} {o : Outcome σ} {p : Outcome τ}

theorem of (hs : R s u) (verdict : Verdict) : Agree R (.of verdict s) (.of verdict u) :=
  ⟨rfl, rfl, hs⟩

theorem after (h : Agree R o p) (events : List Log.Event) :
    Agree R (o.after events) (p.after events) :=
  ⟨h.verdict, congrArg (events ++ ·) h.events, h.state⟩

theorem andThen (h : Agree R o p) (i : Nat) {rest : σ → Outcome σ} {rest' : τ → Outcome τ}
    (hrest : ∀ s u, R s u → Agree R (rest s) (rest' u)) :
    Agree R (o.andThen i rest) (p.andThen i rest') := by
  unfold Outcome.andThen
  rw [← h.verdict, ← h.events]
  cases o.verdict with
  | ok _ => exact (hrest _ _ h.state).after o.events
  | error violation => exact ⟨rfl, rfl, h.state⟩

end Outcome.Agree

/-! ## Rules that ask no sampler -/

/-- Whether rules ask no sampler themselves: a mode that they have is not random. -/
def Rules.isDrawless {α : Type} : Rules α → Bool
  | .array r => !r.mode.any Mode.isRandom
  | _ => true

/-- No mode of a constraint is random, at any depth. -/
def Constraint.Drawless (c : Constraint) : Prop :=
  c.EveryDepth (fun _ r => r.isDrawless = true) c.valueType

section

variable {R : σ → τ → Prop} {sampler : Sampler σ} {other : Sampler τ} {s : σ} {u : τ}

/-- Selections agree: either nothing is asked, or the one request is answered alike. -/
theorem agree_selectIndices {mode : Mode}
    (h : mode.isRandom = false ∨ sampler.AnswerAlike R other) (length : Nat)
    (first second : Option String) (hs : R s u) :
    (selectIndices sampler length mode first second s).1 =
        (selectIndices other length mode first second u).1 ∧
      R (selectIndices sampler length mode first second s).2
        (selectIndices other length mode first second u).2 := by
  cases mode with
  | random =>
    have hdraw := h.resolve_left nofun length (parameter first) s u hs
    exact ⟨pick_congr fun _ _ => by rw [hdraw.1], hdraw.2⟩
  | firstThenRandom =>
    have hdraw := h.resolve_left nofun (length - min (parameter first) length) (parameter second)
      s u hs
    refine ⟨?_, hdraw.2⟩
    exact congrArg (List.range _ ++ List.map _ ·) (pick_congr fun _ _ => by rw [hdraw.1])
  | _ => exact ⟨rfl, hs⟩

theorem agree_checkPlaces {elements : ByType Constraint}
    (h : ∀ t c, elements.get? t = some c → ∀ v s u, R s u →
      Outcome.Agree R (c.test sampler v s) (c.test other v u))
    (items : List Value) (places : List Nat) (hs : R s u) :
    Outcome.Agree R (checkPlaces sampler elements items places s)
      (checkPlaces other elements items places u) := by
  induction places generalizing s u with
  | nil => exact .of hs (.ok ())
  | cons i places ih =>
    rw [checkPlaces_cons, checkPlaces_cons]
    cases he : entryAt? elements items i with
    | none => exact ih hs
    | some entry =>
      obtain ⟨c, item⟩ := entry
      have htest := h _ c (entryAt?_eq_some.mp he).2 item s u hs
      exact htest.andThen i fun _ _ => ih

theorem agree_traverse {elements : ByType Constraint} {mode : Mode}
    (hmode : mode.isRandom = false ∨ sampler.AnswerAlike R other)
    (h : ∀ t c, elements.get? t = some c → ∀ v s u, R s u →
      Outcome.Agree R (c.test sampler v s) (c.test other v u))
    (items : List Value) (first second : Option String) (hs : R s u) :
    Outcome.Agree R (traverse sampler (testElement sampler elements) items mode first second s)
      (traverse other (testElement other elements) items mode first second u) := by
  obtain ⟨hplaces, hstate⟩ := agree_selectIndices hmode items.length first second hs
  rw [traverse_eq, traverse_eq, ← hplaces]
  exact (agree_checkPlaces h items _ hstate).after _

theorem agree_testArray {r : ArrayRules Constraint}
    (hmode : (Rules.array r).isDrawless = true ∨ sampler.AnswerAlike R other)
    (h : ∀ t c, r.elements.get? t = some c → ∀ v s u, R s u →
      Outcome.Agree R (c.test sampler v s) (c.test other v u))
    (items : List Value) (hs : R s u) :
    Outcome.Agree R (testArray sampler r items s) (testArray other r items u) := by
  obtain ⟨minLength, maxLength, contains, elements, mode, first, second⟩ := r
  have hall : (mode.getD .all).isRandom = false ∨ sampler.AnswerAlike R other := by
    refine hmode.imp_left fun hfixed => ?_
    cases mode with
    | none => rfl
    | some m => simpa [Rules.isDrawless] using hfixed
  rw [testArray, testArray]
  split
  · exact .of hs _
  · split
    · exact agree_traverse hall h items first second hs
    · exact .of hs _

/-- **From related states of the samplers the tests of a value agree**, as long as at every depth
the mode is not random or the samplers answer alike.  The induction is on the depth of the
constraint; the relation is what passes from a selection to the elements and between elements. -/
theorem agree_test {t : ValueType} {c : Constraint}
    (h : c.EveryDepth (fun _ r => r.isDrawless = true ∨ sampler.AnswerAlike R other) t) (v : Value)
    (hs : R s u) : Outcome.Agree R (c.test sampler v s) (c.test other v u) := by
  induction h generalizing v s u with
  | @intro t c here _ ih =>
    obtain ⟨rules, note, badName⟩ := c
    rw [Constraint.test, Constraint.test]
    cases rules with
    | boolean | regex => exact .of hs _
    | number r | string r | object r => cases v <;> exact .of hs _
    | array r =>
      cases v with
      | array items =>
        exact agree_testArray here (fun t d hd v s u hs => ih t d hd v hs) items hs
      | _ => exact .of hs _

theorem Sampler.AnswerAlike.agree (h : sampler.AnswerAlike R other) (c : Constraint) (v : Value)
    (hs : R s u) : Outcome.Agree R (c.test sampler v s) (c.test other v u) :=
  agree_test (everyDepth_of_forall (fun _ _ => Or.inr h) c.valueType c) v hs

theorem agree_checkText {v : Value} {t : ValueType} {text : String} (hs : R s u)
    (h : ∀ c, parse t text.toList = some c →
      Outcome.Agree R (c.test sampler v s) (c.test other v u)) :
    Outcome.Agree R (checkText sampler v t text s) (checkText other v t text u) := by
  unfold checkText
  cases hc : parse t text.toList with
  | none => exact .of hs (.ok ())
  | some c =>
    have htest := h c hc
    refine ⟨htest.verdict, ?_, htest.state⟩
    simp only [htest.verdict, htest.events]

end

/-! ## Records of requests, and generators made late -/

theorem Sampler.answerAlike_recorded (sampler : Sampler σ) :
    sampler.recorded.AnswerAlike (fun x s => x.1 = s) sampler := by
  rintro length amount ⟨s, requests⟩ _ rfl
  exact ⟨rfl, rfl⟩

theorem Sampler.answerAlike_lazily (sampler : Sampler σ) (fresh : σ) :
    (sampler.lazily fresh).AnswerAlike (fun x s => x.getD fresh = s) sampler := by
  rintro length amount x _ rfl
  exact ⟨rfl, rfl⟩

/-- A recorded test has the outcome of the test itself, so that its record tells what that test
asked for. -/
theorem agree_recorded (sampler : Sampler σ) (c : Constraint) (v : Value) (s : σ)
    (requests : List (Nat × Nat)) :
    Outcome.Agree (fun x s => x.1 = s) (c.test sampler.recorded v (s, requests))
      (c.test sampler v s) :=
  sampler.answerAlike_recorded.agree c v rfl

/-- A checker may as well make its generator when it is asked for the first time. -/
theorem Checker.agree_lazily (k : Checker) (v : Value) (t : ValueType) (text : String) :
    Outcome.Agree (fun x g => x.getD k.generator = g)
      (checkText (seeded.lazily k.generator) v t text none)
      (checkText seeded v t text k.generator) :=
  agree_checkText rfl fun c _ => (seeded.answerAlike_lazily k.generator).agree c v rfl

/-! ## Constraints without a random mode -/

/-- **Where no mode is random, nothing is asked**: under any two samplers the tests agree, and each
sampler is left in the state that it had. -/
theorem Constraint.Drawless.agree {c : Constraint} (h : c.Drawless) (sampler : Sampler σ)
    (other : Sampler τ) (v : Value) (s : σ) (u : τ) :
    Outcome.Agree (fun s' u' => s' = s ∧ u' = u) (c.test sampler v s) (c.test other v u) :=
  agree_test (h.mono fun _ _ => Or.inl) v ⟨rfl, rfl⟩

/-- **Checks depend on a sampler only where a mode is random.**  A constraint without a random mode
at any depth makes no request of a sampler, and tests a value alike under every sampler from every
state.  A text that writes such a constraint for a value is checked alike by every checker, seeded
or not, and under every sampler, and a generator that is made late is never made. -/
theorem draws_only_where_random :
    (∀ c : Constraint, c.Drawless → ∀ v : Value,
      (∀ {σ : Type} (sampler : Sampler σ) (s : σ) (requests : List (Nat × Nat)),
        (c.test sampler.recorded v (s, requests)).state = (s, requests)) ∧
      ∀ {σ τ : Type} (sampler : Sampler σ) (other : Sampler τ) (s : σ) (u : τ),
        (c.test sampler v s).verdict = (c.test other v u).verdict ∧
          (c.test sampler v s).events = (c.test other v u).events) ∧
    ∀ (v : Value) (text : String), (∀ c, parse (.of v) text.toList = some c → c.Drawless) →
      (∀ k k' : Checker, k.check v text = k'.check v text) ∧
      (∀ (k : Checker) {σ : Type} (sampler : Sampler σ) (s : σ),
        (checkWith sampler v text s).verdict = k.check v text) ∧
      ∀ fresh : Generator, (checkWith (seeded.lazily fresh) v text none).state = none := by
  constructor
  · intro c hc v
    constructor
    · intro σ sampler s requests
      exact (hc.agree sampler.recorded sampler v (s, requests) s).state.1
    · intro σ τ sampler other s u
      have hagree := hc.agree sampler other v s u
      exact ⟨hagree.verdict, hagree.events⟩
  · intro v text hdrawless
    have hagree : ∀ {σ τ : Type} (sampler : Sampler σ) (other : Sampler τ) (s : σ) (u : τ),
        Outcome.Agree (fun s' u' => s' = s ∧ u' = u) (checkWith sampler v text s)
          (checkWith other v text u) := by
      intro σ τ sampler other s u
      exact agree_checkText ⟨rfl, rfl⟩ fun c hc => (hdrawless c hc).agree sampler other v s u
    refine ⟨fun k k' => ?_, fun k σ sampler s => ?_, fun fresh => ?_⟩
    · exact (hagree seeded seeded k.generator k'.generator).verdict
    · exact (hagree sampler seeded s k.generator).verdict
    · exact (hagree (seeded.lazily fresh) seeded none fresh).state.1

/-- A text with a mode on two levels, neither of them random. -/
def steppedText : String :=
  "each(array,each(number,positive),checkType=step(2)),checkType=firstThenLast(1,1)"

/-- The constraint that this text writes for arrays. -/
def steppedConstraint : Constraint where
  rules := .array
    { elements :=
        { array := some ⟨.array
            { elements := { number := some ⟨.number { positive := true }, none, none⟩ }
              mode := some .step
              first := some "2" }, none, none⟩ }
      mode := some .firstThenLast
      first := some "1"
      second := some "1" }

set_option maxRecDepth 10000 in
theorem draws_only_where_random_stepped :
    let rows := Value.array [.array [.number 1, .number (-1)], .array [.number (-2)]]
    parse (.of rows) steppedText.toList = some steppedConstraint ∧ steppedConstraint.Drawless ∧
      (∀ g : Generator, (steppedConstraint.test seeded.recorded rows (g, [])).state = (g, [])) ∧
      ({ seed := some 7 } : Checker).check rows steppedText =
        (checkWith Sampler.scripted rows steppedText [[1], [0]]).verdict ∧
      (checkWith (seeded.lazily (.ofSeed 7)) rows steppedText none).state = none := by
  intro rows
  have hparse : parse (.of rows) steppedText.toList = some steppedConstraint := by
    with_unfolding_all rfl
  have hdrawless : steppedConstraint.Drawless := by
    refine .of_toList rfl (List.forall_mem_singleton.mpr ?_)
    refine .of_toList rfl (List.forall_mem_singleton.mpr ?_)
    exact .of_toList rfl nofun
  obtain ⟨hconstraint, htext⟩ := draws_only_where_random
  obtain ⟨-, hcheck, hlate⟩ := htext rows steppedText fun c hc => by
    obtain rfl : steppedConstraint = c := Option.some.inj (hparse.symm.trans hc)
    exact hdrawless
  refine ⟨hparse, hdrawless, fun g => ?_, ?_, hlate (.ofSeed 7)⟩
  · exact (hconstraint steppedConstraint hdrawless rows).1 seeded g []
  · exact (hcheck { seed := some 7 } Sampler.scripted [[1], [0]]).symm

end ShapeCheck
