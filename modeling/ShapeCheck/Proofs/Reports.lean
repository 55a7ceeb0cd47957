import ShapeCheck.Command.Response
import ShapeCheck.Proofs.Draws

/-!
# Reports

A report on a list of values says of each value what a check of that value alone says.

* `Checker.Settled.verdict_eq` — a check with a seed, or against a constraint without a random mode,
  has one verdict;
* `Violation.message_ne_empty` — every violation has a message, so that an empty one can stand for
  success;
* `mem_failuresFrom`, `pairwise_failuresFrom`, `failuresFrom_append` — the failures of a list of
  values, their places, and the failures of two lists;
* `Report.Lists` — what it means that a report lists the verdicts of values;
* `values_eq_ok_iff`, `exitCode_response` — which values a request is about, and its exit codes;
* `report_exact` — what follows for reports and for the exit codes of requests.
-/

set_option autoImplicit false

namespace ShapeCheck

open Sampling

/-! ## Verdicts on single values -/

/-- The type as which a value is checked: the declared one, or else its own. -/
def boundType (declared : Option String) (v : Value) : ValueType :=
  match declared with
  | some name => .ofName name.toList
  | none => .of v

namespace Checker

/-- The verdict on a value alone: as one of a declared type, or else of its own. -/
def verdict (k : Checker) (declared : Option String) (text : String) (v : Value) : Verdict :=
  match declared with
  | some name => k.checkAs v name text
  | none => k.check v text

theorem verdict_run (k : Checker) (declared : Option String) (text : String) (v : Value) :
    (k.run v declared text).verdict = k.verdict declared text v := by
  cases declared <;> rfl

/-- The verdict on a value rests on nothing but the seed: there is one, or no mode of the constraint
is random. -/
def Settled (k : Checker) (declared : Option String) (text : String) (v : Value) : Prop :=
  k.seed.isSome = true ∨
    ∀ c, parse (boundType declared v) text.toList = some c → c.Drawless

/-- **A settled check has the same verdict whatever stands in for a seed that is missing.** -/
theorem Settled.verdict_eq {k k' : Checker} {declared : Option String} {text : String} {v : Value}
    (h : k.Settled declared text v) (hseed : k'.seed = k.seed) :
    k'.verdict declared text v = k.verdict declared text v := by
  have hrun : ∀ k : Checker, k.run v declared text =
      checkText seeded v (boundType declared v) text k.generator := fun k => by
    cases declared <;> rfl
  rw [← verdict_run, ← verdict_run, hrun, hrun]
  rcases h with hsome | hdrawless
  · obtain ⟨seed, hk⟩ := Option.isSome_iff_exists.mp hsome
    have hgenerator : k'.generator = k.generator := by
      rw [generator, generator, hseed, hk]
      rfl
    rw [hgenerator]
  · have hagree : Outcome.Agree (fun s u => s = k'.generator ∧ u = k.generator)
        (checkText seeded v (boundType declared v) text k'.generator)
        (checkText seeded v (boundType declared v) text k.generator) :=
      agree_checkText ⟨rfl, rfl⟩ fun c hc => (hdrawless c hc).agree seeded seeded v _ _
    exact hagree.verdict

end Checker

/-! ## Messages -/

theorem append_ne_empty_left {s t : String} (h : s ≠ "") : s ++ t ≠ "" := fun hst =>
  h (String.append_eq_empty_iff.mp hst).1

theorem append_ne_empty_right {s t : String} (h : t ≠ "") : s ++ t ≠ "" := fun hst =>
  h (String.append_eq_empty_iff.mp hst).2

/-- **No violation has an empty message**: the wording of each has words of its own. -/
theorem Violation.message_ne_empty (violation : Violation) : violation.message ≠ "" := by
  cases violation with
  | basicType expected actual =>
    exact append_ne_empty_left (append_ne_empty_right (by decide : " but found " ≠ ""))
  | rule r => exact append_ne_empty_left (append_ne_empty_right (by decide : " failed: " ≠ ""))
  | zero => exact (by decide : "zero is not allowed" ≠ "")
  | _ => exact append_ne_empty_right (by decide)

/-- A check is shown as an empty message exactly if it passes. -/
theorem Checker.validate_eq_empty_iff {k : Checker} {v : Value} {text : String} :
    k.validate v text = "" ↔ k.check v text = .ok () := by
  rw [validate]
  cases k.check v text with
  | ok _ => exact ⟨fun _ => rfl, fun _ => rfl⟩
  | error violation =>
    exact ⟨fun h => absurd h violation.message_ne_empty, nofun⟩

/-! ## Failures of a list -/

/-- A failure in a list that stands behind so many other values. -/
def Failure.shift (n : Nat) (f : Failure) : Failure := { f with index := n + f.index }

section

variable {k k' : Checker} {declared : Option String} {text : String}

theorem failure?_eq_some_iff {i : Nat} {v : Value} {f : Failure} :
    k.failure? declared text i v = some f ↔
      f.index = i ∧ k.verdict declared text v = .error f.violation := by
  obtain ⟨j, blamed⟩ := f
  rw [Checker.failure?, Checker.verdict_run]
  cases k.verdict declared text v with
  | ok _ => exact ⟨nofun, fun h => nomatch h.2⟩
  | error violation => simp [eq_comm]

theorem mem_failuresFrom {f : Failure} : ∀ {values : List Value} {start : Nat},
    f ∈ k.failuresFrom declared text start values ↔
      ∃ i v, values[i]? = some v ∧ f.index = start + i ∧
        k.verdict declared text v = .error f.violation
  | [], _ => by simp [Checker.failuresFrom]
  | v :: values, start => by
    rw [Checker.failuresFrom, List.mem_append, Option.mem_toList, failure?_eq_some_iff,
      mem_failuresFrom]
    constructor
    · rintro (⟨hindex, hfails⟩ | ⟨i, w, hw, hindex, hfails⟩)
      · exact ⟨0, v, rfl, hindex, hfails⟩
      · exact ⟨i + 1, w, hw, by omega, hfails⟩
    · rintro ⟨i, w, hw, hindex, hfails⟩
      cases i with
      | zero =>
        cases hw
        exact Or.inl ⟨hindex, hfails⟩
      | succ i => exact Or.inr ⟨i, w, hw, by omega, hfails⟩

theorem pairwise_failuresFrom : ∀ (values : List Value) (start : Nat),
    ((k.failuresFrom declared text start values).map (·.index)).Pairwise (· < ·)
  | [], _ => .nil
  | v :: values, start => by
    rw [Checker.failuresFrom, List.map_append, List.pairwise_append]
    refine ⟨?_, pairwise_failuresFrom values (start + 1), fun i hi j hj => ?_⟩
    · cases k.failure? declared text start v with
      | none => exact .nil
      | some f => exact List.pairwise_singleton _ _
    · obtain ⟨f, hf, rfl⟩ := List.mem_map.mp hi
      obtain ⟨g, hg, rfl⟩ := List.mem_map.mp hj
      have hfirst : f.index = start := (failure?_eq_some_iff.mp (Option.mem_toList.mp hf)).1
      obtain ⟨i, -, -, hindex, -⟩ := mem_failuresFrom.mp hg
      omega

theorem failuresFrom_congr : ∀ {values : List Value} (start : Nat),
    (∀ v ∈ values, k.verdict declared text v = k'.verdict declared text v) →
    k.failuresFrom declared text start values = k'.failuresFrom declared text start values
  | [], _, _ => rfl
  | v :: values, start, h => by
    rw [Checker.failuresFrom, Checker.failuresFrom, Checker.failure?, Checker.failure?,
      Checker.verdict_run, Checker.verdict_run, h v List.mem_cons_self,
      failuresFrom_congr _ fun w hw => h w (List.mem_cons_of_mem v hw)]

theorem failuresFrom_add (n : Nat) : ∀ (values : List Value) (start : Nat),
    k.failuresFrom declared text (n + start) values =
      (k.failuresFrom declared text start values).map (Failure.shift n)
  | [], _ => rfl
  | v :: values, start => by
    have hfailure : k.failure? declared text (n + start) v =
        (k.failure? declared text start v).map (Failure.shift n) := by
      rw [Checker.failure?, Checker.failure?]
      split <;> rfl
    rw [Checker.failuresFrom, Checker.failuresFrom, hfailure, Nat.add_assoc,
      failuresFrom_add n values, List.map_append, Option.toList_map]

theorem failuresFrom_append (ys : List Value) : ∀ (xs : List Value) (start : Nat),
    k.failuresFrom declared text start (xs ++ ys) =
      k.failuresFrom declared text start xs ++
        k.failuresFrom declared text (start + xs.length) ys
  | [], _ => rfl
  | v :: xs, start => by
    rw [List.cons_append, Checker.failuresFrom, failuresFrom_append ys xs, Checker.failuresFrom,
      List.append_assoc, List.length_cons, Nat.add_assoc, Nat.add_comm 1 xs.length]

end

/-! ## Reports -/

namespace Report

/-- A report lists the verdicts of values: it counts the values, and its failures are those of the
values that fail, each at its place, in order. -/
structure Lists (r : Report) (values : List Value) (verdict : Value → Verdict) : Prop where
  checkedCount : r.checkedCount = values.length
  ascending : (r.failures.map (·.index)).Pairwise (· < ·)
  mem_failures : ∀ i violation, ⟨i, violation⟩ ∈ r.failures ↔
    ∃ v, values[i]? = some v ∧ verdict v = .error violation

/-- A report followed by one on further values. -/
def followedBy (r next : Report) : Report :=
  { r with
    checkedCount := r.checkedCount + next.checkedCount
    failures := r.failures ++ next.failures.map (Failure.shift r.checkedCount) }

theorem exists_error_iff {values : List Value} {verdict : Value → Verdict} :
    (∃ v ∈ values, ∃ violation, verdict v = .error violation) ↔
      ¬ ∀ v ∈ values, verdict v = .ok () := by
  have hone : ∀ v, (∃ violation, verdict v = .error violation) ↔ ¬ verdict v = .ok () := fun v => by
    cases verdict v with
    | ok _ => exact ⟨nofun, fun h => absurd rfl h⟩
    | error violation => exact ⟨fun _ => nofun, fun _ => ⟨violation, rfl⟩⟩
  simp only [hone, not_forall, exists_prop]

theorem Lists.matched_iff {r : Report} {values : List Value} {verdict : Value → Verdict}
    (h : r.Lists values verdict) : r.matched = true ↔ ∀ v ∈ values, verdict v = .ok () := by
  rw [matched, List.isEmpty_iff, List.eq_nil_iff_forall_not_mem]
  constructor
  · intro hnone v hv
    obtain ⟨i, hi⟩ := List.mem_iff_getElem?.mp hv
    cases hfails : verdict v with
    | ok _ => rfl
    | error violation =>
      exact absurd ((h.mem_failures i violation).mpr ⟨v, hi, hfails⟩) (hnone _)
  · rintro hpass ⟨i, violation⟩ hf
    obtain ⟨v, hv, hfails⟩ := (h.mem_failures i violation).mp hf
    rw [hpass v (List.mem_of_getElem? hv)] at hfails
    cases hfails

end Report

section

variable {k k' : Checker} {values : List Value} {declared : Option String} {text : String}

/-- **A report lists the verdicts on the single values**, by any checker of the same seed. -/
theorem lists_report (label : Option String) (h : ∀ v ∈ values, k.Settled declared text v)
    (hseed : k'.seed = k.seed) :
    (k.report values text declared label).Lists values (k'.verdict declared text) where
  checkedCount := rfl
  ascending := pairwise_failuresFrom values 0
  mem_failures i violation := by
    show _ ∈ k.failuresFrom declared text 0 values ↔ _
    rw [mem_failuresFrom]
    constructor
    · rintro ⟨j, v, hv, hindex, hfails⟩
      obtain rfl : i = j := hindex.trans (Nat.zero_add j)
      exact ⟨v, hv, ((h v (List.mem_of_getElem? hv)).verdict_eq hseed).trans hfails⟩
    · rintro ⟨v, hv, hfails⟩
      have hsame := (h v (List.mem_of_getElem? hv)).verdict_eq hseed
      exact ⟨i, v, hv, (Nat.zero_add i).symm, hsame.symm.trans hfails⟩

/-- **The report on two lists is that on the first followed by that on the second**, each by any
checker of the same seed. -/
theorem report_append {xs ys : List Value} (label : Option String) {k₁ k₂ : Checker}
    (h : ∀ v ∈ xs ++ ys, k.Settled declared text v) (h₁ : k₁.seed = k.seed)
    (h₂ : k₂.seed = k.seed) :
    k.report (xs ++ ys) text declared label =
      (k₁.report xs text declared label).followedBy (k₂.report ys text declared label) := by
  have hxs : k.failuresFrom declared text 0 xs = k₁.failuresFrom declared text 0 xs :=
    failuresFrom_congr 0 fun v hv => ((h v (List.mem_append_left ys hv)).verdict_eq h₁).symm
  have hys : k.failuresFrom declared text (0 + xs.length) ys =
      (k₂.failuresFrom declared text 0 ys).map (Failure.shift xs.length) := by
    rw [Nat.zero_add, ← failuresFrom_add, Nat.add_zero]
    exact failuresFrom_congr _ fun v hv =>
      ((h v (List.mem_append_right xs hv)).verdict_eq h₂).symm
  rw [Checker.report, failuresFrom_append, hxs, hys, List.length_append, ← h₁]
  rfl

end

/-! ## Requests -/

namespace Command.CheckRequest

open Input

/-- The input of a request is decoded to values: the format is known, the bytes are there, and they
read as these values. -/
def Decodes (q : CheckRequest) (supply : Supply) (values : List Value) : Prop :=
  ∃ format content, Format.resolve q.format q.path = .ok format ∧ supply = .bytes content ∧
    readValues format content = .ok values

theorem values_eq_ok_iff {q : CheckRequest} {supply : Supply} {values : List Value} :
    q.values supply = .ok values ↔ q.Decodes supply values := by
  unfold CheckRequest.values Decodes
  cases Format.resolve q.format q.path with
  | error e => exact ⟨nofun, nofun⟩
  | ok format =>
    cases supply with
    | bytes content =>
      cases hread : readValues format content <;> simp [Except.mapError, hread]
    | unopened reason => exact ⟨nofun, nofun⟩
    | unreadable reason => exact ⟨nofun, nofun⟩

/-- The exit code tells whether the input was decoded and whether all values match. -/
theorem exitCode_response (q : CheckRequest) (supply : Supply) :
    (∃ values, q.Decodes supply values ∧
        (q.response supply).exitCode =
          if (q.checker.report values q.constraint q.declared q.label).matched then 0 else 2) ∨
      (¬ ∃ values, q.Decodes supply values) ∧ (q.response supply).exitCode = 3 := by
  rw [response]
  cases hvalues : q.values supply with
  | ok values => exact Or.inl ⟨values, values_eq_ok_iff.mp hvalues, rfl⟩
  | error message =>
    refine Or.inr ⟨fun ⟨values, hdecodes⟩ => ?_, rfl⟩
    rw [values_eq_ok_iff.mpr hdecodes] at hvalues
    cases hvalues

/-- An input is decoded to one list of values. -/
theorem Decodes.unique {q : CheckRequest} {supply : Supply} {values values' : List Value}
    (h : q.Decodes supply values) (h' : q.Decodes supply values') : values = values' :=
  Except.ok.inj ((values_eq_ok_iff.mpr h).symm.trans (values_eq_ok_iff.mpr h'))

end Command.CheckRequest

open Command Json in
/-- **A report is the verdicts on the single values, in order and each by itself.**  Let there be a
seed, or no random mode in what the text writes.  Then the report counts the values and lists at its
place each value that fails alone, with the kind and the message of that violation, which is what
validating the value alone shows; it matches if no value fails; and the report on two lists is that
on the first followed by that on the second, whatever stood in for a missing seed each time.  A
request exits with zero if its input decodes and all values pass, with two if one fails, with three
if the input does not decode, and with nothing else. -/
theorem report_exact :
    (∀ (k : Checker) (values : List Value) (text : String) (declared label : Option String),
      (∀ v ∈ values, k.Settled declared text v) →
      let r := k.report values text declared label
      r.label = label ∧ r.seed = k.seed ∧ r.failureCount = r.failures.length ∧
      (∀ k' : Checker, k'.seed = k.seed →
        r.Lists values (k'.verdict declared text) ∧
        (r.matched = true ↔ ∀ v ∈ values, k'.verdict declared text v = .ok ()) ∧
        (declared = none → ∀ i v, values[i]? = some v → ∀ message : String,
          (∃ f ∈ r.failures, f.index = i ∧ f.violation.message = message) ↔
            k'.validate v text = message ∧ message ≠ "")) ∧
      (∀ f ∈ r.failures, f.violation.message ≠ "" ∧
        failureOutput f = .record
          [("path", .text ("$[" ++ toString f.index ++ "]")), ("kind", .text f.violation.kind),
           ("message", .text f.violation.message)]) ∧
      ∀ xs ys, values = xs ++ ys → ∀ k₁ k₂ : Checker, k₁.seed = k.seed → k₂.seed = k.seed →
        r = (k₁.report xs text declared label).followedBy (k₂.report ys text declared label)) ∧
    ∀ (q : CheckRequest) (supply : Supply),
      (∀ values, q.Decodes supply values →
        ∀ v ∈ values, q.checker.Settled q.declared q.constraint v) →
      let code := (q.response supply).exitCode
      (∀ k' : Checker, k'.seed = q.seed →
        (code = 0 ↔ ∃ values, q.Decodes supply values ∧
          ∀ v ∈ values, k'.verdict q.declared q.constraint v = .ok ()) ∧
        (code = 2 ↔ ∃ values, q.Decodes supply values ∧
          ∃ v ∈ values, ∃ violation, k'.verdict q.declared q.constraint v = .error violation)) ∧
      (code = 3 ↔ ¬ ∃ values, q.Decodes supply values) ∧ code ≠ 1 := by
  constructor
  · intro k values text declared label hsettled r
    refine ⟨rfl, rfl, rfl, fun k' hseed => ?_, fun f _ => ⟨f.violation.message_ne_empty, rfl⟩, ?_⟩
    · have hlists : r.Lists values (k'.verdict declared text) := lists_report label hsettled hseed
      refine ⟨hlists, hlists.matched_iff, ?_⟩
      rintro rfl i v hv message
      constructor
      · rintro ⟨⟨j, violation⟩, hf, hindex, rfl⟩
        obtain rfl : j = i := hindex
        obtain ⟨w, hw, hfails⟩ := (hlists.mem_failures j violation).mp hf
        obtain rfl : w = v := Option.some.inj (hw.symm.trans hv)
        have hcheck : k'.check w text = .error violation := hfails
        exact ⟨by rw [Checker.validate, hcheck], violation.message_ne_empty⟩
      · rintro ⟨hmessage, hne⟩
        rw [Checker.validate] at hmessage
        cases hcheck : k'.check v text with
        | ok _ =>
          rw [hcheck] at hmessage
          exact absurd hmessage.symm hne
        | error violation =>
          rw [hcheck] at hmessage
          exact ⟨⟨i, violation⟩, (hlists.mem_failures i violation).mpr ⟨v, hv, hcheck⟩, rfl,
            hmessage⟩
    · rintro xs ys rfl k₁ k₂ h₁ h₂
      exact report_append label hsettled h₁ h₂
  · intro q supply hsettled code
    rcases q.exitCode_response supply with ⟨values, hdecodes, hcode⟩ | ⟨hnone, hcode⟩
    · have hone : ∀ {P : List Value → Prop},
          (∃ values, q.Decodes supply values ∧ P values) ↔ P values := fun {P} =>
        ⟨fun ⟨_, h, hP⟩ => h.unique hdecodes ▸ hP, fun hP => ⟨values, hdecodes, hP⟩⟩
      have hexists : ∃ values, q.Decodes supply values := ⟨values, hdecodes⟩
      have hcode : code = _ := hcode
      refine ⟨fun k' hseed => ?_, ?_⟩
      · have hmatched :=
          (lists_report q.label (hsettled values hdecodes) hseed).matched_iff
        rw [hone, hone, Report.exists_error_iff, ← hmatched, hcode]
        split <;> rename_i hm <;> simp [hm]
      · rw [hcode]
        split <;> simp [hexists]
    · have hcode : code = 3 := hcode
      rw [hcode]
      have hno : ∀ {P : List Value → Prop}, ¬ ∃ values, q.Decodes supply values ∧ P values :=
        fun ⟨values, h, _⟩ => hnone ⟨values, h⟩
      refine ⟨fun _ _ => ⟨⟨nofun, fun h => absurd h hno⟩, ⟨nofun, fun h => absurd h hno⟩⟩, ?_,
        nofun⟩
      exact ⟨fun _ => hnone, fun _ => rfl⟩

/-- Two of four values fail, the third by being no integer and the fourth by being too small. A
string is not asked to be either. -/
theorem report_exact_integers :
    let k : Checker := { seed := some 7 }
    let text := "integer,min=1"
    let xs : List Value := [.number 1, .number 0.5]
    let ys : List Value := [.string "x", .number 0]
    let q : Command.CheckRequest := { constraint := text, seed := some 7 }
    (∀ v ∈ xs ++ ys, k.Settled none text v) ∧
    k.report (xs ++ ys) text none none =
      (k.report xs text none none).followedBy (k.report ys text none none) ∧
    (∃ f ∈ (k.report (xs ++ ys) text none none).failures, f.index = 3 ∧
      f.violation.message = "value 0 is below the minimum (min=1)") ∧
    (k.report (xs ++ ys) text none none).matched = false ∧
    (q.response (.unopened "no such file")).exitCode = 3 := by
  intro k text xs ys q
  have hsettled : ∀ v ∈ xs ++ ys, k.Settled none text v := fun _ _ => Or.inl rfl
  obtain ⟨hreport, hrequest⟩ := report_exact
  obtain ⟨-, -, -, hverdicts, -, happend⟩ := hreport k (xs ++ ys) text none none hsettled
  obtain ⟨-, hmatched, hmessage⟩ := hverdicts k rfl
  have hfails : k.validate (.number 0) text = "value 0 is below the minimum (min=1)" := by
    decide +kernel
  refine ⟨hsettled, happend xs ys rfl k k rfl rfl, ?_, ?_, ?_⟩
  · exact (hmessage rfl 3 (.number 0) rfl _).mpr ⟨hfails, by decide⟩
  · refine Bool.eq_false_iff.mpr fun h => ?_
    have hpass := hmatched.mp h (.number 0) (by simp [ys])
    rw [Checker.validate, show k.check (.number 0) text = .ok () from hpass] at hfails
    exact absurd hfails (by decide)
  · refine (hrequest q _ fun _ _ _ _ => Or.inl rfl).2.1.mpr ?_
    rintro ⟨_, _, _, -, hbytes, -⟩
    cases hbytes

end ShapeCheck
