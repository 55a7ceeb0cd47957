import ShapeCheck.Command.Response
import ShapeCheck.Proofs.NestedParse

/-!
# Quoted constraints

A whole constraint may stand between quotes, with blanks around them.

* `pieces_eq_filterMap`, `pieces_trim` — the directives between the commas of a text are those of its
  parts, and blanks at its ends make no difference to them;
* `tokenize_joined` — the tokens of a block that is not quoted come from the texts between its
  commas, whatever parentheses and unit separators these have;
* `tokenize_quoted` — a text between quotes has the tokens of the text, unless the text is itself
  between quotes;
* `parseEvents_eq`, `checkText_congr` — parsing and checking depend on the tokens of a text alone,
  in what they report as well;
* `quoting_changes_nothing` — what follows for constraints, descriptions and checks.
-/

set_option autoImplicit false

namespace ShapeCheck

open ShapeCheck.Text

/-! ## Directives between commas -/

namespace Directive

/-- The directives between the commas of a text, whose quotes are not looked at. -/
def pieces (text : List Char) : List Directive :=
  ((setAside 0 text).splitOn ',').filterMap fun token => parse? (restore token)

theorem pieces_eq_filterMap (text : List Char) :
    pieces text = (splitTopLevel ',' text).filterMap fun part => parse? (restore part) := by
  have hparts : ∀ parts : List (List Char),
      parts.filterMap (fun part => parse? (restore part)) = (parts.map restore).filterMap parse? :=
    fun parts => by rw [List.filterMap_map]; rfl
  rw [pieces, hparts, map_restore_splitOn_setAside, ← hparts, splitTopLevel]

/-- Trimming makes no difference to the directives of a text. -/
theorem pieces_trim (text : List Char) : pieces (trim text) = pieces text := by
  rw [pieces_eq_filterMap, filterMap_splitTopLevel_trim (by decide) fun part => by
    rw [restore_trim, parse?_trim], pieces_eq_filterMap]

theorem tokenize_eq_pieces (block : List Char) :
    tokenize block = pieces (stripQuotes (trim block)) := by
  rw [tokenize]
  split
  · rename_i hnil
    rw [← pieces_trim, List.isEmpty_iff.mp hnil]
    rfl
  · rfl

/-- The tokens of a block that is not quoted are those of its parts, restored, whatever its
parentheses and unit separators are. -/
theorem tokenize_of_unquoted {block : List Char} (h : unquote? (trim block) = none) :
    tokenize block = (splitTopLevel ',' block).filterMap fun part => parse? (restore part) := by
  rw [tokenize_eq_pieces, stripQuotes, h, Option.getD_none, pieces_trim, pieces_eq_filterMap]

/-- Texts joined by commas write the tokens of a block that is not quoted, if each is uncut and
closes its parentheses. -/
theorem tokenize_joined {ps : List (List Char)} (hne : ps ≠ [])
    (h : ∀ p ∈ ps, Uncut ',' 0 p ∧ depthAfter 0 p = 0)
    (hquote : unquote? (trim ([','].intercalate ps)) = none) :
    tokenize ([','].intercalate ps) = ps.filterMap fun p => parse? (restore p) := by
  rw [tokenize_of_unquoted hquote, splitTopLevel_intercalate (by decide) (by decide) hne h]

/-- A comma at which no parenthesis is open stands between the tokens of two blocks, if neither they
nor both together are quoted. -/
theorem tokenize_append_comma {p q : List Char} (hdepth : depthAfter 0 p = 0)
    (hp : unquote? (trim p) = none) (hq : unquote? (trim q) = none)
    (hboth : unquote? (trim (p ++ ',' :: q)) = none) :
    tokenize (p ++ ',' :: q) = tokenize p ++ tokenize q := by
  rw [tokenize_of_unquoted hboth, splitTopLevel_append_cons (by decide) (by decide) hdepth,
    List.filterMap_append, ← tokenize_of_unquoted hp, ← tokenize_of_unquoted hq]

/-! ## Blocks between quotes -/

/-- A block between two quotes of one kind, with other text before and behind them. -/
def quoted (q : Char) (front block back : List Char) : List Char :=
  front ++ (q :: block ++ [q]) ++ back

/-- **A quoted block has the tokens of the block**, if the block is not itself quoted.  What stands
between the quotes is not trimmed, while the block is: `pieces_trim` makes up for it. -/
theorem tokenize_quoted {q : Char} {front block back : List Char} (hq : q = '"' ∨ q = '\'')
    (hfront : ∀ c ∈ front, isBlank c = true) (hback : ∀ c ∈ back, isBlank c = true)
    (hblock : unquote? (trim block) = none) :
    tokenize (quoted q front block back) = tokenize block := by
  have hvisible : isBlank q = false := by
    rcases hq with rfl | rfl <;> decide
  have hends : VisibleEnds (q :: block ++ [q]) := .between hvisible hvisible block
  have htrim : trim (quoted q front block back) = q :: block ++ [q] := by
    rw [quoted, trim_append_blanks hback, trim_blanks_append hfront, trim_eq_self hends]
  rw [tokenize_eq_pieces, tokenize_eq_pieces, htrim, stripQuotes, unquote?_quoted hq, stripQuotes,
    hblock]
  exact (pieces_trim block).symm

end Directive

/-! ## What depends on the tokens alone -/

section

variable {nested nested' : BlockEvents} {d : Directive}

theorem Directive.events_congr (t : ValueType)
    (hagree : ∀ raw, d.argumentText? = some raw → ∀ b ∈ ElementBlock.ofArgument raw,
      nested b.valueType b.rest = nested' b.valueType b.rest) :
    d.events nested t = d.events nested' t := by
  have hblocks : (ElementBlock.ofArgument (d.argumentText?.getD [])).flatMap (·.events nested) =
      (ElementBlock.ofArgument (d.argumentText?.getD [])).flatMap (·.events nested') := by
    cases hraw : d.argumentText? with
    | none => rfl
    | some raw =>
      refine List.flatMap_congr fun b hb => ?_
      rw [ElementBlock.events, ElementBlock.events, hagree raw hraw b hb]
  unfold Directive.events
  rw [hblocks]

theorem directiveEvents_congr (t : ValueType) (built : List Log.Event) :
    ∀ {ds : List Directive},
      (∀ d ∈ ds, ∀ raw, d.argumentText? = some raw → ∀ b ∈ ElementBlock.ofArgument raw,
        nested b.valueType b.rest = nested' b.valueType b.rest) →
      directiveEvents nested t built ds = directiveEvents nested' t built ds
  | [], _ => rfl
  | d :: ds, hagree => by
    rw [directiveEvents, directiveEvents, Directive.events_congr t (hagree d List.mem_cons_self),
      directiveEvents_congr t built fun e he => hagree e (List.mem_cons_of_mem d he)]

end

theorem parseEvents_eq (t : ValueType) (block : List Char) :
    parseEvents t block =
      match build t (Directive.tokenize block) with
      | none => []
      | some c =>
        directiveEvents parseEvents t [.constraintBuilt c.describe] (Directive.tokenize block) := by
  rw [parseEvents, parse_eq_build]
  cases build t (Directive.tokenize block) with
  | none => rfl
  | some c =>
    refine directiveEvents_congr t _ fun d hd argument hargument b hb => ?_
    exact if_pos (ElementBlock.length_rest_lt hd hargument hb)

/-- Parsing depends on the tokens of a block alone, in what it reports as well. -/
theorem parse_congr {block block' : List Char}
    (h : Directive.tokenize block = Directive.tokenize block') (t : ValueType) :
    parse t block = parse t block' ∧ parseEvents t block = parseEvents t block' := by
  rw [parse_eq_build, parse_eq_build, parseEvents_eq, parseEvents_eq, h]
  exact ⟨rfl, rfl⟩

section

variable {σ : Type}

theorem checkText_congr {text text' : String}
    (h : Directive.tokenize text.toList = Directive.tokenize text'.toList) (sampler : Sampler σ)
    (v : Value) (t : ValueType) (s : σ) :
    checkText sampler v t text s = checkText sampler v t text' s := by
  obtain ⟨hparse, hevents⟩ := parse_congr h t
  rw [checkText, checkText, hparse, hevents]

end

/-- **Quoting a whole constraint changes nothing.**  Between quotes of either kind, with any blanks
around them, a block that is not itself quoted has the same tokens: so every type builds the same
constraint and describes it alike, and every check of every value has the same verdict, leaves the
sampler in the same state and reports the same events. -/
theorem quoting_changes_nothing {q : Char} {front block back : List Char}
    (hq : q = '"' ∨ q = '\'') (hfront : ∀ c ∈ front, isBlank c = true)
    (hback : ∀ c ∈ back, isBlank c = true) (hblock : unquote? (trim block) = none) :
    let plain := String.ofList block
    let quoted := String.ofList (Directive.quoted q front block back)
    Directive.tokenize quoted.toList = Directive.tokenize block ∧
    (∀ t, parse t quoted.toList = parse t block) ∧
    (∀ declared, ({ declared, constraint := quoted } : Command.DescribeRequest).response =
      ({ declared, constraint := plain } : Command.DescribeRequest).response) ∧
    (∀ {σ : Type} (sampler : Sampler σ) (v : Value) (t : ValueType) (s : σ),
      checkText sampler v t quoted s = checkText sampler v t plain s) ∧
    ∀ (k : Checker) (v : Value),
      k.check v quoted = k.check v plain ∧ k.validate v quoted = k.validate v plain ∧
        ∀ declared, k.checkAs v declared quoted = k.checkAs v declared plain := by
  intro plain quoted
  have htokens : Directive.tokenize quoted.toList = Directive.tokenize plain.toList := by
    rw [String.toList_ofList, String.toList_ofList]
    exact Directive.tokenize_quoted hq hfront hback hblock
  have hplain : plain.toList = block := String.toList_ofList
  have hcheck : ∀ {σ : Type} (sampler : Sampler σ) (v : Value) (t : ValueType) (s : σ),
      checkText sampler v t quoted s = checkText sampler v t plain s :=
    fun sampler v t s => checkText_congr htokens sampler v t s
  have hrun : ∀ (k : Checker) (v : Value) (declared : Option String),
      k.run v declared quoted = k.run v declared plain := fun k v declared => hcheck _ v _ _
  have hverdict : ∀ (k : Checker) (v : Value), k.check v quoted = k.check v plain :=
    fun k v => congrArg (·.verdict) (hrun k v none)
  refine ⟨hplain ▸ htokens, fun t => hplain ▸ (parse_congr htokens t).1, fun declared => ?_, hcheck,
    fun k v => ⟨hverdict k v, ?_, fun declared => congrArg (·.verdict) (hrun k v (some declared))⟩⟩
  · simp only [Command.DescribeRequest.response, (parse_congr htokens _).1]
    rfl
  · rw [Checker.validate, hverdict k v, Checker.validate]

/-- A block with a quote and a parenthesis that nothing closes, and with blanks at its ends that
stand between the quotes once it is quoted. -/
theorem quoting_changes_nothing_lone_quote :
    let block := "\tminLength=2,note='(a, ".toList
    let quoted := Directive.quoted '\'' ['\u00a0'] block [' ']
    unquote? (trim block) = none ∧
    (Directive.tokenize quoted).map (·.text) = ["minLength=2".toList, "note='(a,".toList] ∧
    ({ seed := some 7 } : Checker).validate (.string "x") (String.ofList quoted) =
      "length 1 is below the minimum (minLength=2)" := by
  intro block quoted
  have hblock : unquote? (trim block) = none := by decide +kernel
  have hfront : ∀ c ∈ ['\u00a0'], isBlank c = true := List.forall_mem_singleton.mpr rfl
  have hback : ∀ c ∈ [' '], isBlank c = true := List.forall_mem_singleton.mpr rfl
  obtain ⟨htokens, -, -, -, hcheck⟩ :=
    quoting_changes_nothing (Or.inr rfl : '\'' = '"' ∨ '\'' = '\'') hfront hback hblock
  rw [String.toList_ofList] at htokens
  refine ⟨hblock, ?_, ?_⟩
  · rw [htokens]
    decide +kernel
  · rw [(hcheck { seed := some 7 } (.string "x")).2.1]
    decide +kernel

end ShapeCheck
