import Mathlib.Logic.Function.Iterate
import ShapeCheck.Proofs.ElementEntries

/-!
# Blocks within blocks

A block of directives for arrays hands blocks for elements back to the parser that builds it.  These
are texts that were cut out of it, with quotes and blanks taken away, so nothing but their length
says that this comes to an end.

* `blocksWithin` — the blocks that a block hands back, and `parseLevel`, one level of parsing;
* `length_rest_of_mem_blocksWithin` — they are shorter;
* `parseLevel_congr` — no other block is parsed for a block;
* `iterate_parseLevel` — so as many levels as a block has characters, and one more, parse it;
* `exists_block_of_entry` — what elements have to satisfy is built from a block within;
* `nesting_parse_le` — so constraints nest no deeper than the block is long;
* `nested_blocks_shrink` — all of this.
-/

set_option autoImplicit false

namespace ShapeCheck

open Directive Text

/-! ## Blocks that are handed back -/

/-- The blocks for elements that a block for a type hands back to the parser: those in the arguments
of its directives for elements. -/
def blocksWithin (t : ValueType) (block : List Char) : List ElementBlock :=
  if t = .array then (tokenize block).flatMap innerBlocks else []

/-- One level of parsing: a block is built with a parser for the blocks within it. -/
def parseLevel (nested : BlockParser) : BlockParser := fun t block =>
  buildWith nested t (tokenize block)

theorem Directive.mem_innerBlocks {d : Directive} {b : ElementBlock} :
    b ∈ d.innerBlocks ↔ d.slot? = some (.rule .each false) ∧
      ∃ raw, d.argumentText? = some raw ∧ b ∈ ElementBlock.ofArgument raw := by
  rw [innerBlocks, elementArgument?]
  split
  · cases d.argumentText? <;> simp [*]
  · simp [*]

/-- **A block that is handed back is shorter** than the block around it, whether the argument is a
value or stands in parentheses, is quoted or not, and whatever its parentheses are. -/
theorem length_rest_of_mem_blocksWithin {t : ValueType} {block : List Char} {b : ElementBlock}
    (h : b ∈ blocksWithin t block) : b.rest.length < block.length := by
  rw [blocksWithin] at h
  split at h
  · obtain ⟨d, hd, hb⟩ := List.mem_flatMap.mp h
    obtain ⟨-, raw, hraw, hb⟩ := mem_innerBlocks.mp hb
    exact ElementBlock.length_rest_lt hd hraw hb
  · cases h

/-! ## Levels of parsing -/

section

variable {nested nested' : BlockParser} {t : ValueType}

/-- A directive asks the parser for its blocks and for nothing else. -/
theorem Constraint.apply_congr_innerBlocks {d : Directive}
    (hagree : t = .array → ∀ b ∈ d.innerBlocks,
      nested b.valueType b.rest = nested' b.valueType b.rest) (c : Constraint) :
    c.apply nested t d = c.apply nested' t d := by
  have hstep : d.step nested t = d.step nested' t := by
    unfold Directive.step
    split
    · rfl
    · rfl
    · rename_i k implied _ hnote hname
      have hchange : Rules.change? nested t k (d.negated != implied) d =
          Rules.change? nested' t k (d.negated != implied) d := by
        refine Rules.change?_congr fun ht hk hnegated raw hraw b hb => ?_
        have hslot : d.slot? = some (.rule .each false) := by
          subst hk
          rw [slot?, hname, ← hnegated]
        exact hagree ht b (mem_innerBlocks.mpr ⟨hslot, raw, hraw, hb⟩)
      rw [hchange]
    · rfl
  rw [Constraint.apply, Constraint.apply, hstep]

/-- **For a block the blocks within it are parsed and no others**: parsers that agree on these build
the same. -/
theorem parseLevel_congr {block : List Char}
    (hagree : ∀ b ∈ blocksWithin t block, nested b.valueType b.rest = nested' b.valueType b.rest) :
    parseLevel nested t block = parseLevel nested' t block := by
  have happly : ∀ d ∈ tokenize block, ∀ c : Constraint,
      c.apply nested t d = c.apply nested' t d := by
    intro d hd c
    refine Constraint.apply_congr_innerBlocks (fun ht b hb => hagree b ?_) c
    rw [blocksWithin, if_pos ht]
    exact List.mem_flatMap.mpr ⟨d, hd, hb⟩
  have hfold : ∀ c : Constraint, (tokenize block).foldl (Constraint.apply nested t) c =
      (tokenize block).foldl (Constraint.apply nested' t) c :=
    fun c => List.foldl_ext _ _ c fun c d hd => happly d hd c
  simp only [parseLevel, buildWith_eq, hfold]

end

theorem parseLevel_parse : parseLevel parse = parse := by
  funext t block
  rw [parse_eq_build]
  rfl

/-- **Finitely many levels parse a block**: one more than it has characters are enough, whatever
would be built below them.  The induction is on the number of levels; each level takes away at least
one character. -/
theorem iterate_parseLevel (nested : BlockParser) {n : ℕ} : ∀ {t : ValueType} {block : List Char},
    block.length < n → parseLevel^[n] nested t block = parse t block := by
  induction n with
  | zero => exact fun h => absurd h (Nat.not_lt_zero _)
  | succ n ih =>
    intro t block h
    rw [Function.iterate_succ_apply', ← parseLevel_parse]
    refine parseLevel_congr fun b hb => ?_
    have hshorter := length_rest_of_mem_blocksWithin hb
    exact ih (by omega)

/-- **Only one parser parses the blocks within a block like the block itself.** -/
theorem parseLevel_eq_self_iff {nested : BlockParser} :
    parseLevel nested = nested ↔ nested = parse := by
  constructor
  · intro h
    funext t block
    rw [← iterate_parseLevel nested block.length.lt_succ_self, Function.iterate_fixed h]
  · rintro rfl
    exact parseLevel_parse

/-! ## Depth of constraints -/

mutual

/-- How deep constraints for elements nest in a constraint. -/
def Constraint.nesting : Constraint → Nat
  | ⟨rules, _, _⟩ => rulesNesting rules

/-- How deep constraints for elements nest in rules. -/
def rulesNesting : Rules Constraint → Nat
  | .boolean => 0
  | .regex => 0
  | .number _ => 0
  | .string _ => 0
  | .object _ => 0
  | .array r => arrayNesting r

/-- How deep constraints for elements nest in rules for arrays. -/
def arrayNesting : ArrayRules Constraint → Nat
  | ⟨_, _, _, elements, _, _, _⟩ => elementsNesting elements

/-- How deep constraints for elements nest, these included. -/
def elementsNesting : ByType Constraint → Nat
  | ⟨number, string, boolean, object, array, regex⟩ =>
    max (entryNesting number) (max (entryNesting string) (max (entryNesting boolean)
      (max (entryNesting object) (max (entryNesting array) (entryNesting regex)))))

/-- How deep the constraint for elements of one type nests, itself included. -/
def entryNesting : Option Constraint → Nat
  | none => 0
  | some c => c.nesting + 1

end

theorem entryNesting_le_iff {entry : Option Constraint} {n : ℕ} :
    entryNesting entry ≤ n ↔ ∀ d, entry = some d → d.nesting < n := by
  cases entry with
  | none => simp [entryNesting]
  | some c =>
    rw [entryNesting, Nat.succ_le_iff]
    constructor
    · rintro h d ⟨⟩
      exact h
    · exact fun h => h c rfl

theorem elementsNesting_le_iff {m : ByType Constraint} {n : ℕ} :
    elementsNesting m ≤ n ↔ ∀ u d, m.get? u = some d → d.nesting < n := by
  obtain ⟨number, string, boolean, object, array, regex⟩ := m
  simp only [elementsNesting, Nat.max_le, entryNesting_le_iff]
  constructor
  · rintro ⟨hnumber, hstring, hboolean, hobject, harray, hregex⟩ u
    cases u with
    | none => exact nofun
    | number => exact hnumber
    | string => exact hstring
    | boolean => exact hboolean
    | object => exact hobject
    | array => exact harray
    | regex => exact hregex
  · exact fun h => ⟨h .number, h .string, h .boolean, h .object, h .array, h .regex⟩

theorem rulesNesting_eq (r : Rules Constraint) : rulesNesting r = elementsNesting r.elements := by
  cases r with
  | array r => cases r; rfl
  | _ => rfl

/-- A constraint nests deeper than those for its elements, and no deeper than that asks for. -/
theorem Constraint.nesting_le_iff {c : Constraint} {n : ℕ} :
    c.nesting ≤ n ↔ ∀ u d, c.rules.elements.get? u = some d → d.nesting < n := by
  obtain ⟨rules, note, badName⟩ := c
  rw [Constraint.nesting, rulesNesting_eq, elementsNesting_le_iff]

/-! ## Depth of what is parsed -/

theorem Rules.elements_of_ne_array {r : Rules Constraint} (h : r.valueType ≠ .array) :
    r.elements = {} := by
  cases r with
  | array r => exact absurd rfl h
  | _ => rfl

theorem Constraint.elements_of_initial? {t : ValueType} {c : Constraint}
    (h : Constraint.initial? t = some c) : c.rules.elements = {} := by
  obtain ⟨r, hr, rfl⟩ := Option.map_eq_some_iff.mp h
  exact Rules.elements_of_initial? hr

/-- **What elements have to satisfy is built from a block within**: each constraint for elements
that a block builds is that of a block which it hands back. -/
theorem exists_block_of_entry {nested : BlockParser} {t u : ValueType} {block : List Char}
    {c d : Constraint} (h : parseLevel nested t block = some c)
    (hd : c.rules.elements.get? u = some d) :
    ∃ b ∈ blocksWithin t block, b.valueType = u ∧ b.constraint? nested = some d := by
  rw [parseLevel, buildWith_eq] at h
  split at h
  · cases h
  · obtain ⟨first, hfirst, rfl⟩ := Option.map_eq_some_iff.mp h
    have hnone : first.rules.elements.get? u = none := by
      rw [Constraint.elements_of_initial? hfirst, ByType.get?_empty]
    have ht : first.valueType = t := Constraint.valueType_of_initial? hfirst
    split at hd
    · rw [hnone] at hd
      cases hd
    · by_cases harray : t = .array
      · subst harray
        rw [elements_foldl nested ht] at hd
        rcases ByType.get?_setBlocks hd with hd | hblock
        · rw [hnone] at hd
          cases hd
        · rwa [blocksWithin, if_pos rfl]
      · have hother := (valueType_foldl nested t (tokenize block) first).trans ht
        rw [Rules.elements_of_ne_array (hother.trans_ne harray), ByType.get?_empty] at hd
        cases hd

theorem Constraint.nesting_of_initial? {t : ValueType} {c : Constraint}
    (h : Constraint.initial? t = some c) : c.nesting = 0 := by
  refine Nat.le_zero.mp (nesting_le_iff.mpr fun u d hd => ?_)
  rw [elements_of_initial? h, ByType.get?_empty] at hd
  cases hd

/-- **Constraints nest no deeper than the block is long** that they are parsed from. -/
theorem nesting_parse_le {t : ValueType} {block : List Char} {c : Constraint}
    (h : parse t block = some c) : c.nesting ≤ block.length := by
  induction hn : block.length using Nat.strongRecOn generalizing t block c with
  | _ n ih =>
    refine Constraint.nesting_le_iff.mpr fun u d hd => ?_
    rw [← parseLevel_parse] at h
    obtain ⟨b, hb, -, hbuilt⟩ := exists_block_of_entry h hd
    have hshorter := length_rest_of_mem_blocksWithin hb
    rw [ElementBlock.constraint?, Option.orElse_eq_orElse, Option.orElse_eq_or,
      Option.or_eq_some_iff] at hbuilt
    rcases hbuilt with hparse | ⟨-, hfirst⟩
    · have hnested := ih b.rest.length (by omega) hparse rfl
      omega
    · have hzero := Constraint.nesting_of_initial? hfirst
      omega

/-- **Blocks within blocks come to an end.**  Every block for elements that a block hands back to the
parser is shorter than that block, in characters, however the argument that holds it is given.  These
blocks are all that is parsed for a block: parsers that agree on them build the same from it, and
each constraint for elements is what one of them builds.  So more levels of parsing than a block has
characters build what is parsed from it, whatever would be built below them; only one parser parses
the blocks within a block like the block itself; and the constraints for elements nest no deeper than
the block has characters. -/
theorem nested_blocks_shrink :
    (∀ (t : ValueType) (block : List Char), ∀ b ∈ blocksWithin t block,
      b.rest.length < block.length) ∧
    (∀ (t : ValueType) (block : List Char) (nested nested' : BlockParser),
      (∀ b ∈ blocksWithin t block, nested b.valueType b.rest = nested' b.valueType b.rest) →
        buildWith nested t (tokenize block) = buildWith nested' t (tokenize block)) ∧
    (∀ (t u : ValueType) (block : List Char) (nested : BlockParser) (c d : Constraint),
      buildWith nested t (tokenize block) = some c → c.rules.elements.get? u = some d →
        ∃ b ∈ blocksWithin t block, b.valueType = u ∧ b.constraint? nested = some d) ∧
    (∀ (nested : BlockParser) (n : ℕ) (t : ValueType) (block : List Char), block.length < n →
      parseLevel^[n] nested t block = parse t block) ∧
    (∀ nested : BlockParser,
      (∀ t block, nested t block = buildWith nested t (tokenize block)) ↔ nested = parse) ∧
    ∀ (t : ValueType) (block : List Char) (c : Constraint), parse t block = some c →
      c.nesting ≤ block.length := by
  refine ⟨fun t block b => length_rest_of_mem_blocksWithin, ?_, ?_, ?_, ?_, ?_⟩
  · exact fun t block nested nested' => parseLevel_congr
  · exact fun t u block nested c d => exists_block_of_entry
  · exact fun nested n t block => iterate_parseLevel nested
  · intro nested
    rw [← parseLevel_eq_self_iff]
    constructor
    · intro h
      funext t block
      exact (h t block).symm
    · intro h t block
      exact congrFun (congrFun h.symm t) block
  · exact fun t block c => nesting_parse_le

/-- An argument behind an equals sign with a parenthesis that is left open, three levels deep; and an
argument in parentheses between quotes, in a block between quotes. -/
theorem nested_blocks_shrink_unclosed :
    let block := "each=(array,each([],each=regex)".toList
    let quoted := "'!min,Each (\"array,each='string'|number,max=3\")'".toList
    let restricted : BlockParser := fun t rest => if rest.length < 31 then parse t rest else none
    ((blocksWithin .array block).map (·.rest) = ["each([],each=regex)".toList] ∧
      ∀ b ∈ blocksWithin .array block, b.rest.length < block.length) ∧
    ((blocksWithin .array quoted).map (·.rest) = ["each='string'".toList, "max=3".toList] ∧
      ∀ b ∈ blocksWithin .array quoted, b.rest.length < quoted.length) ∧
    ((∀ b ∈ blocksWithin .array quoted, restricted b.valueType b.rest = parse b.valueType b.rest) ∧
      buildWith restricted .array (tokenize quoted) = buildWith parse .array (tokenize quoted)) ∧
    (block.length < 32 ∧ parseLevel^[32] (fun _ _ => none) .array block = parse .array block) ∧
    ∃ c d, parse .array block = some c ∧ c.nesting = 3 ∧ c.nesting ≤ block.length ∧
      c.rules.elements.get? .array = some d ∧
      ∃ b ∈ blocksWithin .array block, b.valueType = .array ∧ b.constraint? parse = some d := by
  intro block quoted restricted
  have hblock : (blocksWithin .array block).map (·.rest) = ["each([],each=regex)".toList] := by
    decide +kernel
  have hquoted : (blocksWithin .array quoted).map (·.rest) =
      ["each='string'".toList, "max=3".toList] := by decide +kernel
  have hagree : ∀ b ∈ blocksWithin .array quoted,
      restricted b.valueType b.rest = parse b.valueType b.rest := by
    intro b hb
    have hrest : b.rest ∈ ["each='string'".toList, "max=3".toList] :=
      hquoted ▸ List.mem_map_of_mem hb
    have hshort : ∀ rest ∈ ["each='string'".toList, "max=3".toList], rest.length < 31 := by decide
    exact if_pos (hshort _ hrest)
  have hlength : block.length < 32 := by decide
  have hnesting : (parse .array block).map (·.nesting) = some 3 := by decide +kernel
  have hentry : ((parse .array block).bind (·.rules.elements.get? .array)).isSome := by
    decide +kernel
  obtain ⟨c, hc, hthree⟩ := Option.map_eq_some_iff.mp hnesting
  obtain ⟨d, hd⟩ := Option.isSome_iff_exists.mp hentry
  rw [hc, Option.bind_some] at hd
  obtain ⟨hshorter, hsame, hbuilt, hlevels, hself, hdeep⟩ := nested_blocks_shrink
  have htokens : buildWith parse .array (tokenize block) = some c :=
    ((hself parse).mpr rfl .array block).symm.trans hc
  exact ⟨⟨hblock, hshorter .array block⟩, ⟨hquoted, hshorter .array quoted⟩,
    ⟨hagree, hsame .array quoted restricted parse hagree⟩,
    ⟨hlength, hlevels _ 32 .array block hlength⟩,
    c, d, hc, hthree, hdeep .array block c hc, hd, hbuilt .array .array block parse c d htokens hd⟩

end ShapeCheck
