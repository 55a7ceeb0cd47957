import ShapeCheck.Constraint.Change
import ShapeCheck.Proofs.Splitting

/-!
# Parsing without a bound

`parse` goes into a block for elements only where it is shorter than the block around it.  Every
block for elements is:

* `length_argumentText?_lt` — the argument of a directive is shorter than its token;
* `ElementBlock.length_rest_le`, `ElementBlock.length_rest_lt` — a block for elements is no longer
  than the argument it stands in, so it is shorter than the block whose directive holds it;
* `parse_eq_build` — so `parse` builds from the tokens of its block, with itself for the blocks for
  elements.
-/

set_option autoImplicit false

namespace ShapeCheck

/-! ## Lengths of parts -/

namespace Directive

theorem length_setAside : ∀ (text : List Char) (depth : Nat),
    (setAside depth text).length = text.length
  | [], _ => rfl
  | c :: text, depth => by rw [setAside, List.length_cons, List.length_cons, length_setAside text]

theorem length_of_mem_modifyHead {c : Char} {part : List Char} {parts : List (List Char)} {n : Nat}
    (hparts : ∀ p ∈ parts, p.length ≤ n) (h : part ∈ parts.modifyHead (c :: ·)) :
    part.length ≤ n + 1 := by
  cases parts with
  | nil => cases h
  | cons p parts =>
    rw [List.modifyHead_cons, List.mem_cons] at h
    rcases h with rfl | h
    · exact Nat.succ_le_succ (hparts p List.mem_cons_self)
    · exact Nat.le_succ_of_le (hparts part (List.mem_cons_of_mem p h))

theorem length_of_mem_splitOn_comma {part : List Char} : ∀ {text : List Char},
    part ∈ text.splitOn ',' → part.length ≤ text.length
  | [], h => by
    rw [List.mem_singleton.mp h]
    exact Nat.le_refl 0
  | c :: text, h => by
    have ih : ∀ p ∈ text.splitOn ',', p.length ≤ text.length :=
      fun _ hp => length_of_mem_splitOn_comma hp
    rw [splitOn_comma_cons] at h
    split at h
    · rcases List.mem_cons.mp h with rfl | h
      · exact Nat.zero_le _
      · exact Nat.le_succ_of_le (ih part h)
    · exact length_of_mem_modifyHead ih h

theorem length_of_mem_splitFrom {mark : Char} {part : List Char} :
    ∀ {text : List Char} {depth : Nat}, part ∈ splitFrom mark depth text →
      part.length ≤ text.length
  | [], _, h => by
    cases List.mem_singleton.mp h
    exact Nat.le_refl 0
  | c :: text, depth, h => by
    have ih : ∀ depth, ∀ p ∈ splitFrom mark depth text, p.length ≤ text.length :=
      fun _ _ hp => length_of_mem_splitFrom hp
    rw [splitFrom] at h
    split at h
    · rcases List.mem_cons.mp h with rfl | h
      · exact Nat.zero_le _
      · exact Nat.le_succ_of_le (ih 0 part h)
    · exact length_of_mem_modifyHead (ih _) h

theorem eq_of_cutFrom? {mark : Char} : ∀ {text front back : List Char} {depth : Nat},
    cutFrom? mark depth text = some (front, back) → text = front ++ mark :: back
  | [], _, _, _, h => by cases h
  | c :: text, front, back, depth, h => by
    rw [cutFrom?] at h
    split at h
    · rename_i hcut
      cases h
      rw [(isCut_iff.mp hcut).1]
      rfl
    · obtain ⟨⟨front', back'⟩, hcut, hpair⟩ := Option.map_eq_some_iff.mp h
      obtain ⟨rfl, rfl⟩ := Prod.mk.inj hpair
      rw [eq_of_cutFrom? hcut]
      rfl

/-! ## Arguments and tokens -/

theorem length_splitBang_le (text : List Char) : (splitBang text).2.length ≤ text.length := by
  rw [splitBang.eq_def]
  split
  · exact Nat.le_succ_of_le (Text.length_trimStart_le _)
  · exact Nat.le_refl _

theorem Call.length_raw_lt {text : List Char} {call : Call} (h : Call.parse? text = some call) :
    call.raw.length < text.length := by
  rw [Call.parse?] at h
  split at h
  · split at h
    · cases h
    · rename_i front back hcut
      dsimp only at h
      split at h
      · cases h
      · cases h
        show (Text.stripQuotes (Text.trim back.dropLast)).length < text.length
        have htext : (Text.trim text).length = front.length + (back.length + 1) := by
          rw [Text.eq_of_cutAt? hcut, List.length_append, List.length_cons]
        have hquotes := Text.length_stripQuotes_le (Text.trim back.dropLast)
        have htrim := Text.length_trim_le back.dropLast
        have hdrop : back.dropLast.length = back.length - 1 := List.length_dropLast
        have := Text.length_trim_le text
        omega
  · cases h

/-- **The argument of a directive is shorter than the token that writes the directive.** -/
theorem length_argumentText?_lt {raw argument : List Char} {d : Directive}
    (h : parse? raw = some d) (hargument : d.argumentText? = some argument) :
    argument.length < raw.length := by
  have hraw : (splitBang (Text.trim raw)).2.length ≤ raw.length :=
    Nat.le_trans (length_splitBang_le _) (Text.length_trim_le raw)
  rw [parse?] at h
  generalize splitBang (Text.trim raw) = signed at h hraw
  obtain ⟨negated, text⟩ := signed
  change text.length ≤ raw.length at hraw
  dsimp only at h
  split at h
  · cases h
  · cases hcut : cutTopLevel? '=' text with
    | some parts =>
      obtain ⟨front, back⟩ := parts
      rw [hcut] at h
      have htext : text.length = front.length + (back.length + 1) := by
        rw [eq_of_cutFrom? hcut, List.length_append, List.length_cons]
      have hvalue : d.value = some (Text.trim back) := by
        dsimp only at h
        split at h <;> cases h <;> rfl
      rw [argumentText?, hvalue] at hargument
      cases hargument
      have hquotes := Text.length_stripQuotes_le (Text.trim back)
      have htrim := Text.length_trim_le back
      omega
    | none =>
      rw [hcut] at h
      dsimp only at h
      split at h
      · rename_i call hcall
        cases h
        cases hargument
        exact Nat.lt_of_lt_of_le (Call.length_raw_lt hcall) hraw
      · cases h
        cases hargument

/-- A directive of a block is written by a token that is no longer than the block. -/
theorem exists_token {block : List Char} {d : Directive} (h : d ∈ tokenize block) :
    ∃ raw, raw.length ≤ block.length ∧ parse? raw = some d := by
  rw [tokenize] at h
  split at h
  · cases h
  · obtain ⟨token, htoken, hd⟩ := List.mem_filterMap.mp h
    refine ⟨restore token, ?_, hd⟩
    have hlength := length_of_mem_splitOn_comma htoken
    rw [length_setAside] at hlength
    rw [restore, List.length_map]
    exact Nat.le_trans hlength
      (Nat.le_trans (Text.length_stripQuotes_le _) (Text.length_trim_le block))

end Directive

theorem ElementBlock.length_rest_le {raw : List Char} {b : ElementBlock}
    (h : b ∈ ElementBlock.ofArgument raw) : b.rest.length ≤ raw.length := by
  obtain ⟨part, hpart, hb⟩ := List.mem_filterMap.mp h
  have hlength := Directive.length_of_mem_splitFrom hpart
  dsimp only at hb
  split at hb
  · cases hb
  · split at hb
    · rename_i typeName rest hcut
      cases hb
      have htext : (Text.stripQuotes (Text.trim part)).length =
          typeName.length + (rest.length + 1) := by
        rw [Text.eq_of_cutAt? hcut, List.length_append, List.length_cons]
      have hquotes := Text.length_stripQuotes_le (Text.trim part)
      have htrim := Text.length_trim_le part
      show rest.length ≤ raw.length
      omega
    · cases hb
      exact Nat.zero_le _

/-- **A block for elements is shorter than the block whose directive holds it.** -/
theorem ElementBlock.length_rest_lt {block argument : List Char} {d : Directive} {b : ElementBlock}
    (hd : d ∈ Directive.tokenize block) (hargument : d.argumentText? = some argument)
    (hb : b ∈ ofArgument argument) : b.rest.length < block.length := by
  obtain ⟨raw, hraw, hparse⟩ := Directive.exists_token hd
  calc b.rest.length
    _ ≤ argument.length := length_rest_le hb
    _ < raw.length := Directive.length_argumentText?_lt hparse hargument
    _ ≤ block.length := hraw

/-! ## Building with parsers that agree -/

section

variable {nested nested' : BlockParser} {d : Directive}

theorem ByType.setBlocks_congr {blocks : List ElementBlock} (m : ByType Constraint)
    (h : ∀ b ∈ blocks, nested b.valueType b.rest = nested' b.valueType b.rest) :
    m.setBlocks nested blocks = m.setBlocks nested' blocks := by
  refine List.foldl_ext _ _ m fun m b hb => ?_
  rw [ElementBlock.constraint?, ElementBlock.constraint?, h b hb]

/-- Only `each` in rules for arrays looks at blocks for elements, and only at those in its
argument. -/
theorem Rules.change?_congr {t : ValueType} {k : Keyword} {negated : Bool}
    (hagree : t = .array → k = .each → negated = false → ∀ raw, d.argumentText? = some raw →
      ∀ b ∈ ElementBlock.ofArgument raw, nested b.valueType b.rest = nested' b.valueType b.rest) :
    Rules.change? nested t k negated d = Rules.change? nested' t k negated d := by
  cases t with
  | array =>
    refine congrArg (Option.map _) ?_
    cases k with
    | each =>
      cases negated with
      | true => rfl
      | false =>
        refine Option.map_congr fun raw hraw => ?_
        funext r
        rw [ByType.setBlocks_congr r.elements (hagree rfl rfl rfl raw hraw)]
    | _ => rfl
  | _ => rfl

theorem Constraint.apply_congr
    (hagree : ∀ raw, d.argumentText? = some raw → ∀ b ∈ ElementBlock.ofArgument raw,
      nested b.valueType b.rest = nested' b.valueType b.rest) (t : ValueType) (c : Constraint) :
    c.apply nested t d = c.apply nested' t d := by
  have hchange : ∀ k negated,
      Rules.change? nested t k negated d = Rules.change? nested' t k negated d :=
    fun k negated => Rules.change?_congr fun _ _ _ => hagree
  have hstep : d.step nested t = d.step nested' t := by
    simp only [Directive.step, hchange]
  rw [Constraint.apply, Constraint.apply, hstep]

end

theorem buildWith_congr {nested nested' : BlockParser} {ds : List Directive} (t : ValueType)
    (hagree : ∀ d ∈ ds, ∀ raw, d.argumentText? = some raw → ∀ b ∈ ElementBlock.ofArgument raw,
      nested b.valueType b.rest = nested' b.valueType b.rest) :
    buildWith nested t ds = buildWith nested' t ds := by
  have hfold : ∀ c : Constraint,
      ds.foldl (Constraint.apply nested t) c = ds.foldl (Constraint.apply nested' t) c :=
    fun c => List.foldl_ext _ _ c fun c d hd => Constraint.apply_congr (hagree d hd) t c
  simp only [buildWith_eq, hfold]

/-- **Parsing builds from the tokens of a block, and blocks for elements are parsed likewise.** -/
theorem parse_eq_build (t : ValueType) (block : List Char) :
    parse t block = build t (Directive.tokenize block) := by
  rw [parse]
  refine buildWith_congr t fun d hd argument hargument b hb => ?_
  exact if_pos (ElementBlock.length_rest_lt hd hargument hb)

end ShapeCheck
