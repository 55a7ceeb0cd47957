import ShapeCheck.Proofs.UnclosedParentheses

/-!
# Blocks joined by commas

Texts of constraints are put together from blocks with commas between them.  Of all that the scanner
of blocks has seen before a comma, the number of open parentheses alone reaches across it.

* `exists_parse?` — a directive has all commas of the text that writes it;
* `not_prefix_tokenize` — so an open parenthesis before a comma makes another directive of the last
  one before it;
* `blocks_joined` — joined blocks have the directives of the blocks, in order, iff those before the
  last one leave nothing open.
-/

set_option autoImplicit false

namespace ShapeCheck

open Directive Text

/-! ## Characters of a directive -/

section

variable {c : Char} (hvisible : isBlank c = false)

include hvisible

theorem count_dropBlanks (text : List Char) : (text.dropWhile isBlank).count c = text.count c := by
  have hblanks : (text.takeWhile isBlank).count c = 0 := by
    rw [List.count_eq_zero]
    intro hmem
    simp [List.mem_takeWhile_imp hmem] at hvisible
  have htext : text.takeWhile isBlank ++ text.dropWhile isBlank = text :=
    List.takeWhile_append_dropWhile
  have hsum := congrArg (List.count c) htext
  rw [List.count_append] at hsum
  omega

theorem count_trim (text : List Char) : (trim text).count c = text.count c := by
  simp [trim, trimEnd, trimStart, count_dropBlanks hvisible]

theorem count_splitBang (hbang : c ≠ '!') (text : List Char) :
    (splitBang text).2.count c = text.count c := by
  unfold splitBang
  split
  · simp [trimStart, count_dropBlanks hvisible, hbang.symm]
  · rfl

end

theorem map_text_parse? (raw : List Char) : (parse? raw).map (·.text) =
    if (splitBang (trim raw)).2.isEmpty then none else some (splitBang (trim raw)).2 := by
  unfold parse?
  dsimp only
  split
  · rfl
  · split <;> rfl

/-- **A text with a parenthesis writes a directive**, and the directive has all its commas. -/
theorem exists_parse? {raw : List Char} (h : '(' ∈ raw) :
    ∃ d, parse? raw = some d ∧ d.text.count ',' = raw.count ',' := by
  have hcount : ∀ c : Char, isBlank c = false → c ≠ '!' →
      (splitBang (trim raw)).2.count c = raw.count c := fun c hc hbang => by
    rw [count_splitBang hc hbang, count_trim hc]
  have hopen : (splitBang (trim raw)).2.isEmpty = false := by
    rw [List.isEmpty_eq_false_iff_exists_mem]
    refine ⟨'(', ?_⟩
    rw [← List.count_pos_iff, hcount '(' (by decide) (by decide)]
    exact List.count_pos_iff.mpr h
  have htext := map_text_parse? raw
  rw [hopen, if_neg Bool.false_ne_true] at htext
  obtain ⟨d, hd, hsame⟩ := Option.map_eq_some_iff.mp htext
  exact ⟨d, hd, by rw [hsame, hcount ',' (by decide) (by decide)]⟩

/-! ## Two blocks -/

section

variable {front back : List Char}

theorem exists_open_part (h : depthAfter 0 front ≠ 0) (back : List Char) :
    ∃ left p q right, '(' ∈ p ∧ splitTopLevel ',' front = left ++ [p] ∧
      splitTopLevel ',' (front ++ ',' :: back) = left ++ (p ++ ',' :: q) :: right := by
  have hpos : 0 < depthAfter 0 front := Nat.pos_of_ne_zero h
  obtain ⟨left, p, q, right, hfront, -, hwhole⟩ := exists_part_of_pos hpos back
  refine ⟨left, p, q, right, ?_, hfront, hwhole⟩
  obtain ⟨before, inside, rfl, hnever⟩ := depthAfter_pos_iff.mp hpos
  obtain ⟨left', p', -, hlast⟩ := splitTopLevel_neverCloses before hnever
  obtain ⟨-, hp⟩ := List.append_inj' (hfront.symm.trans hlast) rfl
  rw [List.singleton_inj.mp hp]
  simp

/-- **Behind an open parenthesis a comma does not end the last directive**: the directives before
the comma are no beginning of those of the whole. -/
theorem not_prefix_tokenize (hfront : unquote? (trim front) = none)
    (hboth : unquote? (trim (front ++ ',' :: back)) = none) (hdepth : depthAfter 0 front ≠ 0) :
    ¬ tokenize front <+: tokenize (front ++ ',' :: back) := by
  obtain ⟨left, p, q, right, hopen, hparts, hwhole⟩ := exists_open_part hdepth back
  have hrestore : restore (p ++ ',' :: q) = restore p ++ ',' :: restore q := restore_append p _
  have hp : '(' ∈ restore p := List.mem_map.mpr ⟨'(', hopen, by decide⟩
  have hlonger : '(' ∈ restore (p ++ ',' :: q) := by simp [hrestore, hp]
  obtain ⟨d, hd, hcount⟩ := exists_parse? hp
  obtain ⟨d', hd', hcount'⟩ := exists_parse? hlonger
  rw [tokenize_of_unquoted hfront, tokenize_of_unquoted hboth, hparts, hwhole]
  simp only [List.filterMap_append, List.filterMap_cons, hd, hd', List.filterMap_nil]
  rintro ⟨rest, hrest⟩
  rw [List.append_assoc, List.append_cancel_left_eq] at hrest
  obtain rfl : d = d' := (List.cons.inj hrest).1
  -- the longer text has one comma more
  rw [hcount, hrestore, List.count_append, List.count_cons_self] at hcount'
  omega

end

/-! ## Many blocks -/

theorem tokenize_blocks {blocks : List (List Char)}
    (hblocks : ∀ b ∈ blocks, unquote? (trim b) = none)
    (hjoined : unquote? (trim ([','].intercalate blocks)) = none)
    (hdepth : ∀ b ∈ blocks.dropLast, depthAfter 0 b = 0) :
    tokenize ([','].intercalate blocks) = blocks.flatMap tokenize := by
  rcases eq_or_ne blocks [] with rfl | hne
  · rfl
  · rw [tokenize_of_unquoted hjoined, splitTopLevel_joined (by decide) (by decide) hne hdepth,
      List.filterMap_flatMap]
    exact List.flatMap_congr fun b hb => (tokenize_of_unquoted (hblocks b hb)).symm

/-- **Joined blocks have the directives of the blocks.**  Let two texts and the text of both with a
comma between them not stand between quotes.  If nothing is open behind the first one, the
directives of the whole are those of the first text and then those of the second one, whatever else
the two are: empty, blank, with stray parentheses, or with an open one in the second.  If a
parenthesis is left open, the directives of the first text do not even begin those of the whole.  So
any number of such blocks with commas between them have the directives of the blocks, and build what
these build, if only the last block leaves a parenthesis open. -/
theorem blocks_joined :
    (∀ {front back : List Char}, unquote? (trim front) = none → unquote? (trim back) = none →
      unquote? (trim (front ++ ',' :: back)) = none →
      (depthAfter 0 front = 0 →
        tokenize (front ++ ',' :: back) = tokenize front ++ tokenize back) ∧
      (depthAfter 0 front ≠ 0 → ¬ tokenize front <+: tokenize (front ++ ',' :: back))) ∧
    ∀ {blocks : List (List Char)}, (∀ b ∈ blocks, unquote? (trim b) = none) →
      unquote? (trim ([','].intercalate blocks)) = none →
      (∀ b ∈ blocks.dropLast, depthAfter 0 b = 0) →
      tokenize ([','].intercalate blocks) = blocks.flatMap tokenize ∧
        ∀ t, parse t ([','].intercalate blocks) = build t (blocks.flatMap tokenize) := by
  refine ⟨fun hfront hback hboth => ⟨?_, not_prefix_tokenize hfront hboth⟩, ?_⟩
  · intro hdepth
    exact tokenize_append_comma hdepth hfront hback hboth
  · intro blocks hblocks hjoined hdepth
    have htokens := tokenize_blocks hblocks hjoined hdepth
    exact ⟨htokens, fun t => by rw [parse_eq_build, htokens]⟩

/-- A stray parenthesis and an empty entry before the comma, an open parenthesis behind it; an open
one before it; and blank blocks among others. -/
theorem blocks_joined_unbalanced :
    let front := "\u00a0min=1),".toList
    let back := "match=\\(,'x".toList
    let blocks := [front, [], "\t ".toList, back]
    (unquote? (trim front) = none ∧ unquote? (trim back) = none ∧
      unquote? (trim (front ++ ',' :: back)) = none ∧ depthAfter 0 front = 0 ∧
      (tokenize (front ++ ',' :: back)).map (·.text) = ["min=1)".toList, back]) ∧
    (unquote? (trim (back ++ ',' :: front)) = none ∧ depthAfter 0 back ≠ 0 ∧
      ¬ tokenize back <+: tokenize (back ++ ',' :: front)) ∧
    (∀ b ∈ blocks, unquote? (trim b) = none) ∧
    unquote? (trim ([','].intercalate blocks)) = none ∧
    (∀ b ∈ blocks.dropLast, depthAfter 0 b = 0) ∧
    tokenize ([','].intercalate blocks) = tokenize front ++ tokenize back := by
  intro front back blocks
  have hfront : unquote? (trim front) = none := by decide +kernel
  have hback : unquote? (trim back) = none := by decide +kernel
  have hboth : unquote? (trim (front ++ ',' :: back)) = none := by decide +kernel
  have hturned : unquote? (trim (back ++ ',' :: front)) = none := by decide +kernel
  have hblocks : ∀ b ∈ blocks, unquote? (trim b) = none := by decide +kernel
  have hjoined : unquote? (trim ([','].intercalate blocks)) = none := by decide +kernel
  have hclosed : ∀ b ∈ blocks.dropLast, depthAfter 0 b = 0 := by decide +kernel
  have hdepth : depthAfter 0 front = 0 := by decide +kernel
  have hopen : depthAfter 0 back ≠ 0 := by decide +kernel
  obtain ⟨htwo, hmany⟩ := blocks_joined
  refine ⟨⟨hfront, hback, hboth, hdepth, ?_⟩, ⟨hturned, hopen, ?_⟩, hblocks, hjoined, hclosed, ?_⟩
  · rw [(htwo hfront hback hboth).1 hdepth]
    decide +kernel
  · exact (htwo hback hfront hturned).2 hopen
  · rw [(hmany hblocks hjoined hclosed).1]
    have hempty : tokenize [] = [] := rfl
    have hblank : tokenize ['\t', ' '] = [] := by decide +kernel
    simp [blocks, hempty, hblank]

end ShapeCheck
