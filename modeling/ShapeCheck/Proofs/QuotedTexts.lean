import ShapeCheck.Proofs.Pieces

/-!
# Texts in quotes of their own

Texts that are quoted one by one and then joined are unquoted as one text first, and only its first
and its last character are looked at.

* `stripQuotes_joined` — so a single text loses its quotes, and several lose the quotes at both ends
  if these are of one kind;
* `stripQuotes_closed`, `stripQuotes_opened` — a text with a quote at one end keeps it;
* `readQuoted_eq_iff` — when the texts that are read are those between the quotes.
-/

set_option autoImplicit false

namespace ShapeCheck

open Directive Text

/-! ## Joined texts in quotes -/

section

variable {q : Char} (hq : q = '"' ∨ q = '\'')

include hq

theorem isBlank_of_quote : isBlank q = false := by
  rcases hq with rfl | rfl <;> decide

theorem ne_of_quote {c : Char} (hc : c ∉ ['"', '\'']) : c ≠ q := by
  rintro rfl
  rcases hq with rfl | rfl <;> exact hc (by decide)

theorem balanced_of_quote : Balanced [q] := .of_no_paren
  (fun hmem => ne_of_quote hq (by decide) (List.mem_singleton.mp hmem))
  fun hmem => ne_of_quote hq (by decide) (List.mem_singleton.mp hmem)

theorem stripQuotes_quote : stripQuotes [q] = [q] := by
  rcases hq with rfl | rfl <;> rfl

variable {text : List Char} (hdouble : '"' ∉ text) (hsingle : '\'' ∉ text)

include hdouble hsingle

theorem stripQuotes_closed : stripQuotes (trim (text ++ [q])) = trim (text ++ [q]) := by
  have htrim : trim (text ++ [q]) = trimStart text ++ [q] :=
    trim_append_cons (isBlank_of_quote hq) text []
  rw [htrim]
  by_cases hblank : trimStart text = []
  · rw [hblank]
    exact stripQuotes_quote hq
  · have hfree : ∀ {c : Char}, c ∉ text → c ∉ trimStart text := fun hc hmem =>
      hc ((trimStart_sublist text).subset hmem)
    have hquote : Unquoted (trimStart text) := .of_not_mem (hfree hdouble) (hfree hsingle)
    exact stripQuotes_eq_self (hquote.append hblank [q])

theorem stripQuotes_opened : stripQuotes (trim (q :: text)) = trim (q :: text) := by
  have htrim : trim (q :: text) = q :: trimEnd text :=
    trim_append_cons (isBlank_of_quote hq) [] text
  rw [htrim]
  by_cases hblank : trimEnd text = []
  · rw [hblank]
    exact stripQuotes_quote hq
  · have hlast : (q :: trimEnd text).getLast? = (trimEnd text).getLast? :=
      List.getLast?_append_of_ne_nil [q] hblank
    rw [stripQuotes, unquote?_of_ends_ne, Option.getD_none]
    rw [hlast, List.head?_cons]
    intro hquote
    have hmem : q ∈ text := (trimEnd_sublist text).subset (List.mem_of_getLast? hquote)
    rcases hq with rfl | rfl
    · exact hdouble hmem
    · exact hsingle hmem

end

/-- A text with the quote that stands before and behind it. -/
structure QuotedItem where
  quote : Char
  text : List Char

namespace QuotedItem

/-- The text between its quotes. -/
def written (i : QuotedItem) : List Char := i.quote :: i.text ++ [i.quote]

variable {i : QuotedItem} (hquote : i.quote = '"' ∨ i.quote = '\'')

include hquote

theorem not_mem_written {c : Char} (hc : c ∉ ['"', '\'']) (htext : c ∉ i.text) : c ∉ i.written := by
  simp only [written, List.mem_append, List.mem_cons, List.not_mem_nil, or_false, not_or]
  exact ⟨⟨ne_of_quote hquote hc, htext⟩, ne_of_quote hquote hc⟩

theorem balanced_written (htext : Balanced i.text) : Balanced i.written :=
  ((balanced_of_quote hquote).append htext).append (balanced_of_quote hquote)

theorem stripQuotes_written : stripQuotes (trim i.written) = i.text := by
  have hends := VisibleEnds.between (isBlank_of_quote hquote) (isBlank_of_quote hquote) i.text
  rw [written, trim_eq_self hends, stripQuotes, unquote?_quoted hquote, Option.getD_some]

end QuotedItem

/-- There are several items, and the first and the last of them have quotes of one kind. -/
def SameOuterQuotes (items : List QuotedItem) : Prop :=
  ∃ q middle, items.map (·.quote) = q :: (middle ++ [q])

theorem not_sameOuterQuotes_single (single : QuotedItem) : ¬ SameOuterQuotes [single] := by
  rintro ⟨q, middle, h⟩
  exact List.append_ne_nil_of_right_ne_nil middle (List.cons_ne_nil q []) (List.cons.inj h).2.symm

theorem sameOuterQuotes_several (first last : QuotedItem) (middle : List QuotedItem) :
    SameOuterQuotes (first :: (middle ++ [last])) ↔ first.quote = last.quote := by
  constructor
  · rintro ⟨q, quotes, h⟩
    rw [List.map_cons, List.map_append, List.map_singleton] at h
    obtain ⟨rfl, hrest⟩ := List.cons.inj h
    exact (List.cons.inj (List.append_inj' hrest rfl).2).1.symm
  · intro h
    exact ⟨first.quote, middle.map (·.quote), by
      rw [List.map_cons, List.map_append, List.map_singleton, h]⟩

theorem exists_first_last {α : Type} {items : List α} (hne : items ≠ []) :
    (∃ single, items = [single]) ∨ ∃ first middle last, items = first :: (middle ++ [last]) := by
  match items, hne with
  | first :: rest, _ =>
    rcases List.eq_nil_or_concat' rest with rfl | ⟨middle, last, rfl⟩
    · exact .inl ⟨first, rfl⟩
    · exact .inr ⟨first, middle, last, rfl⟩

theorem intercalate_concat_append (mark : Char) (p q : List Char) : ∀ ps : List (List Char),
    [mark].intercalate (ps ++ [p ++ q]) = [mark].intercalate (ps ++ [p]) ++ q
  | [] => by rw [List.nil_append, List.nil_append, List.intercalate_singleton,
      List.intercalate_singleton]
  | p' :: ps => by
    have hne : ∀ last : List Char, ps ++ [last] ≠ [] := fun last =>
      List.append_ne_nil_of_right_ne_nil ps (List.cons_ne_nil last [])
    rw [List.cons_append, intercalate_cons p' (hne _), intercalate_concat_append mark p q ps,
      List.cons_append, intercalate_cons p' (hne _), List.append_assoc, List.cons_append]

section

variable {first last : QuotedItem} {middle : List QuotedItem}

/-- What stands between the outer quotes of several items. -/
def innerParts (first last : QuotedItem) (middle : List QuotedItem) : List (List Char) :=
  (first.text ++ [first.quote]) :: (middle.map (·.written) ++ [last.quote :: last.text])

theorem intercalate_written (mark : Char) :
    [mark].intercalate ((first :: (middle ++ [last])).map (·.written)) =
      first.quote :: [mark].intercalate (innerParts first last middle) ++ [last.quote] := by
  have hne : middle.map (·.written) ++ [last.quote :: last.text] ≠ [] :=
    List.append_ne_nil_of_right_ne_nil _ (List.cons_ne_nil _ _)
  have hne' : middle.map (·.written) ++ [last.written] ≠ [] :=
    List.append_ne_nil_of_right_ne_nil _ (List.cons_ne_nil _ _)
  rw [List.map_cons, List.map_append, List.map_singleton, intercalate_cons _ hne',
    show last.written = (last.quote :: last.text) ++ [last.quote] from rfl,
    intercalate_concat_append, innerParts, intercalate_cons _ hne, QuotedItem.written]
  simp only [List.cons_append, List.append_assoc]

/-- Several quoted texts are not quoted as a whole if their outer quotes are of two kinds. -/
theorem unquote?_joined (hdiffer : first.quote ≠ last.quote) (mark : Char) :
    unquote? ([mark].intercalate ((first :: (middle ++ [last])).map (·.written))) = none := by
  rw [intercalate_written]
  refine unquote?_of_ends_ne fun h => hdiffer ?_
  rw [List.getLast?_concat] at h
  exact (Option.some.inj h).symm

/-- **Several quoted texts lose the quotes of the first and the last** if these are of one kind, and
keep them if not. -/
theorem stripQuotes_joined (hfirst : first.quote = '"' ∨ first.quote = '\'')
    (hlast : last.quote = '"' ∨ last.quote = '\'') (mark : Char) :
    stripQuotes (trim ([mark].intercalate ((first :: (middle ++ [last])).map (·.written)))) =
      [mark].intercalate (if first.quote = last.quote then innerParts first last middle
        else (first :: (middle ++ [last])).map (·.written)) := by
  have hends := VisibleEnds.between (isBlank_of_quote hfirst) (isBlank_of_quote hlast)
    ([mark].intercalate (innerParts first last middle))
  rw [← intercalate_written] at hends
  rw [trim_eq_self hends]
  split
  · rename_i hsame
    rw [intercalate_written, ← hsame, stripQuotes, unquote?_quoted hfirst, Option.getD_some]
  · rename_i hdiffer
    rw [stripQuotes, unquote?_joined hdiffer, Option.getD_none]

end

/-! ## What is read between quotes -/

/-- What is read of quoted items: of several between quotes of one kind, the first and the last keep
their inner quote. -/
def readQuoted : List QuotedItem → List (List Char)
  | [] => []
  | first :: rest =>
    match rest.getLast? with
    | none => [first.text]
    | some last =>
      if first.quote = last.quote then
        (first.text ++ [first.quote]) :: (rest.dropLast.map (·.text) ++ [last.quote :: last.text])
      else (first :: rest).map (·.text)

theorem readQuoted_several (first last : QuotedItem) (middle : List QuotedItem) :
    readQuoted (first :: (middle ++ [last])) =
      if first.quote = last.quote then
        (first.text ++ [first.quote]) :: (middle.map (·.text) ++ [last.quote :: last.text])
      else (first :: (middle ++ [last])).map (·.text) := by
  rw [readQuoted, List.getLast?_concat, List.dropLast_concat]

/-- **The items are those between the quotes** unless the first and the last of several have quotes
of one kind. -/
theorem readQuoted_eq_iff {items : List QuotedItem} (hne : items ≠ []) :
    readQuoted items = items.map (·.text) ↔ ¬ SameOuterQuotes items := by
  rcases exists_first_last hne with ⟨single, rfl⟩ | ⟨first, middle, last, rfl⟩
  · exact iff_of_true rfl (not_sameOuterQuotes_single single)
  · rw [readQuoted_several, sameOuterQuotes_several]
    by_cases hsame : first.quote = last.quote
    · rw [if_pos hsame]
      refine iff_of_false (fun h => ?_) (not_not_intro hsame)
      have hfirst : first.text ++ [first.quote] = first.text := (List.cons.inj h).1
      exact List.cons_ne_nil _ _ (List.append_right_eq_self.mp hfirst)
    · rw [if_neg hsame]
      exact iff_of_true rfl hsame

end ShapeCheck
