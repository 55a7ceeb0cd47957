import Mathlib.Data.Bool.AllAny
import ShapeCheck.Proofs.Pieces

/-!
# Items of lists

Items stand between commas.  A text with a comma is read as a list, any other as a number or a text,
so a single item takes another path than several.

* `Listed` — a text that is read as a list of items; `Listed.params`, `Listed.items` — these are
  the parameters of a call with that text, and the items of an argument, but for a single item that
  reads as a finite number: it is shown as that number;
* `listed_intercalate` — texts joined by commas are read one by one, trimmed and unquoted, unless
  they are quoted as a whole;
* `listed_of_items` — items without quotes are read as they stand.
-/

set_option autoImplicit false

namespace ShapeCheck.Directive

open ShapeCheck.Text

/-! ## Texts that are read as lists -/

/-- A text that is neither quoted nor blank at its ends, and whose parts between commas are read as
items.  Several items have a comma between them, and a single one is the whole text. -/
structure Listed (raw : List Char) (items : List (List Char)) : Prop where
  read : stripQuotes (trim raw) = raw
  parts : Argument.splitItems raw = items
  nonempty : ∀ p ∈ items, p ≠ []
  single : ',' ∉ raw → items = [raw]
  several : ',' ∈ raw → ∀ p, items ≠ [p]

/-- What stands for a single item without commas: the displayed form of the finite number that it
writes, or else the item. -/
def shownItem (p : List Char) : List Char :=
  match (Decimal.readFloat? p).filter Float.isFinite with
  | some x => (Decimal.display x).toList
  | none => p

/-- What stands for items: several are kept as they are. -/
def shownItems : List (List Char) → List (List Char)
  | [p] => [shownItem p]
  | ps => ps

theorem shownItems_of_several {ps : List (List Char)} (h : ∀ p, ps ≠ [p]) : shownItems ps = ps := by
  match ps with
  | [] => rfl
  | [p] => exact absurd rfl (h p)
  | _ :: _ :: _ => rfl

namespace Listed

variable {raw : List Char} {ps : List (List Char)} (h : Listed raw ps)

include h

theorem ne_nil : ps ≠ [] := by
  rw [← h.parts, Argument.splitItems, Ne, List.map_eq_nil_iff]
  exact splitFrom_ne_nil

theorem params (name : List Char) (argument : Argument) :
    Call.params ⟨name, raw, argument⟩ = ps := by
  rw [Call.params]
  split
  · rename_i hblank
    -- a blank text is empty, and an empty text is its only item
    have hraw : raw = [] := by
      rw [← h.read, List.isEmpty_iff.mp hblank]
      rfl
    subst hraw
    have hitem : [] ∈ ps := h.single List.not_mem_nil ▸ List.mem_cons_self
    exact absurd rfl (h.nonempty [] hitem)
  · exact h.parts

theorem items : (Argument.parse raw).items = shownItems ps := by
  have hkept : ps.filter (fun p => !p.isEmpty) = ps := by
    refine List.filter_eq_self.mpr fun p hp => ?_
    rw [Bool.not_eq_true', List.isEmpty_eq_false_iff]
    exact h.nonempty p hp
  rw [Argument.parse, h.read]
  by_cases hcomma : ',' ∈ raw
  · rw [if_pos (List.contains_iff_mem.mpr hcomma), h.parts,
      shownItems_of_several (h.several hcomma)]
    exact hkept
  · rw [if_neg fun hcontains => hcomma (List.contains_iff_mem.mp hcontains), h.single hcomma,
      shownItems, shownItem]
    cases (Decimal.readFloat? raw).filter Float.isFinite with
    | some x => rfl
    | none =>
      have hempty : raw.isEmpty = false := by
        rw [List.isEmpty_eq_false_iff]
        exact h.nonempty raw (h.single hcomma ▸ List.mem_cons_self)
      show (if raw.isEmpty then [] else [raw]) = [raw]
      rw [hempty, if_neg Bool.false_ne_true]

end Listed

/-! ## Joined texts -/

theorem comma_mem_intercalate (p p' : List Char) (ps : List (List Char)) :
    ',' ∈ [','].intercalate (p :: p' :: ps) := by
  rw [intercalate_cons p (List.cons_ne_nil p' ps)]
  exact List.mem_append_right p List.mem_cons_self

/-- A text that is read as an item between the commas of a list. -/
structure ListPart (p : List Char) : Prop where
  comma : ',' ∉ p
  balanced : Balanced p
  ends : VisibleEnds p
  read : stripQuotes (trim p) ≠ []

namespace ListPart

variable {p : List Char} (h : ListPart p)

include h

theorem nonempty : p ≠ [] := by
  rintro rfl
  exact h.read rfl

theorem uncut : Uncut ',' 0 p ∧ depthAfter 0 p = 0 := ⟨uncut_of_not_mem h.comma, h.balanced.depth 0⟩

end ListPart

/-- **Texts joined by commas are read one by one**, trimmed and unquoted, unless they are quoted as
a whole. -/
theorem listed_intercalate {ps : List (List Char)} (hne : ps ≠ []) (h : ∀ p ∈ ps, ListPart p)
    (hquote : unquote? ([','].intercalate ps) = none) :
    Listed ([','].intercalate ps) (ps.map fun p => stripQuotes (trim p)) := by
  have hends : VisibleEnds ([','].intercalate ps) ∧ [','].intercalate ps ≠ [] := by
    refine intercalate_keeps (M := fun p => VisibleEnds p ∧ p ≠ []) ?_ hne
      fun p hp => ⟨(h p hp).ends, (h p hp).nonempty⟩
    rintro p q ⟨hp, hpne⟩ ⟨hq, hqne⟩
    exact ⟨hp.around hq hpne hqne _, List.append_ne_nil_of_right_ne_nil _ hqne⟩
  have hread : stripQuotes (trim ([','].intercalate ps)) = [','].intercalate ps := by
    rw [trim_eq_self hends.1, stripQuotes, hquote, Option.getD_none]
  refine ⟨hread, ?_, List.forall_mem_map.mpr fun p hp => (h p hp).read, fun hcomma => ?_,
    fun hcomma p hp => ?_⟩
  · rw [Argument.splitItems, splitTopLevel_intercalate (by decide) (by decide) hne
      fun p hp => (h p hp).uncut]
  · cases ps with
    | nil => exact absurd rfl hne
    | cons p rest =>
      cases rest with
      | nil =>
        rw [List.intercalate_singleton] at hread ⊢
        rw [List.map_singleton, hread]
      | cons p' rest => exact absurd (comma_mem_intercalate p p' rest) hcomma
  · obtain ⟨single, rfl, -⟩ := List.map_eq_singleton_iff.mp hp
    rw [List.intercalate_singleton] at hcomma
    exact (h single List.mem_cons_self).comma hcomma

/-! ## Items that mean themselves -/

/-- A text that reads the same between the commas of a list. -/
structure Item (p : List Char) : Prop extends Held p where
  comma : ',' ∉ p
  unquoted : Unquoted p

theorem Item.read {p : List Char} (h : Item p) : stripQuotes (trim p) = p := by
  rw [trim_eq_self h.ends, stripQuotes_eq_self h.unquoted]

theorem Item.part {p : List Char} (h : Item p) : ListPart p :=
  ⟨h.comma, h.balanced, h.ends, h.read.symm ▸ h.nonempty⟩

/-- A text without quotes, commas and parentheses, and without blanks at its ends. -/
structure Bare (p : List Char) : Prop where
  nonempty : p ≠ []
  ends : VisibleEnds p
  unreserved : ∀ c ∈ p, c ∉ [',', '(', ')', '"', '\'', unitSeparator]

instance (p : List Char) : Decidable (Bare p) :=
  decidable_of_iff
    (p ≠ [] ∧ VisibleEnds p ∧ p.all (· ∉ [',', '(', ')', '"', '\'', unitSeparator]) = true)
    ⟨fun ⟨nonempty, ends, unreserved⟩ =>
        ⟨nonempty, ends, List.all_iff_forall_prop.mp unreserved⟩,
      fun h => ⟨h.nonempty, h.ends, List.all_iff_forall_prop.mpr h.unreserved⟩⟩

namespace Bare

variable {p : List Char} (h : Bare p)

include h

theorem not_mem {c : Char} (hc : c ∈ [',', '(', ')', '"', '\'', unitSeparator]) : c ∉ p :=
  fun hmem => h.unreserved c hmem hc

theorem balanced : Balanced p :=
  .of_no_paren (h.not_mem (by decide)) (h.not_mem (by decide))

theorem item : Item p where
  balanced := h.balanced
  separator := h.not_mem (by decide)
  ends := h.ends
  nonempty := h.nonempty
  comma := h.not_mem (by decide)
  unquoted := .of_not_mem (h.not_mem (by decide)) (h.not_mem (by decide))

end Bare

section

variable {ps : List (List Char)} (h : ∀ p ∈ ps, Item p) (hne : ps ≠ [])

include h hne

theorem held_intercalate : Held ([','].intercalate ps) := by
  refine intercalate_keeps (fun p q hp hq => hp.around hq ?_ (by decide)) hne
    fun p hp => (h p hp).toHeld
  exact .of_no_paren (by decide) (by decide)

theorem unquoted_intercalate : Unquoted ([','].intercalate ps) :=
  Unquoted.intercalate [','] hne fun p hp => ⟨(h p hp).unquoted, (h p hp).nonempty⟩

/-- **Joined items are read as they are.** -/
theorem listed_of_items : Listed ([','].intercalate ps) ps := by
  have hself : (ps.map fun p => stripQuotes (trim p)) = ps :=
    (List.map_congr_left fun p hp => (h p hp).read).trans (List.map_id' ps)
  have hlisted := listed_intercalate hne (fun p hp => (h p hp).part)
    (unquote?_eq_none (unquoted_intercalate h hne))
  rwa [hself] at hlisted

end

end ShapeCheck.Directive
