import Mathlib.Data.Finset.Card
import ShapeCheck.Value.Basic

/-!
# The order of insertion

An object holds what was inserted into it: each name once, where it first came, with the value that
came last.

* `LastInserted` — the value of the last insertion of a name;
* `Object.IsMapOf` — an object holds the last values, in the order of the first insertions;
* `IsMapOf.eq` — there is one such object for a class;
* `IsMapOf.insert`, `isMapOf_run` — one insertion keeps to that, and so does every sequence of
  operations on an object.
-/

set_option autoImplicit false

namespace ShapeCheck

/-! ## Sequences of insertions -/

/-- The last insertion of a name is that of a value. -/
def LastInserted {α : Type} (pairs : List (String × α)) (key : String) (value : α) : Prop :=
  ∃ before after, pairs = before ++ (key, value) :: after ∧ key ∉ after.map Prod.fst

section

variable {α : Type} {pairs : List (String × α)} {key : String} {value : α}

theorem lastInserted_concat {name : String} {last : α} :
    LastInserted (pairs ++ [(name, last)]) key value ↔
      if key = name then value = last else LastInserted pairs key value := by
  constructor
  · rintro ⟨before, after, heq, hafter⟩
    rcases List.eq_nil_or_concat after with rfl | ⟨after, p, rfl⟩
    · obtain ⟨rfl, hpair⟩ := List.append_inj' heq rfl
      obtain ⟨rfl, rfl⟩ := Prod.mk.inj (List.cons.inj hpair).1
      rw [if_pos rfl]
    · rw [List.concat_eq_append] at heq hafter
      rw [← List.cons_append, ← List.append_assoc] at heq
      obtain ⟨rfl, hp⟩ := List.append_inj' heq rfl
      obtain rfl := (List.cons.inj hp).1
      rw [List.map_append, List.mem_append, not_or] at hafter
      rw [if_neg fun h => hafter.2 (by simp [h])]
      exact ⟨before, after, rfl, hafter.1⟩
  · split
    · rename_i hname
      rintro rfl
      exact ⟨pairs, [], by rw [hname], List.not_mem_nil⟩
    · rename_i hname
      rintro ⟨before, after, rfl, hafter⟩
      refine ⟨before, after ++ [(name, last)], by simp, ?_⟩
      rw [List.map_append, List.mem_append, not_or]
      exact ⟨hafter, fun hmem => hname (List.mem_singleton.mp hmem)⟩

theorem exists_lastInserted_iff : (∃ value, LastInserted pairs key value) ↔
    key ∈ pairs.map Prod.fst := by
  induction pairs using List.reverseRecOn with
  | nil => simp [LastInserted]
  | append_singleton pairs p ih =>
    obtain ⟨name, last⟩ := p
    simp only [lastInserted_concat, List.map_append, List.mem_append, ← ih]
    by_cases hkey : key = name <;> simp [hkey]

end

namespace Object

variable {α : Type} {o : Object α} {pairs : List (String × α)}

/-- An object is the map of a sequence of insertions: it has the names that were inserted, in the
order of their first insertions, with the values of their last ones. -/
structure IsMapOf (o : Object α) (pairs : List (String × α)) : Prop where
  mem_keys : ∀ key, key ∈ o.keys ↔ key ∈ pairs.map Prod.fst
  ordered : o.keys.Pairwise fun a b =>
    (pairs.map Prod.fst).idxOf a < (pairs.map Prod.fst).idxOf b
  get?_iff : ∀ key value, o.get? key = some value ↔ LastInserted pairs key value

theorem isMapOf_ofClass (className : String) : (ofClass className : Object α).IsMapOf [] where
  mem_keys _ := Iff.rfl
  ordered := List.Pairwise.nil
  get?_iff key value := by
    have hnone : (ofClass className : Object α).get? key = none := rfl
    simp [hnone, LastInserted]

/-- **One more insertion** into an object is one more insertion of its sequence. -/
theorem IsMapOf.insert (h : o.IsMapOf pairs) (key : String) (value : α) :
    (o.insert key value).IsMapOf (pairs ++ [(key, value)]) where
  mem_keys k := by
    have hk := h.mem_keys k
    rw [keys_insert, List.map_append, List.mem_append, ← hk]
    split
    · rename_i hkey
      simp only [List.map_cons, List.map_nil, List.mem_singleton]
      exact ⟨Or.inl, fun hor => hor.elim id fun heq => heq ▸ hkey⟩
    · simp
  ordered := by
    have hkept : ∀ k ∈ o.keys, ((pairs ++ [(key, value)]).map Prod.fst).idxOf k =
        (pairs.map Prod.fst).idxOf k := fun k hk => by
      rw [List.map_append, List.idxOf_append_of_mem ((h.mem_keys k).mp hk)]
    have hold : o.keys.Pairwise fun a b => ((pairs ++ [(key, value)]).map Prod.fst).idxOf a <
        ((pairs ++ [(key, value)]).map Prod.fst).idxOf b :=
      h.ordered.imp_of_mem fun ha hb hlt => by rwa [hkept _ ha, hkept _ hb]
    rw [keys_insert]
    split
    · exact hold
    · rename_i hkey
      refine List.pairwise_append.mpr ⟨hold, List.pairwise_singleton _ key, fun a ha b hb => ?_⟩
      -- the new name is behind all others
      obtain rfl := List.mem_singleton.mp hb
      have hnew : b ∉ pairs.map Prod.fst := fun hmem => hkey ((h.mem_keys b).mpr hmem)
      have hlt := List.idxOf_lt_length_of_mem ((h.mem_keys a).mp ha)
      rw [hkept a ha, List.map_append, List.idxOf_append_of_notMem hnew]
      omega
  get?_iff k v := by
    rw [get?_insert, lastInserted_concat]
    by_cases hk : k = key
    · rw [if_pos hk, if_pos hk, Option.some_inj]
      exact eq_comm
    · rw [if_neg hk, if_neg hk, h.get?_iff]

theorem IsMapOf.foldl_insert : ∀ {new pairs : List (String × α)} {o : Object α}, o.IsMapOf pairs →
    (new.foldl (fun o (key, value) => o.insert key value) o).IsMapOf (pairs ++ new)
  | [], pairs, o, h => by rwa [List.append_nil]
  | (key, value) :: new, pairs, o, h => by
    have hnext : (new.foldl (fun o (key, value) => o.insert key value) (o.insert key value)).IsMapOf
        (pairs ++ [(key, value)] ++ new) := (h.insert key value).foldl_insert
    rwa [List.append_assoc] at hnext

theorem isMapOf_ofList (pairs : List (String × α)) : (ofList pairs).IsMapOf pairs :=
  (isMapOf_ofClass plainClass).foldl_insert

/-! ## What an object shows of its insertions -/

namespace IsMapOf

variable (h : o.IsMapOf pairs)

include h

theorem nodup : o.keys.Nodup := by
  refine List.Pairwise.imp (fun {a b} hlt => ?_) h.ordered
  rintro rfl
  exact Nat.lt_irrefl _ hlt

theorem get?_eq_none_iff (key : String) : o.get? key = none ↔ key ∉ pairs.map Prod.fst := by
  rw [← exists_lastInserted_iff, Option.eq_none_iff_forall_ne_some, not_exists]
  exact forall_congr' fun value => not_congr (h.get?_iff key value)

theorem contains_iff (key : String) : o.contains key = true ↔ key ∈ pairs.map Prod.fst := by
  rw [contains, ← Option.ne_none_iff_isSome, Ne, h.get?_eq_none_iff, not_not]

theorem contains_eq (key : String) : o.contains key = (pairs.map Prod.fst).contains key := by
  rw [Bool.eq_iff_iff, h.contains_iff, List.contains_iff_mem]

theorem size_eq : o.size = (pairs.map Prod.fst).toFinset.card := by
  have hkeys : o.keys.toFinset = (pairs.map Prod.fst).toFinset := by
    ext key
    rw [List.mem_toFinset, List.mem_toFinset, h.mem_keys]
  rw [← hkeys, List.toFinset_card_of_nodup h.nodup, keys, List.length_map, size]

theorem isEmpty_iff : o.isEmpty = true ↔ pairs = [] := by
  have hkeys : o.keys = [] ↔ pairs.map Prod.fst = [] := by
    simp only [List.eq_nil_iff_forall_not_mem, h.mem_keys]
  rw [isEmpty, List.isEmpty_iff, ← List.map_eq_nil_iff (f := Prod.fst), ← keys, hkeys,
    List.map_eq_nil_iff]

theorem mem_properties_iff (key : String) (value : α) :
    (key, value) ∈ o.properties ↔ LastInserted pairs key value := by
  rw [← h.get?_iff, get?, List.lookup_eq_some_iff]
  constructor
  · intro hmem
    obtain ⟨before, after, heq⟩ := List.append_of_mem hmem
    refine ⟨before, after, heq, fun p hp => ?_⟩
    have hnodup := h.nodup
    rw [keys, heq, List.map_append, List.map_cons, List.nodup_append] at hnodup
    have hne := hnodup.2.2 p.1 (List.mem_map_of_mem hp) key List.mem_cons_self
    exact bne_iff_ne.mpr hne.symm
  · rintro ⟨before, after, heq, -⟩
    rw [heq]
    exact List.mem_append_right before List.mem_cons_self

theorem properties_ordered : o.properties.Pairwise fun p q =>
    (pairs.map Prod.fst).idxOf p.1 < (pairs.map Prod.fst).idxOf q.1 := by
  have hordered := h.ordered
  rwa [keys, List.pairwise_map] at hordered

/-- **There is no other map** of the same insertions into an object of the same class. -/
theorem eq {o' : Object α} (h' : o'.IsMapOf pairs) (hclass : o.className = o'.className) :
    o = o' := by
  have hperm : o.properties.Perm o'.properties := by
    have hnodup : ∀ {o : Object α}, o.IsMapOf pairs → o.properties.Nodup := fun h =>
      List.Nodup.of_map Prod.fst h.nodup
    refine (List.perm_ext_iff_of_nodup (hnodup h) (hnodup h')).mpr fun p => ?_
    rw [h.mem_properties_iff, h'.mem_properties_iff]
  have hproperties : o.properties = o'.properties :=
    hperm.eq_of_pairwise (fun _ _ _ _ hlt hgt => absurd hgt (Nat.lt_asymm hlt))
      h.properties_ordered h'.properties_ordered
  obtain ⟨className, properties⟩ := o
  obtain ⟨className', properties'⟩ := o'
  obtain rfl : className = className' := hclass
  obtain rfl : properties = properties' := hproperties
  rfl

end IsMapOf

/-! ## Operations -/

/-- What is done with an object: `insert` sets a property of the object, `adjoin` gives the object
with a property set, and `collect` makes an object of pairs in its place. -/
inductive Operation (α : Type) where
  | insert (key : String) (value : α)
  | adjoin (key : String) (value : α)
  | collect (pairs : List (String × α))

namespace Operation

/-- The object after an operation. -/
def apply (o : Object α) : Operation α → Object α
  | .insert key value => o.insert key value
  | .adjoin key value => o.insert key value
  | .collect pairs => ofList pairs

/-- The insertions into the object that there is after an operation. -/
def record (pairs : List (String × α)) : Operation α → List (String × α)
  | .insert key value => pairs ++ [(key, value)]
  | .adjoin key value => pairs ++ [(key, value)]
  | .collect new => new

/-- Whether an operation makes a new object. -/
def isCollect : Operation α → Bool
  | .collect _ => true
  | _ => false

end Operation

/-- The object after operations on an object of a class without properties. -/
def run (className : String) (ops : List (Operation α)) : Object α :=
  ops.foldl Operation.apply (ofClass className)

/-- The insertions into the object that there is after operations. -/
def written (ops : List (Operation α)) : List (String × α) := ops.foldl Operation.record []

theorem IsMapOf.apply (h : o.IsMapOf pairs) (op : Operation α) :
    (op.apply o).IsMapOf (op.record pairs) := by
  cases op with
  | insert key value => exact h.insert key value
  | adjoin key value => exact h.insert key value
  | collect new => exact isMapOf_ofList new

/-- **After every sequence of operations** an object is the map of the insertions into it. -/
theorem isMapOf_run (className : String) (ops : List (Operation α)) :
    (run className ops).IsMapOf (written ops) := by
  have hfoldl : ∀ (ops : List (Operation α)) {o : Object α} {pairs : List (String × α)},
      o.IsMapOf pairs →
        (ops.foldl Operation.apply o).IsMapOf (ops.foldl Operation.record pairs) := by
    intro ops
    induction ops with
    | nil => exact fun h => h
    | cons op ops ih => exact fun h => ih (h.apply op)
  exact hfoldl ops (isMapOf_ofClass className)

theorem className_foldl_insert : ∀ (pairs : List (String × α)) (o : Object α),
    (pairs.foldl (fun o (key, value) => o.insert key value) o).className = o.className
  | [], _ => rfl
  | (key, value) :: pairs, o => className_foldl_insert pairs (o.insert key value)

theorem className_apply (o : Object α) (op : Operation α) :
    (op.apply o).className = if op.isCollect then plainClass else o.className := by
  cases op with
  | insert key value => rfl
  | adjoin key value => rfl
  | collect pairs => exact className_foldl_insert pairs (ofClass plainClass)

theorem className_run (className : String) (ops : List (Operation α)) :
    (run className ops).className =
      if ops.any Operation.isCollect then plainClass else className := by
  induction ops using List.reverseRecOn with
  | nil => rfl
  | append_singleton ops op ih =>
    rw [run, List.foldl_append, List.foldl_cons, List.foldl_nil, ← run, className_apply, ih,
      List.any_append, List.any_cons, List.any_nil, Bool.or_false]
    cases op.isCollect <;> simp

theorem getElem?_keys_insert {i : Nat} {other : String} (hi : o.keys[i]? = some other)
    (key : String) (value : α) : (o.insert key value).keys[i]? = some other := by
  rw [keys_insert]
  split
  · exact hi
  · obtain ⟨hlt, -⟩ := List.getElem?_eq_some_iff.mp hi
    rw [List.getElem?_append_left hlt, hi]

end Object

end ShapeCheck
