/-!
# Values

The values that are checked, and objects as insertion-ordered maps with a class name. Setting a
property changes no other one (`Object.get?_insert`), and names keep the order in which they first
came (`Object.keys_insert`).
-/

namespace ShapeCheck

/-- The class of an object that derives from nothing (`DEFAULT_CLASS`). -/
def plainClass : String := "Object"

/-- A map from names to values of `α` that keeps the order of first insertion. -/
structure Object (α : Type) where
  className : String := plainClass
  properties : List (String × α) := []
  deriving Repr

namespace Object

variable {α : Type}

/-- The object of a class without properties. -/
def ofClass (className : String) : Object α := ⟨className, []⟩

/-- Puts a property at the end of a list, or in the place of the property of the same name. -/
def insertInto (key : String) (value : α) : List (String × α) → List (String × α)
  | [] => [(key, value)]
  | (k, v) :: rest =>
    if k = key then (k, value) :: rest else (k, v) :: insertInto key value rest

/-- Sets a property: a new name goes to the end, a known one keeps its place (`Object::insert`). -/
def insert (o : Object α) (key : String) (value : α) : Object α :=
  { o with properties := insertInto key value o.properties }

/-- The value of a property (`Object::get`). -/
def get? (o : Object α) (key : String) : Option α := o.properties.lookup key

/-- Whether an object has a property of its own (`contains_key`). -/
def contains (o : Object α) (key : String) : Bool := (o.get? key).isSome

/-- The number of properties (`Object::len`). -/
def size (o : Object α) : Nat := o.properties.length

/-- Whether there are no properties. -/
def isEmpty (o : Object α) : Bool := o.properties.isEmpty

/-- The names of the properties in order. -/
def keys (o : Object α) : List String := o.properties.map Prod.fst

/-- The plain object that arises from inserting pairs in order (`from_iter`). -/
def ofList (pairs : List (String × α)) : Object α :=
  pairs.foldl (fun o (key, value) => o.insert key value) (ofClass plainClass)

theorem lookup_insertInto (key name : String) (value : α) (properties : List (String × α)) :
    (insertInto key value properties).lookup name =
      if name = key then some value else properties.lookup name := by
  induction properties with
  | nil =>
    by_cases h : name = key
    · subst h
      simp [insertInto]
    · have hb : (name == key) = false := by simpa using h
      simp [insertInto, List.lookup_cons, h, hb]
  | cons property rest ih =>
    obtain ⟨k, v⟩ := property
    by_cases hk : k = key
    · subst hk
      by_cases h : name = k
      · subst h
        simp [insertInto]
      · have hb : (name == k) = false := by simpa using h
        simp [insertInto, List.lookup_cons, h, hb]
    · by_cases h : name = k
      · subst h
        simp [insertInto, hk]
      · have hb : (name == k) = false := by simpa using h
        simp only [insertInto, hk, if_false, List.lookup_cons, hb, ih]

/-- A property that was set has its value, and every other one keeps its own. -/
theorem get?_insert (o : Object α) (key name : String) (value : α) :
    (o.insert key value).get? name = if name = key then some value else o.get? name :=
  lookup_insertInto key name value o.properties

theorem className_insert (o : Object α) (key : String) (value : α) :
    (o.insert key value).className = o.className := rfl

/-- A known name keeps its place, and a new one goes to the end. -/
theorem keys_insert (o : Object α) (key : String) (value : α) :
    (o.insert key value).keys = if key ∈ o.keys then o.keys else o.keys ++ [key] := by
  obtain ⟨className, properties⟩ := o
  show (insertInto key value properties).map Prod.fst =
    if key ∈ properties.map Prod.fst then properties.map Prod.fst
    else properties.map Prod.fst ++ [key]
  induction properties with
  | nil => rfl
  | cons property rest ih =>
    obtain ⟨k, v⟩ := property
    by_cases hk : k = key
    · subst hk
      simp [insertInto]
    · rw [insertInto, if_neg hk, List.map_cons, ih]
      have hne : ¬ key = k := fun h => hk h.symm
      by_cases hm : key ∈ rest.map Prod.fst
      · rw [if_pos hm, List.map_cons, if_pos (List.mem_cons_of_mem k hm)]
      · rw [if_neg hm, List.map_cons, if_neg (by simpa [hne] using hm), List.cons_append]

end Object

/-- A value to be checked. -/
inductive Value where
  | null
  | bool (flag : Bool)
  | number (x : Float)
  | string (s : String)
  | array (items : List Value)
  | object (o : Object Value)
  | regex (source : String)

namespace Value

/-- Whether a value counts as true where a flag is asked for (`is_truthy`). -/
def isTruthy : Value → Bool
  | .null => false
  | .bool flag => flag
  | .number x => x != 0.0 && !x.isNaN
  | .string s => !s.isEmpty
  | .array _ => true
  | .object _ => true
  | .regex _ => true

mutual

/-- Equality of values: numbers compare as doubles, objects by class and by properties in order. -/
def eqv : Value → Value → Bool
  | .null, .null => true
  | .bool a, .bool b => a == b
  | .number a, .number b => a == b
  | .string a, .string b => a == b
  | .array a, .array b => eqvItems a b
  | .object a, .object b => eqvObject a b
  | .regex a, .regex b => a == b
  | _, _ => false

/-- Equality of lists of values. -/
def eqvItems : List Value → List Value → Bool
  | [], [] => true
  | a :: as, b :: bs => eqv a b && eqvItems as bs
  | _, _ => false

/-- Equality of objects. -/
def eqvObject : Object Value → Object Value → Bool
  | ⟨c, ps⟩, ⟨d, qs⟩ => c == d && eqvProperties ps qs

/-- Equality of lists of properties. -/
def eqvProperties : List (String × Value) → List (String × Value) → Bool
  | [], [] => true
  | (k, v) :: ps, (l, w) :: qs => k == l && eqv v w && eqvProperties ps qs
  | _, _ => false

end

instance : BEq Value := ⟨eqv⟩

end Value

end ShapeCheck
