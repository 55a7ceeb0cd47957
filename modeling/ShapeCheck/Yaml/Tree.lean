/-!
# Trees

The content of a YAML document. Whole numbers are kept apart from others, and pairs keep their
order.
-/

namespace ShapeCheck.Yaml

/-- The content of a node. -/
inductive Tree where
  | null
  | bool (flag : Bool)
  | whole (n : Int)
  | real (x : Float)
  | text (s : String)
  | list (items : List Tree)
  | pairs (entries : List (Tree × Tree))
  | tagged (tag : String) (content : Tree)

namespace Tree

/-- Equality of numbers that are not whole: not-a-number equals itself. -/
def realEq (x y : Float) : Bool := x == y || (x.isNaN && y.isNaN)

mutual

/-- Equality of trees. The order of pairs does not count. -/
def eqv : Tree → Tree → Bool
  | .null, .null => true
  | .bool a, .bool b => a == b
  | .whole a, .whole b => a == b
  | .real a, .real b => realEq a b
  | .text a, .text b => a == b
  | .list a, .list b => eqvItems a b
  | .pairs a, .pairs b => a.length == b.length && eqvPairs a b
  | .tagged a s, .tagged b t => a == b && eqv s t
  | _, _ => false

/-- Equality of lists of trees. -/
def eqvItems : List Tree → List Tree → Bool
  | [], [] => true
  | a :: as, b :: bs => eqv a b && eqvItems as bs
  | _, _ => false

/-- Whether each pair of the first list has an equal one in the second. -/
def eqvPairs : List (Tree × Tree) → List (Tree × Tree) → Bool
  | [], _ => true
  | (k, v) :: rest, bs => (bs.any fun b => eqv k b.1 && eqv v b.2) && eqvPairs rest bs

end

end Tree

end ShapeCheck.Yaml
