import ShapeCheck.Yaml.Tag

/-!
# Nodes of YAML

The structure of a document, in which an alias names the node that it stands for by a number.
-/

namespace ShapeCheck.Yaml

/-- What may stand before a node: the number that aliases know it by, and its tag. -/
structure Properties where
  anchor : Option Nat := none
  tag : Option Tag := none
  deriving DecidableEq, Repr

/-- A node. -/
inductive Node where
  | alias (target : Nat)
  | scalar (properties : Properties) (text : String) (plain : Bool)
  | sequence (properties : Properties) (items : List Node)
  | mapping (properties : Properties) (entries : List (Node × Node))
  deriving Repr

namespace Node

/-- The node of a place where nothing is written. -/
def empty : Node := .scalar {} "" true

mutual

/-- The number of nodes and ends of nodes in a node. -/
def weight : Node → Nat
  | .alias _ => 1
  | .scalar _ _ _ => 1
  | .sequence _ items => 2 + weightItems items
  | .mapping _ entries => 2 + weightEntries entries

/-- The number of nodes and ends in a list. -/
def weightItems : List Node → Nat
  | [] => 0
  | n :: rest => weight n + weightItems rest

/-- The number of nodes and ends in a list of pairs. -/
def weightEntries : List (Node × Node) → Nat
  | [] => 0
  | (k, v) :: rest => weight k + weight v + weightEntries rest

end

/-- A node under the number that aliases know it by. -/
def known (p : Properties) (n : Node) : List (Nat × Node) :=
  match p.anchor with
  | some target => [(target, n)]
  | none => []

mutual

/-- The nodes that aliases may stand for, in the order of the text. -/
def anchored : Node → List (Nat × Node)
  | .alias _ => []
  | .scalar p text plain => known p (.scalar p text plain)
  | .sequence p items => known p (.sequence p items) ++ anchoredItems items
  | .mapping p entries => known p (.mapping p entries) ++ anchoredEntries entries

/-- The nodes of a list that aliases may stand for. -/
def anchoredItems : List Node → List (Nat × Node)
  | [] => []
  | n :: rest => anchored n ++ anchoredItems rest

/-- The nodes of a list of pairs that aliases may stand for. -/
def anchoredEntries : List (Node × Node) → List (Nat × Node)
  | [] => []
  | (k, v) :: rest => anchored k ++ (anchored v ++ anchoredEntries rest)

end

/-- What an alias of a document stands for: of the nodes that share a number, the last. -/
def target? (document : Node) (target : Nat) : Option Node :=
  (document.anchored.reverse).lookup target

end Node

end ShapeCheck.Yaml
