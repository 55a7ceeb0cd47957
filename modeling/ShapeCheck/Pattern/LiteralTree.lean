/-!
# Trees of literals

Alternatives that are all texts are read byte by byte along a tree. A place in the tree where a text
ends divides the branches there: those that were added before lead to texts that are preferred to
it, those added later to texts that are not.
-/

namespace ShapeCheck.Pattern

/-- A tree of sequences of bytes. The groups of branches that a text which ends here has closed come
first, the branches that were added since come last, by ascending bytes. -/
inductive LiteralTree where
  | node (closed : List (List (Nat × LiteralTree))) (latest : List (Nat × LiteralTree))

namespace LiteralTree

/-- The tree of nothing. -/
def empty : LiteralTree := .node [] []

/-- Changes the branch of a byte, which is put in if there is none. -/
def branch (change : LiteralTree → LiteralTree) (byte : Nat) :
    List (Nat × LiteralTree) → List (Nat × LiteralTree)
  | [] => [(byte, change empty)]
  | (b, t) :: rest =>
    if b < byte then (b, t) :: branch change byte rest
    else if b = byte then (b, change t) :: rest
    else (byte, change empty) :: (b, t) :: rest

/-- Whether no branch leads on from a tree. -/
def isLeaf : LiteralTree → Bool
  | .node closed latest => closed.all List.isEmpty && latest.isEmpty

/-- Adds a sequence of bytes. -/
def add : List Nat → LiteralTree → LiteralTree
  | [], .node closed latest =>
    if LiteralTree.isLeaf (.node closed latest) && !closed.isEmpty then .node closed latest
    else .node (closed ++ [latest]) []
  | byte :: rest, .node closed latest => .node closed (branch (add rest) byte latest)

/-- The tree of several sequences of bytes. -/
def ofList (texts : List (List Nat)) : LiteralTree := texts.foldl (fun t bytes => t.add bytes) empty

mutual

/-- For each place with branches and each group of them there, the number of its branches. -/
def groups : LiteralTree → List (List Nat)
  | .node closed latest =>
    if LiteralTree.isLeaf (.node closed latest) then []
    else (closed.map List.length ++ [latest.length]) :: (groupsOfAll closed ++ groupsOf latest)

/-- The groups behind branches. -/
def groupsOf : List (Nat × LiteralTree) → List (List Nat)
  | [] => []
  | (_, t) :: rest => t.groups ++ groupsOf rest

/-- The groups behind groups of branches. -/
def groupsOfAll : List (List (Nat × LiteralTree)) → List (List Nat)
  | [] => []
  | branches :: rest => groupsOf branches ++ groupsOfAll rest

end

end LiteralTree

end ShapeCheck.Pattern
