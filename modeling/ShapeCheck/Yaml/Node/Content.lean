import ShapeCheck.Yaml.Node
import ShapeCheck.Yaml.Schema

/-!
# The content of nodes

`Node.content?` takes the content out of a document and follows its aliases. Lists and mappings nest
at most 128 deep, aliases count, and aliases are followed at most a hundred times as often as there
are nodes and ends of nodes. The keys of a mapping differ.
-/

namespace ShapeCheck.Yaml

/-- A step of taking content out, which counts the aliases that have been followed. -/
abbrev Counted := StateT Nat Option

namespace Node

/-- The node that an alias stands for, or the node itself. -/
def followed (document : Node) (n : Node) : Counted Node :=
  match n with
  | .alias target => do
    let count ← get
    if document.weight * 100 < count + 1 then failure
    else
      set (count + 1)
      (document.target? target : Option Node)
  | n => return n

/-- A content under a tag. Only tags of a document's own are shown. -/
def underTag (tag : Option Tag) (content : Tree) : Tree :=
  match tag.bind Tag.shown? with
  | some t => .tagged t content
  | none => content

/-- The content of a scalar. -/
def scalarContent (p : Properties) (text : String) (plain : Bool) : Counted Tree := do
  let written := if plain then Schema.plain? text else some (.text text)
  match p.tag with
  | none => (written : Option Tree)
  | some tag =>
    if tag.isLocal then return underTag (some tag) (← (written : Option Tree))
    else (Schema.tagged? tag text : Option Tree)

/-- The contents of the pairs of a mapping, in addition to those before. -/
def entryContents (content : Node → Counted Tree) (before : List (Tree × Tree)) :
    List (Node × Node) → Counted (List (Tree × Tree))
  | [] => return before
  | (k, v) :: rest => do
    let key ← content k
    if before.any fun e => key.eqv e.1 then failure
    else
      let value ← content v
      entryContents content (before ++ [(key, value)]) rest

/-- The content of a node, in which lists and mappings may nest so deep. -/
def contentWithin (document : Node) (depth : Nat) (n : Node) : Counted Tree := do
  match ← followed document n with
  | .alias _ => failure
  | .scalar p text plain => scalarContent p text plain
  | .sequence p items =>
    match depth with
    | 0 => failure
    | depth + 1 => return underTag p.tag (.list (← items.mapM (contentWithin document depth)))
  | .mapping p entries =>
    match depth with
    | 0 => failure
    | depth + 1 =>
      return underTag p.tag (.pairs (← entryContents (contentWithin document depth) [] entries))

/-- How deep lists and mappings may nest. -/
def nestingLimit : Nat := 128

/-- The content of a document. -/
def content? (document : Node) : Option Tree :=
  ((contentWithin document nestingLimit document).run 0).map Prod.fst

end Node

end ShapeCheck.Yaml
