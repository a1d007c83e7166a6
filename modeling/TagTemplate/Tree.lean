/-! Trees of templates. -/

namespace TagTemplate

/-- A node of a template. -/
inductive Node where
  /-- Literal text. -/
  | text (content : String)
  /-- A place for a value. -/
  | placeholder (name : String)
  /-- A tag that stands for a whole element. -/
  | leaf (name : String)
  /-- An element, with the text of its opening tag. -/
  | element (name opening : String) (children : List Node)

namespace Node

/-- What holds of no nodes, and of nodes if it holds of those behind the first one and of those
inside it, holds of all nodes. -/
@[elab_as_elim]
theorem siblings_induction {motive : List Node → Prop} (nil : motive [])
    (text : ∀ content rest, motive rest → motive (.text content :: rest))
    (placeholder : ∀ name rest, motive rest → motive (.placeholder name :: rest))
    (leaf : ∀ name rest, motive rest → motive (.leaf name :: rest))
    (element : ∀ name opening children rest, motive children → motive rest →
      motive (.element name opening children :: rest)) (nodes : List Node) : motive nodes :=
  match nodes with
  | [] => nil
  | .text content :: rest =>
    text content rest (siblings_induction nil text placeholder leaf element rest)
  | .placeholder name :: rest =>
    placeholder name rest (siblings_induction nil text placeholder leaf element rest)
  | .leaf name :: rest => leaf name rest (siblings_induction nil text placeholder leaf element rest)
  | .element name opening children :: rest =>
    element name opening children rest
      (siblings_induction nil text placeholder leaf element children)
      (siblings_induction nil text placeholder leaf element rest)

end Node

/-- A template as its nodes at the top. -/
structure Tree where
  children : List Node

mutual

/-- How deep the elements of a node are nested, the node itself included. -/
def Node.depth : Node → Nat
  | .text _ => 0
  | .placeholder _ => 0
  | .leaf _ => 0
  | .element _ _ children => Node.deepest children + 1

/-- How deep the elements among some nodes are nested. -/
def Node.deepest : List Node → Nat
  | [] => 0
  | node :: rest => max node.depth (Node.deepest rest)

end

mutual

/-- The names of the tags in a node, in order and with repetitions. -/
def Node.tags : Node → List String
  | .text _ => []
  | .placeholder _ => []
  | .leaf name => [name]
  | .element name _ children => name :: Node.allTags children

/-- The names of the tags among some nodes. -/
def Node.allTags : List Node → List String
  | [] => []
  | node :: rest => node.tags ++ Node.allTags rest

end

namespace Tree

/-- How deep the elements of a tree are nested; zero without elements. -/
def depth (tree : Tree) : Nat :=
  Node.deepest tree.children

/-- A list with a name put in its place, unless it is there. -/
def insertName (name : String) : List String → List String
  | [] => [name]
  | other :: rest =>
    if name = other then other :: rest
    else if name < other then name :: other :: rest
    else other :: insertName name rest

/-- Putting a name in its place adds that name and no other. -/
@[simp] theorem mem_insertName {name other : String} {names : List String} :
    other ∈ insertName name names ↔ other = name ∨ other ∈ names := by
  fun_induction insertName name names <;> simp_all [or_left_comm]

/-- The names of all tags of a tree, each one once, in ascending order. -/
def tagNames (tree : Tree) : List String :=
  -- Each name goes to its place among those that come after it in the tree.
  (Node.allTags tree.children).foldr insertName []

/-- The names listed are those of the tags. -/
theorem mem_tagNames {name : String} {tree : Tree} :
    name ∈ tree.tagNames ↔ name ∈ Node.allTags tree.children := by
  unfold tagNames
  induction Node.allTags tree.children with
  | nil => simp
  | cons tag rest ih => simp [ih]

end Tree

end TagTemplate
