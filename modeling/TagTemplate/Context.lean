import TagTemplate.Entries
import TagTemplate.Number

/-! Contexts: the values that a template is rendered with, by name. -/

namespace TagTemplate

/-- How tags of a name are rendered, given the index that the result takes. -/
inductive Renderer (α : Type) where
  /-- Renders a tag with the rendered children. -/
  | element (render : List α → Nat → α)
  /-- Renders a tag without regard to children. -/
  | leaf (render : Nat → α)

namespace Renderer

variable {α : Type}

/-- Renders a tag with children; a leaf renderer passes over them. -/
def renderElement (renderer : Renderer α) (children : List α) (index : Nat) : α :=
  match renderer with
  | element render => render children index
  | leaf render => render index

/-- Renders a tag without children. -/
def renderLeaf (renderer : Renderer α) (index : Nat) : α :=
  match renderer with
  | element render => render [] index
  | leaf render => render index

end Renderer

/-- A value of a context. -/
inductive Value (α : Type) where
  /-- Text that joins the text around it. -/
  | text (content : String)
  /-- A number that joins the text around it in decimal form. -/
  | number (value : Number)
  /-- A way to render the tags of the name. -/
  | renderer (renderer : Renderer α)
  /-- An output value that stands for itself. -/
  | ready (value : α)

/-- Values by name, each name at most once when built by insertion. -/
structure Context (α : Type) where
  entries : List (String × Value α)

namespace Context

variable {α : Type}

/-- The context without values. -/
def empty : Context α :=
  ⟨[]⟩

/-- The value of a name. -/
def get? (context : Context α) (name : String) : Option (Value α) :=
  context.entries.lookup name

/-- Whether a name has a value. -/
def contains (context : Context α) (name : String) : Bool :=
  (context.get? name).isSome

/-- The context with a value put under a name. -/
def insert (context : Context α) (name : String) (value : Value α) : Context α :=
  ⟨Entries.put name value context.entries⟩

/-- An insertion changes what its own name gives, and nothing else. -/
@[simp] theorem get?_insert (context : Context α) (name other : String) (value : Value α) :
    (context.insert name value).get? other =
      if other = name then some value else context.get? other :=
  Entries.lookup_put name other value context.entries

/-- The context of some entries; of entries with the same name the last one counts. -/
def ofEntries (entries : List (String × Value α)) : Context α :=
  entries.foldl (fun context (name, value) => context.insert name value) empty

/-- The number of names. -/
def size (context : Context α) : Nat :=
  context.entries.length

/-- An insertion adds one name, unless the name had a value. -/
theorem size_insert (context : Context α) (name : String) (value : Value α) :
    (context.insert name value).size =
      if context.contains name then context.size else context.size + 1 :=
  Entries.length_put name value context.entries

end Context

end TagTemplate
