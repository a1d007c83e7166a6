import TagTemplate.Proofs.Render.Items
import TagTemplate.Proofs.Tree.Levels

/-! Every call that rendering makes is told the index of its own result, and the call of an element
is given what the calls below it return. -/

namespace TagTemplate

variable {α : Type}

/-- An output value as the call that makes it, with all that the call is told. -/
inductive Call (α : Type) where
  /-- Text is wrapped. -/
  | wrap (wrapText : String → Nat → α) (text : String) (index : Nat)
  /-- An element renderer is called with the calls that make the children. -/
  | element (render : List α → Nat → α) (children : List (Call α)) (index : Nat)
  /-- A leaf renderer is called. -/
  | leaf (render : Nat → α) (index : Nat)
  /-- The handler of missing names is called with the calls that make the children. -/
  | missing (handle : String → List α → Nat → α) (name : String) (children : List (Call α))
    (index : Nat)
  /-- There is no call, since the context has the value itself. -/
  | ready (value : α)

namespace Call

mutual

/-- What a call returns. -/
def value : Call α → α
  | wrap wrapText text index => wrapText text index
  | element render children index => render (values children) index
  | leaf render index => render index
  | missing handle name children index => handle name (values children) index
  | ready value => value

/-- What calls return, in order. -/
def values : List (Call α) → List α
  | [] => []
  | call :: rest => call.value :: values rest

end

/-- The values of calls are those of each call. -/
theorem values_eq_map (calls : List (Call α)) : values calls = calls.map value := by
  -- The function for lists stands beside the one for calls, so it has a recursion of its own.
  induction calls with
  | nil => rfl
  | cons call rest ih => rw [values, ih, List.map_cons]

/-- The index that a call is told; a value of the context is told none. -/
def index? : Call α → Option Nat
  | wrap _ _ index => some index
  | element _ _ index => some index
  | leaf _ index => some index
  | missing _ _ _ index => some index
  | ready _ => none

/-- The calls that make the children that a call is given. -/
def children : Call α → List (Call α)
  | element _ children _ => children
  | missing _ _ children _ => children
  | _ => []

end Call

/-- The renderer that returns the call of a renderer. -/
def Renderer.traced : Renderer α → Renderer (Call α)
  | element render => element (Call.element render)
  | leaf render => leaf (Call.leaf render)

/-- The value that has calls in place of output values. -/
def Value.traced : Value α → Value (Call α)
  | text content => text content
  | number value => number value
  | renderer made => renderer made.traced
  | ready value => ready (Call.ready value)

namespace Renderer

/-- The call of a renderer for a tag, of the index that it is told. A leaf renderer is not given the
children. -/
def call (renderer : Renderer α) (children : List (Call α)) : Nat → Call α :=
  match renderer with
  | element render => Call.element render children
  | leaf render => Call.leaf render

/-- Rendering an element with a traced renderer makes its call. -/
theorem renderElement_traced (renderer : Renderer α) (children : List (Call α)) :
    renderer.traced.renderElement children = renderer.call children := by
  -- A leaf renderer passes over the children, traced or not.
  cases renderer <;> rfl

/-- Rendering a tag without children with a traced renderer makes the call without children. -/
theorem renderLeaf_traced (renderer : Renderer α) :
    renderer.traced.renderLeaf = renderer.call [] := by
  -- An element renderer is called with no children, whether it is traced or not.
  cases renderer <;> rfl

/-- The call of an element has the value that the renderer gives. -/
theorem value_renderElement (renderer : Renderer α) (children : List (Call α)) (index : Nat) :
    (renderer.traced.renderElement children index).value =
      renderer.renderElement (children.map Call.value) index := by
  -- The call keeps the calls of the children, of which the renderer gets the values.
  cases renderer <;> simp [traced, renderElement, Call.value, Call.values_eq_map]

/-- The call of a leaf has the value that the renderer gives. -/
theorem value_renderLeaf (renderer : Renderer α) (index : Nat) :
    (renderer.traced.renderLeaf index).value = renderer.renderLeaf index := by
  cases renderer <;> simp [traced, renderLeaf, Call.value, Call.values]

end Renderer

/-- The context that has calls in place of output values. -/
def Context.traced (context : Context α) : Context (Call α) :=
  ⟨context.entries.map fun (name, value) => (name, value.traced)⟩

/-- The configuration whose functions return their own calls. -/
def Config.traced (config : Config α) : Config (Call α) where
  markup := config.markup
  closes := config.closes
  wrapText := Call.wrap config.wrapText
  missing := config.missing.map Call.missing

/-- The calls that make the output of a tree: what the tree is rendered to if every function returns
its own call. -/
def Tree.calls (tree : Tree) (config : Config α) (context : Context α) : List (Call α) :=
  tree.render config.traced context.traced

namespace Context

/-- Names have the traced values in a traced context. -/
theorem get?_traced (context : Context α) (name : String) :
    context.traced.get? name = (context.get? name).map Value.traced :=
  Entries.lookup_map Value.traced name context.entries

end Context

namespace Level

variable {config : Config α} {context : Context α}

/-- The level with the values of its calls. -/
def value (level : Level (Call α)) : Level α :=
  ⟨level.output.map Call.value, level.waiting⟩

/-- The values of calls take the same indices. -/
theorem index_value (level : Level (Call α)) : level.value.index = level.index := by
  simp [value, index]

/-- Ending a run of text adds the value of the call that wraps it. -/
theorem value_flush (level : Level (Call α)) :
    (level.flush config.traced).value = level.value.flush config := by
  obtain ⟨output, waiting⟩ := level
  -- Without a run there is nothing to add; a run is wrapped with the index that the output has so
  -- far, which the values do not change.
  cases waiting with
  | nil => rfl
  | cons last others => simp [flush, value, index, Config.traced, Call.value]

/-- Adding a call adds its value. -/
theorem value_push (level : Level (Call α)) (call : Call α) :
    (level.push call).value = level.value.push call.value :=
  rfl

/-- A missing name adds the value of the call of its handler, if there is one. -/
theorem value_miss (level : Level (Call α)) (name : String) (children : List (Call α)) :
    (level.miss config.traced name children).value =
      level.value.miss config name (children.map Call.value) := by
  cases handler : config.missing with
  | none => simp [miss, Config.traced, handler]
  | some handle =>
    -- The handler is told an index after the run of text has ended, here and in the trace.
    have traced : config.traced.missing = some (Call.missing handle) := by
      simp [Config.traced, handler]
    simp only [miss, traced, handler, value_push, Call.value, Call.values_eq_map]
    rw [← value_flush, index_value]

/-- A placeholder adds the values of the calls that it makes. -/
theorem value_placeholder (level : Level (Call α)) (name : String) :
    (level.placeholder config.traced context.traced name).value =
      level.value.placeholder config context name := by
  simp only [placeholder, context.get?_traced]
  -- The traced context has a value of the same kind, so both levels take the same branch.
  cases context.get? name with
  | none => exact value_miss level name []
  | some found =>
    cases found with
    | text content => rfl
    | number number => rfl
    | renderer renderer => exact value_flush level
    | ready value =>
      -- A value of the context goes behind the run of text that it ends.
      have flushed : (level.flush config.traced).value = level.value.flush config :=
        level.value_flush
      simp only [Option.map_some, Value.traced, value_push, Call.value, flushed]

/-- A tag without children adds the value of the call that it makes. -/
theorem value_leaf (level : Level (Call α)) (name : String) :
    (level.leaf config.traced context.traced name).value =
      level.value.leaf config context name := by
  -- The run of text ends first, whatever the name leaves.
  simp only [leaf, context.get?_traced, ← value_flush]
  cases context.get? name with
  | none => exact value_miss _ name []
  | some found =>
    cases found with
    | renderer renderer =>
      simp only [Option.map_some, Value.traced, value_push, renderer.value_renderLeaf, index_value]
    -- Values of other kinds leave the tag to the handler, on both sides.
    | _ => exact value_miss _ name []

/-- A tag with children adds the value of the call that it makes. -/
theorem value_element (level : Level (Call α)) (name : String) (children : List (Call α)) :
    (level.element config.traced context.traced name children).value =
      level.value.element config context name (children.map Call.value) := by
  -- As for a tag without children, and the renderer gets the values of the given calls.
  simp only [element, context.get?_traced, ← value_flush]
  cases context.get? name with
  | none => exact value_miss _ name children
  | some found =>
    cases found with
    | renderer renderer =>
      simp only [Option.map_some, Value.traced, value_push, renderer.value_renderElement,
        index_value]
    | _ => exact value_miss _ name children

/-- A finished level has the values of its calls as output. -/
theorem map_value_finish (level : Level (Call α)) :
    (level.finish config.traced).map Call.value = level.value.finish config := by
  -- The output is kept with its last value first, so both lists are reversed.
  rw [finish, finish, ← value_flush, value, List.map_reverse]

/-- Rendering nodes adds the values of the calls that they make. -/
theorem value_renderAll (nodes : List Node) (level : Level (Call α)) :
    (Node.renderAll config.traced context.traced level nodes).value =
      Node.renderAll config context level.value nodes := by
  -- Each node is one operation of the level, and an element renders a level of its own first.
  induction nodes using Node.siblings_induction generalizing level with
  | nil => rfl
  | text content rest ih => exact ih _
  | placeholder name rest ih =>
    simp only [Node.renderAll, Node.render, ih, value_placeholder]
  | leaf name rest ih =>
    simp only [Node.renderAll, Node.render, ih, value_leaf]
  | element name opening children rest inside after =>
    -- The level below starts with nothing, which has no calls to take the values of.
    have start : (Level.start : Level (Call α)).value = .start := rfl
    simp only [Node.renderAll, Node.render, after, value_element, map_value_finish, inside, start]

end Level

/-- The call that a tag makes, of the index that it is told: that of its renderer, or else that of
the handler for missing names. -/
def Call.ofTag? (config : Config α) (context : Context α) (name : String)
    (children : List (Call α)) : Option (Nat → Call α) :=
  match context.get? name with
  | some (.renderer renderer) => some (renderer.call children)
  -- Values of other kinds are no help to a tag.
  | _ => config.missing.map fun handle => .missing handle name children

/-- The call that a node makes, of the index that it is told; none for text, and for a name that
leaves no output value of its own. An element gives the calls of its own children. -/
def Node.call? (config : Config α) (context : Context α) : Node → Option (Nat → Call α)
  | .text _ => none
  | .placeholder name =>
    match context.get? name with
    | some (.ready value) => some fun _ => .ready value
    | some _ => none
    | none => config.missing.map fun handle => .missing handle name []
  | .leaf name => Call.ofTag? config context name []
  | .element name _ children =>
    Call.ofTag? config context name (Tree.calls ⟨children⟩ config context)

/-- The calls of a tree are the outputs of its traced items. -/
theorem Tree.calls_eq_outputs (tree : Tree) (config : Config α) (context : Context α) :
    tree.calls config context =
      Item.outputs config.traced (Node.allItems config.traced context.traced tree.children) := by
  -- Calls are an output like any other, so the two passes give them as well.
  rw [calls, render, Node.finish_renderAll_start]

namespace Item

variable {config : Config α} {context : Context α}

/-- The traced item of a tag is the call that the tag makes, or else a cut. -/
theorem ofTag_traced {name : String} {children : List (Call α)}
    {render : Renderer (Call α) → Nat → Call α}
    (calls : ∀ renderer : Renderer α, render renderer.traced = renderer.call children) :
    ofTag config.traced context.traced name children render =
      ((Call.ofTag? config context name children).map value).getD cut := by
  -- The handler is traced exactly if there is one; without it the tag leaves a cut.
  have handled : (config.traced.missing.map fun handle => value (handle name children)).getD cut =
      ((config.missing.map fun handle => Call.missing handle name children).map value).getD
        cut := by
    cases handler : config.missing <;> simp [Config.traced, handler]
  simp only [ofTag, Call.ofTag?, context.get?_traced]
  cases context.get? name with
  | none => exact handled
  | some found =>
    cases found with
    | renderer renderer => simp [Value.traced, calls]
    | text content => exact handled
    | number number => exact handled
    | ready ready => exact handled

/-- A node has one traced item at most, and an output value is its item exactly if the node makes
this call. -/
theorem items_traced_eq_value_iff (node : Node) (make : Nat → Call α) :
    node.items config.traced context.traced = [value make] ↔
      node.call? config context = some make := by
  cases node with
  | text content => simp [Node.items, Node.call?]
  | placeholder name =>
    -- Only an output value and a handler make values of a placeholder.
    simp only [Node.items, Node.call?, ofPlaceholder, context.get?_traced]
    cases context.get? name with
    | none => cases handler : config.missing <;> simp [Config.traced, handler]
    | some found => cases found <;> simp [Value.traced]
  | leaf name =>
    rw [Node.items, Node.call?, ofTag_traced Renderer.renderLeaf_traced]
    cases Call.ofTag? config context name [] <;> simp
  | element name opening children =>
    -- The children are given as the output of the level below, which is that of a tree.
    have below := Tree.calls_eq_outputs ⟨children⟩ config context
    rw [Node.items, Node.call?, ← below,
      ofTag_traced fun renderer => renderer.renderElement_traced _]
    cases Call.ofTag? config context name (Tree.calls ⟨children⟩ config context) <;> simp

end Item

/-- A tag makes the call of its renderer or that of the handler. -/
theorem Call.ofTag?_cases {config : Config α} {context : Context α} {name : String}
    {children : List (Call α)} {make : Nat → Call α}
    (made : ofTag? config context name children = some make) :
    (∃ renderer, context.get? name = some (.renderer renderer) ∧ make = renderer.call children) ∨
      ∃ handle, config.missing = some handle ∧ make = missing handle name children := by
  -- The branch of a renderer comes first; every other one hands the tag to the handler.
  unfold ofTag? at made
  split at made
  · rename_i renderer found
    exact Or.inl ⟨renderer, found, (Option.some.inj made).symm⟩
  · obtain ⟨handle, set, rfl⟩ := Option.map_eq_some_iff.mp made
    exact Or.inr ⟨handle, set, rfl⟩

namespace Node

variable {config : Config α} {context : Context α} {make : Nat → Call α}

/-- The call of an element is given the calls of the children of this very element, unless a leaf
renderer is called, which takes no children. -/
theorem children_call_element {name opening : String} {children : List Node}
    (made : (element name opening children).call? config context = some make) (index : Nat) :
    (make index).children = Tree.calls ⟨children⟩ config context ∨
      ∃ render, context.get? name = some (.renderer (.leaf render)) ∧
        make index = .leaf render index := by
  -- The call is that of the renderer or that of the handler, and both have the children.
  rcases Call.ofTag?_cases made with ⟨renderer, found, rfl⟩ | ⟨handle, _, rfl⟩
  · cases renderer with
    | element render => exact Or.inl rfl
    | leaf render => exact Or.inr ⟨render, found, rfl⟩
  · -- The handler is given the children like a renderer.
    exact Or.inl rfl

/-- The call of a tag without children is given none. -/
theorem children_call_leaf {name : String}
    (made : (leaf name).call? config context = some make) (index : Nat) :
    (make index).children = [] := by
  -- The tag is treated like an element without children.
  rcases Call.ofTag?_cases made with ⟨renderer, _, rfl⟩ | ⟨handle, _, rfl⟩
  · cases renderer <;> rfl
  · rfl

/-- The call of a placeholder is a value of the context or that of the handler. -/
theorem call_placeholder_cases {name : String}
    (made : (placeholder name).call? config context = some make) :
    (∃ value, context.get? name = some (.ready value) ∧ make = fun _ => .ready value) ∨
      ∃ handle, config.missing = some handle ∧ make = .missing handle name [] := by
  -- A renderer, a text and a number make no call, so two branches are left.
  simp only [call?] at made
  split at made
  · rename_i value found
    exact Or.inl ⟨value, found, (Option.some.inj made).symm⟩
  · cases made
  · obtain ⟨handle, set, rfl⟩ := Option.map_eq_some_iff.mp made
    exact Or.inr ⟨handle, set, rfl⟩

/-- A node makes the call of a renderer or that of the handler, unless it is a placeholder with a
value in the context. -/
theorem call_cases {node : Node} (made : node.call? config context = some make) :
    (∃ name renderer children, context.get? name = some (.renderer renderer) ∧
      make = renderer.call children) ∨
    (∃ handle name children, config.missing = some handle ∧
      make = .missing handle name children) ∨
    ∃ name value, node = .placeholder name ∧ context.get? name = some (.ready value) ∧
      make = fun _ => .ready value := by
  -- A tag is the same with and without children, and a placeholder finds no renderer.
  cases node with
  | text content => cases made
  | placeholder name =>
    rcases call_placeholder_cases made with ⟨value, found, rfl⟩ | ⟨handle, set, rfl⟩
    · exact Or.inr (Or.inr ⟨name, value, rfl, found, rfl⟩)
    · exact Or.inr (Or.inl ⟨handle, name, [], set, rfl⟩)
  | leaf name =>
    rcases Call.ofTag?_cases made with ⟨renderer, found, rfl⟩ | ⟨handle, set, rfl⟩
    · exact Or.inl ⟨name, renderer, [], found, rfl⟩
    · exact Or.inr (Or.inl ⟨handle, name, [], set, rfl⟩)
  | element name opening children =>
    rcases Call.ofTag?_cases made with ⟨renderer, found, rfl⟩ | ⟨handle, set, rfl⟩
    · exact Or.inl ⟨name, renderer, _, found, rfl⟩
    · exact Or.inr (Or.inl ⟨handle, name, _, set, rfl⟩)

/-- The call of a node is told the index that it is made of, unless it is the value of a
placeholder. -/
theorem index?_call {node : Node} (made : node.call? config context = some make) (index : Nat) :
    (make index).index? = some index ∨
      ∃ name value, node = .placeholder name ∧ context.get? name = some (.ready value) ∧
        make index = .ready value := by
  -- Renderers of both kinds and the handler are told the index; a value takes none.
  rcases call_cases made with ⟨_, renderer, _, _, rfl⟩ | ⟨handle, name, children, _, rfl⟩ |
    ⟨name, value, rfl, found, rfl⟩
  · cases renderer <;> exact Or.inl rfl
  · exact Or.inl rfl
  · exact Or.inr ⟨name, value, rfl, found, rfl⟩

end Node

namespace Tree

variable {config : Config α} {context : Context α}

/-- The calls of a tree have its output values. -/
theorem map_value_calls (tree : Tree) (config : Config α) (context : Context α) :
    (tree.calls config context).map Call.value = tree.render config context := by
  -- The level keeps its values all the way, so it ends with those of its calls.
  rw [calls, render, Level.map_value_finish, Level.value_renderAll, render]
  rfl

/-- There are as many calls as output values. -/
theorem length_calls (tree : Tree) (config : Config α) (context : Context α) :
    (tree.calls config context).length = (tree.render config context).length := by
  -- Taking the values of calls keeps their number.
  rw [← map_value_calls, List.length_map]

/-- The call of a node is the one behind those of the nodes in front of it. -/
theorem getElem?_calls {tree : Tree} {front back : List Node} {node : Node} {make : Nat → Call α}
    (split : tree.children = front ++ node :: back)
    (made : node.call? config context = some make) :
    (tree.calls config context)[(Tree.render ⟨front⟩ config context).length]? =
      some (make (Tree.render ⟨front⟩ config context).length) := by
  -- The node has one traced item, which is this call.
  have item := (Item.items_traced_eq_value_iff node make).mpr made
  -- The call is an output value among the items, so it parts the items before and behind it.
  rw [← length_calls, calls_eq_outputs, calls_eq_outputs, split, Node.allItems_eq_flatMap,
    Node.allItems_eq_flatMap, List.flatMap_append, List.flatMap_cons, item, List.singleton_append,
    Item.outputs_append_value]
  simp

/-- A call of a tree wraps text, or it is made by a node and stands behind the calls of the nodes in
front of that node; either way it is told its own index. -/
theorem exists_of_getElem?_calls {tree : Tree} {index : Nat} {call : Call α}
    (found : (tree.calls config context)[index]? = some call) :
    (∃ text, call = .wrap config.wrapText text index) ∨
      ∃ front node back make, tree.children = front ++ node :: back ∧
        node.call? config context = some make ∧
          (Tree.render ⟨front⟩ config context).length = index ∧ call = make index := by
  -- A call is what some maker gives for the index that it stands at.
  rw [calls_eq_outputs, Item.outputs, List.getElem?_mapIdx, Option.map_eq_some_iff] at found
  obtain ⟨make, held, rfl⟩ := found
  rcases Item.exists_of_getElem?_makers held with ⟨text, rfl⟩ | ⟨before, after, split, place⟩
  · exact Or.inl ⟨text, rfl⟩
  · -- The items in front of the call are those of the nodes in front of its node, and have as many
    -- outputs.
    obtain ⟨front, node, back, nodes, item, rfl⟩ := Node.exists_of_allItems_eq split
    refine Or.inr ⟨front, node, back, make, nodes, ?_, ?_, rfl⟩
    · exact (Item.items_traced_eq_value_iff node make).mp item
    · rw [← length_calls, calls_eq_outputs, Item.outputs, List.length_mapIdx, place]

/-- Whether a call is a value that a placeholder among nodes has in the context. -/
def Ready (context : Context α) (nodes : List Node) (call : Call α) : Prop :=
  ∃ name value, call = .ready value ∧ .placeholder name ∈ nodes ∧
    context.get? name = some (.ready value)

/-- A call is told the index of its place, unless it is a value of the context. -/
theorem index?_or_ready {tree : Tree} {index : Nat} {call : Call α}
    (found : (tree.calls config context)[index]? = some call) :
    call.index? = some index ∨ Ready context tree.children call := by
  -- Either a run of text ends here, which is wrapped, or a node makes the call.
  rcases exists_of_getElem?_calls found with ⟨text, rfl⟩ |
    ⟨front, node, back, make, split, made, _, rfl⟩
  · exact Or.inl rfl
  · rcases Node.index?_call made index with told | ⟨name, value, rfl, held, ready⟩
    · exact Or.inl told
    · exact Or.inr ⟨name, value, ready, by simp [split], held⟩

/-- No two calls of a level are told the same index. -/
theorem nodup_index (tree : Tree) (config : Config α) (context : Context α) :
    ((tree.calls config context).filterMap Call.index?).Nodup := by
  -- Each index that is told is the place of its call, so later calls are told greater ones.
  have place : ∀ (index : Nat) (call : Call α), (tree.calls config context)[index]? = some call →
      ∀ told, call.index? = some told → told = index := by
    intro index call found told tells
    rcases index?_or_ready found with same | ⟨_, _, rfl, _⟩
    · exact Option.some.inj (tells.symm.trans same)
    · cases tells
  -- Two calls have different places, and with them different indices.
  rw [List.Nodup, List.pairwise_filterMap, List.pairwise_iff_getElem]
  intro first second firstValid secondValid before one tellsOne other tellsOther
  have firstPlace := place first _ (List.getElem?_eq_getElem firstValid) one tellsOne
  have secondPlace := place second _ (List.getElem?_eq_getElem secondValid) other tellsOther
  omega

end Tree

/-- Whether every function stores the index that it is told in the value that it makes. -/
structure StoresIndex (stored : α → Nat → Prop) (config : Config α) (context : Context α) :
    Prop where
  wrapText : ∀ text index, stored (config.wrapText text index) index
  missing : ∀ handle ∈ config.missing, ∀ name children index,
    stored (handle name children index) index
  element : ∀ name renderer, context.get? name = some (.renderer renderer) →
    ∀ children index, stored (renderer.renderElement children index) index
  leaf : ∀ name renderer, context.get? name = some (.renderer renderer) →
    ∀ index, stored (renderer.renderLeaf index) index

/-- Where functions store their indices, the value that a node makes stores its own, unless it
stands in the context. -/
theorem StoresIndex.stored_or_ready {stored : α → Nat → Prop} {config : Config α}
    {context : Context α} (stores : StoresIndex stored config context) {node : Node}
    {make : Nat → Call α} (made : node.call? config context = some make) (index : Nat) :
    stored (make index).value index ∨
      ∃ name, node = .placeholder name ∧ context.get? name = some (.ready (make index).value) := by
  -- Whatever function the node calls stores the index.
  rcases Node.call_cases made with ⟨name, renderer, children, found, rfl⟩ |
    ⟨handle, name, children, set, rfl⟩ | ⟨name, value, rfl, found, rfl⟩
  · cases renderer with
    | element render => exact Or.inl (stores.element name _ found _ index)
    | leaf render => exact Or.inl (stores.leaf name _ found index)
  · exact Or.inl (stores.missing handle set name _ index)
  · exact Or.inr ⟨name, rfl, found⟩

namespace Tree

/-- What holds of the calls on a level, each of which is at the index of the output value that it
returns. -/
structure CallsInPlace (level : Tree) (config : Config α) (context : Context α) : Prop where
  /-- The calls return the output of the level. -/
  returned : (level.calls config context).map Call.value = level.render config context
  /-- The call of a node is behind the output of the nodes before it, and is told this place. -/
  made : ∀ front node back make, level.children = front ++ node :: back →
    node.call? config context = some make →
    (level.calls config context)[(Tree.render ⟨front⟩ config context).length]? =
      some (make (Tree.render ⟨front⟩ config context).length)
  /-- There are no other calls than those of nodes, each in its place, and those that wrap text. -/
  placed : ∀ index call, (level.calls config context)[index]? = some call →
    (∃ text, call = .wrap config.wrapText text index) ∨
      ∃ front node back make, level.children = front ++ node :: back ∧
        node.call? config context = some make ∧
          (Tree.render ⟨front⟩ config context).length = index ∧ call = make index
  /-- The call of an element is given the calls on the level of its own children; only a leaf
  renderer is given none. -/
  given : ∀ name opening children make, .element name opening children ∈ level.children →
    (Node.element name opening children).call? config context = some make →
    ∀ index, (make index).children = calls ⟨children⟩ config context ∨
      ∃ render, context.get? name = some (.renderer (.leaf render)) ∧
        make index = .leaf render index
  /-- The call of any other node is given no children. -/
  bare : ∀ node ∈ level.children, ∀ make, node.call? config context = some make →
    (∀ name opening children, node ≠ .element name opening children) →
    ∀ index, (make index).children = []
  /-- Every call is told its index; only the values of placeholders come from no call. -/
  told : ∀ index call, (level.calls config context)[index]? = some call →
    call.index? = some index ∨ Ready context level.children call

/-- The calls on every level are in place. -/
theorem callsInPlace (level : Tree) (config : Config α) (context : Context α) :
    CallsInPlace level config context where
  returned := map_value_calls level config context
  made _ _ _ _ split made := getElem?_calls split made
  placed _ _ found := exists_of_getElem?_calls found
  given _ _ _ _ _ made := Node.children_call_element made
  -- Text makes no call at all, and an element is excluded.
  bare node _ make made plain index := by
    cases node with
    | text content => cases made
    | placeholder name =>
      rcases Node.call_placeholder_cases made with ⟨value, _, rfl⟩ | ⟨handle, _, rfl⟩ <;> rfl
    | leaf name => exact Node.children_call_leaf made index
    | element name opening children => exact absurd rfl (plain name opening children)
  told _ _ found := index?_or_ready found

/-- On every level that is rendered for a tree, each call is told the index at which its own value
is in the output of this level. The call of an element, of its renderer or of the handler for
missing names, is given as children what the calls on the level of its own children return, and that
is a level of the tree again. So no index is told twice on a level, and where functions store the
index that they are told, every output value stores its own, except for those that a placeholder has
in the context. -/
theorem calls_told_index (tree level : Tree) (config : Config α) (context : Context α)
    (mem : level ∈ tree.levels) :
    CallsInPlace level config context ∧
    (∀ name opening children, .element name opening children ∈ level.children →
      ⟨children⟩ ∈ tree.levels) ∧
    ((level.calls config context).filterMap Call.index?).Nodup ∧
    ∀ stored, StoresIndex stored config context →
      ∀ index value, (level.render config context)[index]? = some value →
        stored value index ∨
          ∃ name, .placeholder name ∈ level.children ∧
            context.get? name = some (.ready value) := by
  -- What is left after the laws of the level is that stored indices are those of the places.
  refine ⟨callsInPlace level config context,
    fun _ _ _ held => below_mem_levels mem held, nodup_index level config context, ?_⟩
  intro stored stores index value found
  -- The value is what some call returns, which wraps text or is made by a node.
  rw [← map_value_calls, List.getElem?_map, Option.map_eq_some_iff] at found
  obtain ⟨call, held, rfl⟩ := found
  rcases exists_of_getElem?_calls held with ⟨text, rfl⟩ |
    ⟨front, node, back, make, split, made, _, rfl⟩
  · exact Or.inl (stores.wrapText text index)
  · rcases stores.stored_or_ready made index with own | ⟨name, rfl, ready⟩
    · exact Or.inl own
    · exact Or.inr ⟨name, by simp [split], ready⟩

/-- A level with two elements: the renderer of one and the handler for the other are given what is
made of the children of each, with indices that start again below. -/
theorem calls_told_index_nested :
    let named : Tree := ⟨[.text "y", .placeholder "q", .leaf "c"]⟩
    let unnamed : Tree := ⟨[.leaf "c", .element "b" "<b>" []]⟩
    let tree : Tree := ⟨[.text "x", .placeholder "o", .element "b" "<b>" named.children,
      .element "m" "<m>" unnamed.children]⟩
    let count (children : List Nat) (index : Nat) : Nat := children.length + index
    let handle (_ : String) (children : List Nat) (index : Nat) : Nat := children.length + index
    let config : Config Nat := { Config.plain fun _ index => index with missing := some handle }
    let context : Context Nat :=
      .ofEntries [("o", .ready 7), ("b", .renderer (.element count)), ("c", .renderer (.leaf id))]
    CallsInPlace tree config context ∧ named ∈ tree.levels ∧ unnamed ∈ tree.levels ∧
      (tree.calls config context)[2]? = some (.element count (named.calls config context) 2) ∧
      (tree.calls config context)[3]? =
        some (.missing handle "m" (unnamed.calls config context) 3) ∧
      (named.calls config context).map Call.index? = [some 0, some 1, some 2] ∧
      (unnamed.calls config context).map Call.index? = [some 0, some 1] ∧
      tree.render config context = [0, 7, 5, 5] := by
  intro named unnamed tree count handle config context
  obtain ⟨places, below, _⟩ := calls_told_index tree tree config context List.mem_cons_self
  -- Each element is the node behind two or three others, which make as many calls.
  have rendered := places.made [.text "x", .placeholder "o"] (.element "b" "<b>" named.children)
    [.element "m" "<m>" unnamed.children] _ rfl rfl
  have handled := places.made [.text "x", .placeholder "o", .element "b" "<b>" named.children]
    (.element "m" "<m>" unnamed.children) [] _ rfl rfl
  exact ⟨places, below "b" "<b>" named.children (by simp [tree]),
    below "m" "<m>" unnamed.children (by simp [tree]), rendered, handled, rfl, rfl, rfl⟩

end Tree

end TagTemplate
