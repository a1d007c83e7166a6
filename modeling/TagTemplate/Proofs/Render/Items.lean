import Mathlib.Data.List.SplitBy
import TagTemplate.Render

/-! Rendering in two passes: first every node gives its items, then the runs of text among them are
joined. The level of a tree, which does both at once, has the same output. -/

namespace TagTemplate

variable {α : Type}

/-- What a node adds to its level. -/
inductive Item (α : Type) where
  /-- Text that joins the text on both sides. -/
  | text (content : String)
  /-- An output value, made of the index that it takes. -/
  | value (make : Nat → α)
  /-- No output, but the end of a run of text. -/
  | cut

namespace Item

/-- The text of an item, if it is one. -/
def text? : Item α → Option String
  | text content => some content
  | value _ => none
  | cut => none

/-- Whether two neighbours belong to the same run of text. -/
def joins (left right : Item α) : Bool :=
  left.text?.isSome && right.text?.isSome

/-- What the items of one group make: a run of text makes one value of the whole text. -/
def unite (config : Config α) : List (Item α) → List (Nat → α)
  | [value make] => [make]
  | [cut] => []
  | run => [config.wrapText (String.join (run.filterMap text?))]

/-- What items make, in order, after neighbouring texts were put into groups. -/
def makers (config : Config α) (items : List (Item α)) : List (Nat → α) :=
  (items.splitBy joins).flatMap (unite config)

/-- The output values of items, each one made of its own index. -/
def outputs (config : Config α) (items : List (Item α)) : List α :=
  (makers config items).mapIdx fun index make => make index

/-- The items of a placeholder. -/
def ofPlaceholder (config : Config α) (context : Context α) (name : String) : List (Item α) :=
  match context.get? name with
  | some (.text content) => [text content]
  | some (.number number) => [text number.display]
  | some (.ready ready) => [value fun _ => ready]
  | some (.renderer _) => [cut]
  -- Without a way to handle missing names there is no item, so the run of text goes on.
  | none => (config.missing.map fun handle => value (handle name [])).toList

/-- The item of a tag with rendered children, which `render` turns into a value. -/
def ofTag (config : Config α) (context : Context α) (name : String) (children : List α)
    (render : Renderer α → Nat → α) : Item α :=
  match context.get? name with
  | some (.renderer renderer) => value (render renderer)
  -- Values of other kinds are no help to a tag, so it counts as missing.
  | _ => (config.missing.map fun handle => value (handle name children)).getD cut

end Item

mutual

/-- The items of a node. -/
def Node.items (config : Config α) (context : Context α) : Node → List (Item α)
  | .text content => [.text content]
  | .placeholder name => Item.ofPlaceholder config context name
  | .leaf name => [Item.ofTag config context name [] Renderer.renderLeaf]
  | .element name _ children =>
    let output := Item.outputs config (Node.allItems config context children)
    [Item.ofTag config context name output (·.renderElement output)]

/-- The items of nodes, in order. -/
def Node.allItems (config : Config α) (context : Context α) : List Node → List (Item α)
  | [] => []
  | node :: rest => node.items config context ++ Node.allItems config context rest

end

/-- The items of nodes are those of each node. -/
theorem Node.allItems_eq_flatMap (config : Config α) (context : Context α) (nodes : List Node) :
    Node.allItems config context nodes = nodes.flatMap (Node.items config context) := by
  -- The recursion over siblings is that of a flattened map.
  induction nodes with
  | nil => rfl
  | cons node rest ih => rw [allItems, ih, List.flatMap_cons]

namespace Item

/-- Whether items do not go on with the run of text before them. -/
def Apart (items : List (Item α)) : Prop :=
  ∀ item ∈ items.head?, item.text? = none

/-- No items make nothing. -/
@[simp] theorem makers_nil (config : Config α) : makers config [] = [] :=
  rfl

/-- Items apart from those before them make what they make alone. -/
theorem makers_append {front back : List (Item α)} (config : Config α) (apart : Apart back) :
    makers config (front ++ back) = makers config front ++ makers config back := by
  -- Groups are split where neighbours do not join, and here the first item behind joins nothing.
  have split : (front ++ back).splitBy joins = front.splitBy joins ++ back.splitBy joins :=
    List.splitBy_append fun _ _ item mem => by simp [joins, apart item mem]
  simp [makers, split]

/-- An item that is no text is a group of its own. -/
theorem makers_cons {item : Item α} (config : Config α) (apart : item.text? = none)
    (items : List (Item α)) :
    makers config (item :: items) = unite config [item] ++ makers config items := by
  -- The item is in front, so it is the group on the left side of a split.
  have split : ([item] ++ items).splitBy joins = [item].splitBy joins ++ items.splitBy joins :=
    List.splitBy_append (by simp [joins, apart])
  have whole : (item :: items).splitBy joins = [item] :: items.splitBy joins := split
  simp [makers, whole]

/-- An output value stands at its place, in front of what the items behind it make. -/
@[simp] theorem makers_value (config : Config α) (make : Nat → α) (items : List (Item α)) :
    makers config (value make :: items) = make :: makers config items :=
  makers_cons config rfl items

/-- An output value is made of its own index, behind the output of the items before it and in front
of what is made of the items behind it. -/
theorem outputs_append_value (config : Config α) (front : List (Item α)) (make : Nat → α)
    (back : List (Item α)) :
    outputs config (front ++ value make :: back) =
      outputs config front ++ make (outputs config front).length ::
        (makers config back).mapIdx fun index make =>
          make (index + 1 + (outputs config front).length) := by
  -- The value joins no text, so the items on both sides of it are grouped without it.
  have apart : Apart (value make :: back) := by simp [Apart, text?]
  have counted : (outputs config front).length = (makers config front).length := by simp [outputs]
  rw [counted, outputs, makers_append config apart, makers_value, List.mapIdx_append,
    List.mapIdx_cons]
  simp [outputs]

/-- The end of a run of text makes nothing. -/
@[simp] theorem makers_cut (config : Config α) (items : List (Item α)) :
    makers config (cut :: items) = makers config items :=
  makers_cons config rfl items

/-- A run of texts makes one value of the whole text, even if that is empty. -/
theorem makers_texts (config : Config α) {texts : List String} (filled : texts ≠ []) :
    makers config (texts.map text) = [config.wrapText (String.join texts)] := by
  -- Any two texts join, so all of them are one group.
  let items : List (Item α) := texts.map text
  have chain : items.IsChain fun left right => joins left right = true :=
    ((List.pairwise_of_forall fun _ _ => rfl).map text fun _ _ => id).isChain
  have group : items.splitBy joins = [items] :=
    List.splitBy_of_isChain (by simpa [items] using filled) chain
  have held : items.filterMap text? = texts := by
    simp [items, List.filterMap_map, Function.comp_def, text?]
  have united : unite config items = [config.wrapText (String.join (items.filterMap text?))] := by
    obtain ⟨first, rest, rfl⟩ := List.exists_cons_of_ne_nil filled
    rfl
  rw [makers, group, List.flatMap_singleton, united, held]

/-- What items make is a value among them or a wrapped text. -/
theorem mem_makers {config : Config α} {make : Nat → α} {items : List (Item α)}
    (mem : make ∈ makers config items) :
    value make ∈ items ∨ ∃ text, make = config.wrapText text := by
  simp only [makers, List.mem_flatMap] at mem
  obtain ⟨group, split, made⟩ := mem
  -- All items of a group are among those that were split.
  have held : ∀ item ∈ group, item ∈ items := by
    intro item inside
    rw [← items.flatten_splitBy joins]
    exact List.mem_flatten_of_mem split inside
  -- The group says what it makes by its form.
  unfold unite at made
  split at made
  · -- The group is this one value.
    rw [List.mem_singleton] at made
    exact Or.inl (held _ (by simp [made]))
  · -- A cut makes nothing.
    cases made
  · exact Or.inr ⟨_, List.mem_singleton.mp made⟩

/-- What items make at some index wraps text, or it is an output value that stands right behind what
the items before it make. -/
theorem exists_of_getElem?_makers {config : Config α} {items : List (Item α)} {index : Nat}
    {make : Nat → α} (found : (makers config items)[index]? = some make) :
    (∃ text, make = config.wrapText text) ∨
      ∃ front back, items = front ++ value make :: back ∧
        (makers config front).length = index := by
  induction size : items.length using Nat.strong_induction_on generalizing items index with
  | _ size ih =>
  subst size
  by_cases held : ∃ other, value other ∈ items
  · -- An output value parts what is made on both sides of it, and each side has fewer items.
    obtain ⟨other, mem⟩ := held
    obtain ⟨front, back, rfl⟩ := List.append_of_mem mem
    have apart : Apart (value other :: back) := by simp [Apart, text?]
    rw [makers_append config apart, makers_value] at found
    simp only [List.length_append, List.length_cons] at ih
    rcases Nat.lt_trichotomy index (makers config front).length with before | rfl | behind
    · rw [List.getElem?_append_left before] at found
      rcases ih _ (by omega) found rfl with wrapped | ⟨first, last, rfl, place⟩
      · exact Or.inl wrapped
      · exact Or.inr ⟨first, last ++ value other :: back, by simp, place⟩
    · obtain rfl : other = make := by simpa using found
      exact Or.inr ⟨front, back, rfl, rfl⟩
    · obtain ⟨rest, rfl⟩ := Nat.exists_eq_add_of_lt behind
      have found : (makers config back)[rest]? = some make := by
        rw [List.getElem?_append_right (by omega)] at found
        simpa [Nat.add_assoc, Nat.add_sub_cancel_left] using found
      rcases ih _ (by omega) found rfl with wrapped | ⟨first, last, rfl, place⟩
      · exact Or.inl wrapped
      · refine Or.inr ⟨front ++ value other :: first, last, by simp, ?_⟩
        have apart : Apart (value other :: first) := by simp [Apart, text?]
        rw [makers_append config apart, makers_value]
        simp [place, Nat.add_assoc]
  · -- Without output values nothing but runs of text is made.
    rcases mem_makers (List.mem_of_getElem? found) with mem | wrapped
    · exact absurd ⟨make, mem⟩ held
    · exact Or.inl wrapped

end Item

/-- A node has one item at most. -/
theorem Node.items_cases (config : Config α) (context : Context α) (node : Node) :
    node.items config context = [] ∨ ∃ item, node.items config context = [item] := by
  -- Only a placeholder can have no item, where its name is missing and nothing handles that.
  cases node with
  | text content => exact Or.inr ⟨_, rfl⟩
  | placeholder name =>
    simp only [Node.items, Item.ofPlaceholder]
    cases context.get? name with
    | none => cases config.missing <;> simp
    | some found => cases found <;> simp
  | leaf name => exact Or.inr ⟨_, rfl⟩
  | element name opening children => exact Or.inr ⟨_, rfl⟩

/-- An output value among the items of nodes is the item of one of them, and the items before it are
those of the nodes in front of this one. -/
theorem Node.exists_of_allItems_eq {config : Config α} {context : Context α} {nodes : List Node}
    {before after : List (Item α)} {make : Nat → α}
    (split : Node.allItems config context nodes = before ++ .value make :: after) :
    ∃ front node back, nodes = front ++ node :: back ∧
      node.items config context = [.value make] ∧
        Node.allItems config context front = before := by
  -- Each node takes its item from the front of the list, so the items before vary.
  induction nodes generalizing before with
  | nil => simp [Node.allItems] at split
  | cons node rest ih =>
    rw [Node.allItems] at split
    rcases node.items_cases config context with none | ⟨item, one⟩
    · -- A node without items stands in front of the one that is looked for.
      rw [none, List.nil_append] at split
      obtain ⟨front, held, back, rfl, items, same⟩ := ih split
      exact ⟨node :: front, held, back, rfl, items, by rw [Node.allItems, none, same]; rfl⟩
    · rw [one, List.singleton_append] at split
      cases before with
      | nil =>
        obtain ⟨rfl, _⟩ := List.cons.inj split
        exact ⟨[], node, rest, rfl, one, rfl⟩
      | cons first before =>
        obtain ⟨rfl, behind⟩ := List.cons.inj split
        obtain ⟨front, held, back, rfl, items, same⟩ := ih behind
        exact ⟨node :: front, held, back, rfl, items, by rw [Node.allItems, one, same]; rfl⟩

namespace Level

/-- What a level comes to if these items follow: its output so far, and then what its waiting texts
and the items make, each value of the index that it takes. -/
def outputsWith (config : Config α) (level : Level α) (items : List (Item α)) : List α :=
  level.output.reverse ++
    (Item.makers config (level.waiting.reverse.map .text ++ items)).mapIdx fun index make =>
      make (level.index + index)

variable {config : Config α} {context : Context α} {level : Level α} {items : List (Item α)}

/-- Text that is queued is a text among the items. -/
theorem outputsWith_queue (content : String) :
    (level.queue content).outputsWith config items =
      level.outputsWith config (.text content :: items) := by
  -- The last waiting text is the first of the list, so the reversed list goes on with the next
  -- item.
  simp [outputsWith, queue, index]

/-- The run that is waiting can be ended before items that do not go on with it. -/
theorem outputsWith_flush (apart : Item.Apart items) :
    (level.flush config).outputsWith config items = level.outputsWith config items := by
  obtain ⟨output, waiting⟩ := level
  cases waiting with
  | nil => rfl
  | cons last others =>
    -- The waiting texts are a run of their own, so they take one index.
    have filled : (last :: others).reverse ≠ [] := by simp
    have run := Item.makers_texts config filled
    simp only [outputsWith, flush, index, Item.makers_append config apart, run]
    simp [Nat.add_assoc, Nat.add_comm 1]

/-- Where nothing waits, an output value is pushed to its place. -/
theorem outputsWith_push (idle : level.waiting = []) (make : Nat → α) :
    (level.push (make level.index)).outputsWith config items =
      level.outputsWith config (.value make :: items) := by
  -- The pushed value moves the indices of all later items by one.
  simp [outputsWith, push, index, idle, Nat.add_assoc, Nat.add_comm 1]

/-- Where nothing waits there is no run to end. -/
theorem outputsWith_cut (idle : level.waiting = []) :
    level.outputsWith config items = level.outputsWith config (.cut :: items) := by
  simp [outputsWith, idle]

/-- A level that starts comes to the output of the items. -/
theorem outputsWith_start : start.outputsWith config items = Item.outputs config items := by
  simp [outputsWith, start, index, Item.outputs]

/-- A finished level is one that nothing follows. -/
theorem finish_eq_outputsWith : level.finish config = level.outputsWith config [] := by
  -- Finishing ends the last run, behind which no item can join it.
  have ended : (level.flush config).outputsWith config [] = level.outputsWith config [] :=
    outputsWith_flush (by simp [Item.Apart])
  simpa [outputsWith, finish, Item.makers] using ended

/-- Where a handler is set, a name without a value is an output value of the handler. -/
theorem outputsWith_miss {handle : String → List α → Nat → α} (set : config.missing = some handle)
    (name : String) (children : List α) :
    (level.miss config name children).outputsWith config items =
      level.outputsWith config (.value (handle name children) :: items) := by
  rw [miss, set]
  -- The handler is called after the run before it has ended, so it is told its own index.
  exact (outputsWith_push (level.waiting_flush config) _).trans
    (outputsWith_flush (by simp [Item.Apart, Item.text?]))

/-- Without a handler a name without a value changes nothing. -/
theorem miss_eq_self (unset : config.missing = none) (name : String) (children : List α) :
    level.miss config name children = level := by
  rw [miss, unset]

/-- A placeholder stands for its items. -/
theorem outputsWith_placeholder (name : String) :
    (level.placeholder config context name).outputsWith config items =
      level.outputsWith config (Item.ofPlaceholder config context name ++ items) := by
  -- Each kind of value has its own operation of the level and its own items.
  unfold placeholder Item.ofPlaceholder
  cases context.get? name with
  | none =>
    cases handler : config.missing with
    | none =>
      -- The run of text before the name goes on behind it.
      simp [miss_eq_self handler]
    | some handle => exact outputsWith_miss handler name []
  | some value =>
    cases value with
    | text content => exact outputsWith_queue content
    | number number => exact outputsWith_queue number.display
    | ready ready =>
      exact (outputsWith_push (level.waiting_flush config) fun _ => ready).trans
        (outputsWith_flush (by simp [Item.Apart, Item.text?]))
    | renderer renderer =>
      exact (outputsWith_cut (level.waiting_flush config)).trans
        (outputsWith_flush (by simp [Item.Apart, Item.text?]))

/-- A tag ends the run of text before it, whatever it leaves itself. -/
theorem outputsWith_tag (name : String) (children : List α) (render : Renderer α → Nat → α) :
    outputsWith config
        (match context.get? name with
          | some (.renderer renderer) =>
            (level.flush config).push (render renderer (level.flush config).index)
          | _ => (level.flush config).miss config name children) items =
      level.outputsWith config (Item.ofTag config context name children render :: items) := by
  -- Neither a value nor a cut joins text, so the run can be ended first.
  have apart : Item.Apart (Item.ofTag config context name children render :: items) := by
    simp only [Item.Apart, Item.ofTag]
    -- With a renderer the tag is a value; otherwise it is left to the handler, or it only cuts.
    split <;> cases config.missing <;> simp [Item.text?]
  rw [← outputsWith_flush apart]
  have idle := level.waiting_flush config
  unfold Item.ofTag
  split
  · exact outputsWith_push idle _
  · cases handler : config.missing with
    | none =>
      rw [miss_eq_self handler]
      exact outputsWith_cut idle
    | some handle => exact outputsWith_miss handler name children

end Level

/-- Rendering nodes into a level has the output of their items behind those of the level. -/
theorem Node.finish_renderAll (config : Config α) (context : Context α) (nodes : List Node)
    (level : Level α) :
    (Node.renderAll config context level nodes).finish config =
      level.outputsWith config (Node.allItems config context nodes) := by
  -- The induction is over siblings and children; each node is passed on to the items.
  induction nodes using Node.siblings_induction generalizing level with
  -- The level is finished, and nothing follows.
  | nil => exact Level.finish_eq_outputsWith
  | text content rest ih =>
    rw [Node.renderAll, ih]
    exact Level.outputsWith_queue content
  | placeholder name rest ih =>
    rw [Node.renderAll, ih]
    exact Level.outputsWith_placeholder name
  | leaf name rest ih =>
    rw [Node.renderAll, ih]
    exact Level.outputsWith_tag name [] _
  | element name opening children rest inside after =>
    -- The children are rendered on a level that starts with nothing.
    have below : (Node.renderAll config context .start children).finish config =
        Item.outputs config (Node.allItems config context children) := by
      rw [inside, Level.outputsWith_start]
    rw [Node.renderAll, after, Node.render, below]
    exact Level.outputsWith_tag name _ _

/-- Nodes that are rendered on a level of their own have the output of their items. -/
theorem Node.finish_renderAll_start (config : Config α) (context : Context α) (nodes : List Node) :
    (Node.renderAll config context .start nodes).finish config =
      Item.outputs config (Node.allItems config context nodes) := by
  rw [Node.finish_renderAll, Level.outputsWith_start]

/-- Rendering a tree gives the output of its items: every run of text that no output value and no
cut interrupts is one value, all other values keep their places, and each value is made of the index
of its place. The children of elements are rendered in the same way. -/
theorem Tree.render_eq_outputs (tree : Tree) (config : Config α) (context : Context α) :
    tree.render config context =
      Item.outputs config (Node.allItems config context tree.children) := by
  rw [Tree.render, Node.finish_renderAll, Level.outputsWith_start]

end TagTemplate
