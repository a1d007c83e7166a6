import TagTemplate.Proofs.Render.Rewriting

/-! What a tree can tell about its context: a rendering depends on the names that the tree uses, and
on each of them only as far as it matters to a placeholder, an element or a tag without children. -/

namespace TagTemplate

variable {α : Type}

/-- A use of a name in a tree. -/
inductive Use where
  /-- A placeholder asks for the value of the name. -/
  | placeholder (name : String)
  /-- A tag without children asks for a renderer. -/
  | leaf (name : String)
  /-- A tag with children asks for a renderer. -/
  | element (name : String)

mutual

/-- The names that a node uses, those inside it included. -/
def Node.uses : Node → List Use
  | .text _ => []
  | .placeholder name => [.placeholder name]
  | .leaf name => [.leaf name]
  | .element name _ children => .element name :: Node.allUses children

/-- The names that nodes use. -/
def Node.allUses : List Node → List Use
  | [] => []
  | node :: rest => node.uses ++ Node.allUses rest

end

/-- Whether what two contexts say about a name is the same to a placeholder. -/
inductive SameInPlace : Option (Value α) → Option (Value α) → Prop where
  /-- Both values stand for the same text, be it text or a number. -/
  | text {one other : Value α} {content : String} (first : one.text? = some content)
      (second : other.text? = some content) : SameInPlace (some one) (some other)
  /-- Both are the same output value. -/
  | ready (value : α) : SameInPlace (some (.ready value)) (some (.ready value))
  /-- Both are renderers, whatever they render. -/
  | renderer (one other : Renderer α) : SameInPlace (some (.renderer one)) (some (.renderer other))
  /-- Both are missing. -/
  | absent : SameInPlace none none

/-- Whether what two contexts say about a name is the same to a tag that makes use of a renderer by
`render`. -/
inductive SameForTag {β : Type} (render : Renderer α → β) :
    Option (Value α) → Option (Value α) → Prop where
  /-- Both are renderers that do the same for such tags. -/
  | both {one other : Renderer α} (same : render one = render other) :
    SameForTag render (some (.renderer one)) (some (.renderer other))
  /-- Neither is a renderer; values of all other kinds and missing ones are alike. -/
  | neither {one other : Option (Value α)} (first : ∀ renderer, one ≠ some (.renderer renderer))
      (second : ∀ renderer, other ≠ some (.renderer renderer)) : SameForTag render one other

/-- What a tag makes of the result of `render`, or makes without a renderer. -/
def madeBy {β γ : Type} (render : Renderer α → β) (make : β → γ) (without : γ) :
    Option (Value α) → γ
  | some (.renderer renderer) => make (render renderer)
  | _ => without

/-- A tag makes the same of values that are the same to it. -/
theorem SameForTag.madeBy_eq {β γ : Type} {render : Renderer α → β} {one other : Option (Value α)}
    (same : SameForTag render one other) (make : β → γ) (without : γ) :
    madeBy render make without one = madeBy render make without other := by
  cases same with
  | both same => simp only [madeBy, same]
  | neither first second =>
    -- Without a renderer, nothing is made of the values.
    have fallback : ∀ value : Option (Value α), (∀ renderer, value ≠ some (.renderer renderer)) →
        madeBy render make without value = without := by
      intro value none
      unfold madeBy
      split
      · rename_i renderer
        exact absurd rfl (none renderer)
      · rfl
    rw [fallback one first, fallback other second]

/-- Whether two contexts are the same to a use of a name. -/
def Context.SameAt (one other : Context α) : Use → Prop
  | .placeholder name => SameInPlace (one.get? name) (other.get? name)
  | .leaf name => SameForTag Renderer.renderLeaf (one.get? name) (other.get? name)
  | .element name => SameForTag Renderer.renderElement (one.get? name) (other.get? name)

/-- A value is the same as itself to a placeholder. -/
theorem SameInPlace.refl : ∀ value : Option (Value α), SameInPlace value value
  | some (.text _) => .text rfl rfl
  | some (.number _) => .text rfl rfl
  | some (.renderer tag) => .renderer tag tag
  | some (.ready output) => .ready output
  | none => .absent

/-- A value is the same as itself to a tag. -/
theorem SameForTag.refl {β : Type} (render : Renderer α → β) :
    ∀ value : Option (Value α), SameForTag render value value
  | some (.text _) | some (.number _) | some (.ready _) | none => .neither nofun nofun
  | some (.renderer _) => .both rfl

/-- Values that stand for the same text are the same to a tag, which makes no use of either. -/
theorem SameForTag.of_text? {β : Type} (render : Renderer α → β) {one other : Value α}
    {content : String} (first : one.text? = some content) (second : other.text? = some content) :
    SameForTag render (some one) (some other) := by
  -- A renderer stands for no text, so neither value is one.
  have apart : ∀ value : Value α, value.text? = some content →
      ∀ renderer, some value ≠ some (.renderer renderer) := by
    intro value stands renderer same
    rw [Option.some.inj same] at stands
    cases stands
  exact .neither (apart one first) (apart other second)

/-- Contexts are the same to every use of names if what they say about a name is the same value or
stands for the same text. -/
theorem Context.sameAt_of_text? {one other : Context α}
    (alike : ∀ name, one.get? name = other.get? name ∨
      ∃ first second content, one.get? name = some first ∧ other.get? name = some second ∧
        first.text? = some content ∧ second.text? = some content) (use : Use) :
    one.SameAt other use := by
  -- To a placeholder only the text counts that a value stands for.
  have placed : ∀ name, SameInPlace (one.get? name) (other.get? name) := by
    intro name
    obtain same | ⟨first, second, content, held, others, stands, also⟩ := alike name
    · exact same ▸ .refl _
    · exact held ▸ others ▸ .text stands also
  -- To a tag, values that stand for text count as missing, whatever their text.
  have tagged : ∀ {β : Type} (render : Renderer α → β) name,
      SameForTag render (one.get? name) (other.get? name) := by
    intro β render name
    obtain same | ⟨first, second, content, held, others, stands, also⟩ := alike name
    · exact same ▸ .refl render _
    · exact held ▸ others ▸ .of_text? render stands also
  cases use with
  | placeholder name => exact placed name
  | leaf name => exact tagged _ name
  | element name => exact tagged _ name

namespace Level

variable {config : Config α} {one other : Context α} {name : String}

/-- A placeholder leaves the same in contexts that are the same to it. -/
theorem placeholder_congr (same : one.SameAt other (.placeholder name)) (level : Level α) :
    level.placeholder config one name = level.placeholder config other name := by
  -- The two values are named, so that the cases of the relation can be put in their place.
  have same : SameInPlace (one.get? name) (other.get? name) := same
  generalize first : one.get? name = found at same
  generalize second : other.get? name = others at same
  cases same with
  | @text _ _ content oneStands otherStands =>
    -- The two values may be of different kinds, but both only add the text to the run.
    have firstText : one.text? name = some content := by
      rw [Context.text?, first, Option.bind_some, oneStands]
    have secondText : other.text? name = some content := by
      rw [Context.text?, second, Option.bind_some, otherStands]
    rw [placeholder_of_text? firstText, placeholder_of_text? secondText]
  | ready value => simp only [placeholder, first, second]
  | renderer => simp only [placeholder, first, second]
  | absent => simp only [placeholder, first, second]

/-- A tag without children leaves the same in contexts that are the same to it. -/
theorem leaf_congr (same : one.SameAt other (.leaf name)) (level : Level α) :
    level.leaf config one name = level.leaf config other name :=
  -- The run of text ends first; what follows is made of the value alone.
  let level := level.flush config
  SameForTag.madeBy_eq same (fun make => level.push (make level.index)) (level.miss config name [])

/-- A tag with children leaves the same in contexts that are the same to it. -/
theorem element_congr (same : one.SameAt other (.element name)) (level : Level α)
    (children : List α) :
    level.element config one name children = level.element config other name children :=
  -- As for a tag without children, with the same children on both sides.
  let level := level.flush config
  SameForTag.madeBy_eq same (fun make => level.push (make children level.index))
    (level.miss config name children)

end Level

/-- Nodes are rendered alike in contexts that are the same to all their uses of names. -/
theorem Node.renderAll_congr {config : Config α} {one other : Context α} {nodes : List Node}
    (same : ∀ use ∈ Node.allUses nodes, one.SameAt other use) (level : Level α) :
    Node.renderAll config one level nodes = Node.renderAll config other level nodes := by
  -- Each node adds its own uses to those of the nodes behind it and of its children.
  induction nodes using Node.siblings_induction generalizing level with
  | nil => rfl
  | text content rest ih => exact ih same _
  | placeholder name rest ih =>
    obtain ⟨here, later⟩ := List.forall_mem_cons.mp same
    rw [Node.renderAll, Node.renderAll, Node.render, Node.render, Level.placeholder_congr here]
    exact ih later _
  | leaf name rest ih =>
    obtain ⟨here, later⟩ := List.forall_mem_cons.mp same
    rw [Node.renderAll, Node.renderAll, Node.render, Node.render, Level.leaf_congr here]
    exact ih later _
  | element name opening children rest inside after =>
    obtain ⟨here, others⟩ := List.forall_mem_cons.mp same
    -- The uses among the children come before those behind the element.
    obtain ⟨within, later⟩ := List.forall_mem_append.mp others
    rw [Node.renderAll, Node.renderAll, Node.render, Node.render, inside within,
      Level.element_congr here]
    exact after later _

namespace Tree

/-- The uses of names in a tree, at every depth. -/
def uses (tree : Tree) : List Use :=
  Node.allUses tree.children

/-- Two contexts render a tree alike if they are the same to every use of a name in it: placeholders
find the same text, the same output value, or a renderer or nothing in both; tags find renderers
that do the same for such tags, or no renderer in either. What else the contexts hold does not
matter, nor do these names in uses that the tree does not make of them. -/
theorem render_eq_of_sameAt (tree : Tree) (config : Config α) {one other : Context α}
    (same : ∀ use ∈ tree.uses, one.SameAt other use) :
    tree.render config one = tree.render config other := by
  -- A tree is rendered like its nodes, starting with nothing.
  rw [render, render, Node.renderAll_congr same]

/-- A name is used in all three ways, and values of other kinds take its place. -/
theorem render_eq_of_sameAt_kinds :
    let config : Config String :=
      { Config.plain fun text _ => text with
        missing := some fun name children _ => name ++ "?" ++ String.join children }
    let tree : Tree := ⟨[.placeholder "n", .element "b" "<b>" [.placeholder "n", .leaf "b"],
      .placeholder "b", .element "n" "<n>" [.placeholder "o"]]⟩
    let one : Context String := .ofEntries [("n", .text "5"), ("o", .ready "!"),
      ("b", .renderer (.leaf fun _ => "x"))]
    let other : Context String := .ofEntries [("b", .renderer (.element fun _ _ => "x")),
      ("o", .ready "!"), ("n", .number (.int 5)), ("z", .text "unused")]
    (∀ use ∈ tree.uses, one.SameAt other use) ∧
      tree.render config one = tree.render config other ∧
      tree.render config one = ["5", "x", "n?!"] := by
  intro config tree one other
  -- The number is shown as the text of the other context.
  have number : Value.text? (.number (.int 5) : Value String) = some "5" := rfl
  -- As the name of an element it is missing in both.
  have noRenderer : ∀ renderer : Renderer String,
      one.get? "n" ≠ some (.renderer renderer) ∧ other.get? "n" ≠ some (.renderer renderer) := by
    intro renderer
    constructor <;> exact fun same => by cases same
  have same : ∀ use ∈ tree.uses, one.SameAt other use := by
    -- The uses are listed in the order of the template, one for each place.
    show ∀ use ∈ [Use.placeholder "n", .element "b", .placeholder "n", .leaf "b", .placeholder "b",
      .element "n", .placeholder "o"], one.SameAt other use
    simp only [List.forall_mem_cons]
    exact ⟨.text rfl number, .both rfl, .text rfl number, .both rfl, .renderer _ _,
      .neither (fun renderer => (noRenderer renderer).1) (fun renderer => (noRenderer renderer).2),
      .ready _, by simp⟩
  exact ⟨same, render_eq_of_sameAt tree config same, rfl⟩

end Tree

end TagTemplate
