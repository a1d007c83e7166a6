import TagTemplate.Proofs.Tree.Derivation

/-! The levels of a tree: the nodes at its top, and the children of each element. In a tree that was
built from tokens, each level is built from some of them in a row. -/

namespace TagTemplate

mutual

/-- The levels that are rendered for the children of a node. -/
def Node.levels : Node → List Tree
  | .text _ => []
  | .placeholder _ => []
  | .leaf _ => []
  | .element _ _ children => ⟨children⟩ :: Node.allLevels children

/-- The levels that are rendered for the children of nodes. -/
def Node.allLevels : List Node → List Tree
  | [] => []
  | node :: rest => node.levels ++ Node.allLevels rest

end

namespace Node

/-- The children of an element are a level. -/
theorem mem_allLevels {nodes : List Node} {name opening : String} {children : List Node}
    (mem : .element name opening children ∈ nodes) : ⟨children⟩ ∈ allLevels nodes := by
  -- The levels of nodes are those of each of them, so the element brings its own.
  induction nodes with
  | nil => cases mem
  | cons node rest ih =>
    rw [allLevels, List.mem_append]
    rcases List.mem_cons.mp mem with rfl | later
    · exact Or.inl List.mem_cons_self
    · exact Or.inr (ih later)

/-- The children of an element on a level below are a level too. -/
theorem below_mem_allLevels {nodes : List Node} {level : Tree} (mem : level ∈ allLevels nodes)
    {name opening : String} {children : List Node}
    (held : .element name opening children ∈ level.children) : ⟨children⟩ ∈ allLevels nodes := by
  induction nodes using siblings_induction with
  | nil => cases mem
  | text content rest ih => exact ih mem
  | placeholder name rest ih => exact ih mem
  | leaf name rest ih => exact ih mem
  | element other tag inner rest inside after =>
    -- The level is that of this element, one below it, or one of a later node.
    simp only [allLevels, levels, List.cons_append, List.mem_cons, List.mem_append] at mem ⊢
    rcases mem with rfl | below | later
    · exact Or.inr (Or.inl (mem_allLevels held))
    · exact Or.inr (Or.inl (inside below))
    · exact Or.inr (Or.inr (after later))

end Node

namespace Tree

/-- The levels that are rendered for a tree: its own, and one for the children of each element. -/
def levels (tree : Tree) : List Tree :=
  tree :: Node.allLevels tree.children

/-- The children of an element on a level are a level too. -/
theorem below_mem_levels {tree level : Tree} (mem : level ∈ tree.levels) {name opening : String}
    {children : List Node} (held : .element name opening children ∈ level.children) :
    ⟨children⟩ ∈ tree.levels := by
  -- The element stands at the top, or on a level below.
  rcases List.mem_cons.mp mem with rfl | below
  · exact List.mem_cons_of_mem _ (Node.mem_allLevels held)
  · exact List.mem_cons_of_mem _ (Node.below_mem_allLevels below held)

/-- What holds of a tree, and passes from a level to the children of an element on it, holds of all
levels. -/
@[elab_as_elim]
theorem levels_induction {motive : Tree → Prop} {tree level : Tree} (mem : level ∈ tree.levels)
    (top : motive tree)
    (below : ∀ level, motive level → ∀ name opening children,
      .element name opening children ∈ level.children → motive ⟨children⟩) : motive level := by
  -- What is known of nodes is that the children of their elements have the property.
  let Held (nodes : List Node) : Prop :=
    ∀ name opening children, .element name opening children ∈ nodes → motive ⟨children⟩
  have tail {node : Node} {rest : List Node} (held : Held (node :: rest)) : Held rest :=
    fun name opening children mem => held name opening children (List.mem_cons_of_mem _ mem)
  -- The levels below nodes are those of their elements, each one reached from the level above it.
  have inner (nodes : List Node) (held : Held nodes) : ∀ level ∈ Node.allLevels nodes,
      motive level := by
    induction nodes using Node.siblings_induction with
    | nil => simp [Node.allLevels]
    | text content rest ih => exact ih (tail held)
    | placeholder name rest ih => exact ih (tail held)
    | leaf name rest ih => exact ih (tail held)
    | element name opening children rest inside after =>
      have here : motive ⟨children⟩ := held name opening children List.mem_cons_self
      have within := inside (below ⟨children⟩ here)
      have later := after (tail held)
      exact List.forall_mem_cons.mpr ⟨here, List.forall_mem_append.mpr ⟨within, later⟩⟩
  rcases List.mem_cons.mp mem with rfl | deeper
  · exact top
  · exact inner tree.children (below tree top) level deeper

end Tree

namespace Derivation

variable {markup : Markup} {closes : TagMatcher}

/-- The children of an element have a derivation of their own, from tokens that stand in a row among
those of the whole. -/
theorem exists_inner {derivation : Derivation} (valid : derivation.Valid markup closes)
    {name opening : String} {children : List Node}
    (mem : .element name opening children ∈ derivation.nodes markup.names) :
    ∃ inner : Derivation, inner.Valid markup closes ∧ inner.nodes markup.names = children ∧
      inner.tokens <:+: derivation.tokens := by
  -- The children of an element lie inside the pair that the element is made of.
  induction derivation with
  | empty => cases mem
  | leaf token rest ih =>
    obtain ⟨made, restValid⟩ := valid
    rcases List.mem_append.mp mem with alone | later
    · -- A token that makes a node by itself makes no element.
      have made := Option.mem_toList.mp alone
      unfold NameExtractors.leaf? at made
      split at made <;> cases made
    · obtain ⟨inner, innerValid, same, within⟩ := ih restValid later
      exact ⟨inner, innerValid, same, List.infix_cons within⟩
  | pair first between last rest _ ih =>
    obtain ⟨_, _, _, betweenValid, restValid⟩ := valid
    rcases List.mem_cons.mp mem with here | later
    · -- The element is made of this pair, and its children of what stands between the tags.
      obtain ⟨_, _, same⟩ := Node.element.inj here
      exact ⟨between, betweenValid, same.symm, [first], last :: rest.tokens, by simp [tokens]⟩
    · obtain ⟨inner, innerValid, same, within⟩ := ih restValid later
      have behind : rest.tokens <:+ (pair first between last rest).tokens :=
        ⟨first :: (between.tokens ++ [last]), by simp [tokens]⟩
      exact ⟨inner, innerValid, same, within.trans behind.isInfix⟩

/-- Every level of a tree that has a derivation has one of its own, from tokens that stand in a row
among those of the tree. -/
theorem exists_of_mem_levels {derivation : Derivation} (valid : derivation.Valid markup closes)
    {tree level : Tree} (same : derivation.nodes markup.names = tree.children)
    (mem : level ∈ tree.levels) :
    ∃ inner : Derivation, inner.Valid markup closes ∧
      inner.nodes markup.names = level.children ∧ inner.tokens <:+: derivation.tokens := by
  -- From level to level, the tokens are some in a row among those of the level above.
  refine Tree.levels_induction mem ⟨derivation, valid, same, List.infix_refl _⟩ ?_
  rintro level ⟨outer, outerValid, outerSame, outerWithin⟩ name opening children mem
  rw [← outerSame] at mem
  obtain ⟨inner, innerValid, innerSame, within⟩ := exists_inner outerValid mem
  exact ⟨inner, innerValid, innerSame, within.trans outerWithin⟩

end Derivation

end TagTemplate
