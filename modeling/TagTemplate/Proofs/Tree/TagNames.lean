import TagTemplate.Proofs.Tree.Levels

/-! The names of the tags of a tree: where they stand in the tree, in which order they are listed,
and from which tokens they come. -/

namespace TagTemplate

/-- The name and the children of a tag, if a node is one. -/
def Node.tag? : Node → Option (String × List Node)
  | .text _ => none
  | .placeholder _ => none
  | .leaf name => some (name, [])
  | .element name _ children => some (name, children)

/-- Whether a name is that of a tag on some level of a tree. -/
def Tree.HasTag (tree : Tree) (name : String) : Prop :=
  ∃ level ∈ tree.levels, ∃ node ∈ level.children, ∃ children, node.tag? = some (name, children)

namespace Node

/-- The names among nodes are those in each of them. -/
theorem mem_allTags {name : String} {nodes : List Node} :
    name ∈ allTags nodes ↔ ∃ node ∈ nodes, name ∈ node.tags := by
  -- The names are collected node by node.
  induction nodes with
  | nil => simp [allTags]
  | cons node rest ih => simp [allTags, ih]

/-- The name of a tag is the first one in it. -/
theorem mem_tags_of_tag? {node : Node} {name : String} {children : List Node}
    (tag : node.tag? = some (name, children)) : name ∈ node.tags := by
  -- Text and placeholders are no tags, and both kinds of tags list their own names first.
  cases node <;> cases tag <;> simp [tags]

end Node

namespace Tree

variable {tree : Tree}

/-- A name that is collected from nodes of a level is that of a tag on this level or below it. -/
theorem hasTag_of_mem_allTags {level : Tree} (mem : level ∈ tree.levels) {name : String}
    {nodes : List Node} (held : ∀ node ∈ nodes, node ∈ level.children)
    (collected : name ∈ Node.allTags nodes) : tree.HasTag name := by
  -- Inside an element the nodes are those of the level below, so the level varies.
  induction nodes using Node.siblings_induction generalizing level with
  | nil => simp [Node.allTags] at collected
  | text content rest ih =>
    exact ih mem (List.forall_mem_cons.mp held).2 collected
  | placeholder other rest ih =>
    exact ih mem (List.forall_mem_cons.mp held).2 collected
  | leaf other rest ih =>
    obtain ⟨here, later⟩ := List.forall_mem_cons.mp held
    rcases List.mem_cons.mp collected with rfl | collected
    · exact ⟨level, mem, _, here, [], rfl⟩
    · exact ih mem later collected
  | element other opening children rest inside after =>
    obtain ⟨here, later⟩ := List.forall_mem_cons.mp held
    rcases List.mem_cons.mp collected with rfl | collected
    · exact ⟨level, mem, _, here, children, rfl⟩
    · -- What is collected inside belongs to the level below, the rest to this one.
      rcases List.mem_append.mp collected with within | behind
      · exact inside (below_mem_levels mem here) (fun _ mem => mem) within
      · exact after mem later behind

/-- The names that are listed are those of the tags on all levels. -/
theorem mem_tagNames_iff_hasTag {name : String} : name ∈ tree.tagNames ↔ tree.HasTag name := by
  rw [mem_tagNames]
  constructor
  · exact hasTag_of_mem_allTags List.mem_cons_self fun _ mem => mem
  · rintro ⟨level, mem, node, held, children, tag⟩
    -- The names of a level are collected with those of the element that it belongs to.
    have collected : ∀ name ∈ Node.allTags level.children, name ∈ Node.allTags tree.children := by
      refine levels_induction mem (fun _ mem => mem) ?_
      intro level collected other opening children held name mem
      have within : name ∈ (Node.element other opening children).tags :=
        List.mem_cons_of_mem _ mem
      exact collected name (Node.mem_allTags.mpr ⟨_, held, within⟩)
    exact collected name (Node.mem_allTags.mpr ⟨node, held, Node.mem_tags_of_tag? tag⟩)

/-- A name that is put in its place leaves the names in ascending order. -/
theorem pairwise_insertName {name : String} {names : List String}
    (ascending : names.Pairwise (· < ·)) : (insertName name names).Pairwise (· < ·) := by
  -- The name is put in front of the first one that is greater, unless it is listed already.
  fun_induction insertName name names with
  | case1 => exact List.pairwise_singleton _ _
  | case2 => exact ascending
  | case3 other rest _ less =>
    obtain ⟨first, _⟩ := List.pairwise_cons.mp ascending
    refine List.pairwise_cons.mpr ⟨?_, ascending⟩
    intro next mem
    rcases List.mem_cons.mp mem with rfl | later
    · exact less
    · exact String.lt_trans less (first next later)
  | case4 other rest different notLess ih =>
    obtain ⟨first, ascending⟩ := List.pairwise_cons.mp ascending
    refine List.pairwise_cons.mpr ⟨?_, ih ascending⟩
    intro next mem
    rcases mem_insertName.mp mem with rfl | later
    · -- The new name is neither the first one nor before it.
      exact Std.lt_of_le_of_ne (String.not_lt.mp notLess) (Ne.symm different)
    · exact first next later

/-- The names of the tags are listed in ascending order, so none is listed twice. -/
theorem pairwise_tagNames (tree : Tree) : tree.tagNames.Pairwise (· < ·) := by
  -- The names are put in their places one by one.
  unfold tagNames
  induction Node.allTags tree.children with
  | nil => exact .nil
  | cons name rest ih => exact pairwise_insertName ih

/-- No name is listed twice. -/
theorem nodup_tagNames (tree : Tree) : tree.tagNames.Nodup := by
  -- Of two names in order the first is less, so they are not the same.
  refine tree.pairwise_tagNames.imp ?_
  rintro name _ less rfl
  exact String.lt_irrefl name less

end Tree

/-- The name of a tag that a token starts, if it starts one. -/
def NameExtractors.tagName? (names : NameExtractors) (token : Token) : Option String :=
  if token.kind = .opening ∨ token.kind = .selfClosing
  then some (names.extract token.kind token.raw)
  else none

namespace Derivation

variable {markup : Markup} {closes : TagMatcher}

/-- A token that makes a node by itself has the name that the node is collected under, if any. -/
theorem tags_leaf {names : NameExtractors} {token : Token} {node : Node}
    (made : names.leaf? token = some node) : node.tags = (names.tagName? token).toList := by
  -- The tags of elements make no node, which leaves three kinds.
  obtain ⟨kind, raw, position⟩ := token
  cases kind <;> cases made <;> rfl

/-- The names among the nodes of a derivation are those of its opening and self-closing tags, in the
same order. -/
theorem allTags_nodes {derivation : Derivation} (valid : derivation.Valid markup closes) :
    Node.allTags (derivation.nodes markup.names) =
      derivation.tokens.filterMap markup.names.tagName? := by
  -- Nodes and tokens are in the same order, and closing tags collect nothing.
  induction derivation with
  | empty => rfl
  | leaf token rest ih =>
    obtain ⟨node, made⟩ := Option.isSome_iff_exists.mp valid.1
    have named := tags_leaf made
    simp only [nodes, made, Option.toList_some, List.cons_append, List.nil_append, Node.allTags,
      named, ih valid.2, tokens, List.filterMap_cons]
    cases markup.names.tagName? token <;> rfl
  | pair opening inner closing rest inside after =>
    obtain ⟨openingKind, closingKind, _, innerValid, restValid⟩ := valid
    -- The opening tag gives the name of the element, and the closing tag gives none.
    have opens : markup.names.tagName? opening =
        some (markup.names.extract .opening opening.raw) := by
      simp [NameExtractors.tagName?, openingKind]
    have closes : markup.names.tagName? closing = none := by
      simp [NameExtractors.tagName?, closingKind]
    simp only [nodes, Node.allTags, Node.tags, inside innerValid, after restValid, tokens,
      List.filterMap_cons, List.filterMap_append, opens, closes, List.cons_append]

end Derivation

namespace Tree

variable {α : Type}

/-- The names of the tags of a tree that was built from tokens are those of its opening and
self-closing tags. -/
theorem mem_tagNames_of_ofTokens {config : Config α} {tokens : List Token} {template : String}
    {tree : Tree} (built : ofTokens tokens config template = .ok tree) {name : String} :
    name ∈ tree.tagNames ↔ ∃ token ∈ tokens,
      (token.kind = .opening ∨ token.kind = .selfClosing) ∧
        config.markup.names.extract token.kind token.raw = name := by
  -- The names are collected from the nodes of the derivation, and so from its tokens.
  obtain ⟨derivation, valid, rfl, same⟩ := derivation_of_ofTokens built
  rw [mem_tagNames, ← same, Derivation.allTags_nodes valid, List.mem_filterMap]
  simp only [NameExtractors.tagName?, Option.ite_none_right_eq_some, Option.some.injEq]

end Tree

end TagTemplate
