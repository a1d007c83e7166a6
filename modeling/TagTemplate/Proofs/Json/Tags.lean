import Mathlib.Data.Set.Card
import TagTemplate.Proofs.Json.Context
import TagTemplate.Proofs.Render.Items
import TagTemplate.Proofs.Tree.TagNames

/-! A context is completed by the tags of a tree: names keep what they have, tags without a value
show themselves, and each of these leaves one value where it stands. -/

namespace TagTemplate

namespace Context

variable {context : Context Json} {name : String}

/-- The context with a renderer that shows the tags of a name, unless the name has a value. -/
def addTag (context : Context Json) (name : String) : Context Json :=
  if context.contains name then context
  else context.insert name (.renderer (.element (Json.ofTag name)))

/-- A context is completed by adding the names of the tags one by one. -/
theorem withTags_eq_foldl (context : Context Json) (tree : Tree) :
    context.withTags tree = tree.tagNames.foldl addTag context :=
  rfl

/-- A name that has a value is not added. -/
theorem addTag_eq_self (known : context.contains name = true) : context.addTag name = context := by
  -- The name has a value, so nothing is put in its place.
  rw [addTag, if_pos known]

/-- Names that have values are not added. -/
theorem foldl_addTag_eq_self {names : List String}
    (known : ∀ name ∈ names, context.contains name = true) :
    names.foldl addTag context = context := by
  -- No context changes, so what is known of all names is known behind each of them.
  induction names with
  | nil => rfl
  | cons name rest ih =>
    -- The first name leaves the context as it is, so that the others are still known.
    obtain ⟨here, later⟩ := List.forall_mem_cons.mp known
    rw [List.foldl_cons, addTag_eq_self here]
    exact ih later

/-- Adding a name does not make another one known. -/
theorem contains_addTag_of_ne {other : String} (different : other ≠ name) :
    (context.addTag name).contains other = context.contains other := by
  -- Either nothing is added, or the added name is another one.
  unfold addTag
  split
  · rfl
  · simp [contains, different]

/-- A context grows by the names that it does not have, each of them added once. -/
theorem size_foldl_addTag {names : List String} (distinct : names.Nodup)
    (context : Context Json) :
    (names.foldl addTag context).size =
      context.size + (names.filter fun name => !context.contains name).length := by
  -- Every name that is added changes the context for those behind it.
  induction names generalizing context with
  | nil => rfl
  | cons name rest ih =>
    obtain ⟨fresh, distinct⟩ := List.nodup_cons.mp distinct
    -- The names differ, so adding the first one makes none of the others known.
    have unchanged : (rest.filter fun other => !(context.addTag name).contains other) =
        rest.filter fun other => !context.contains other := by
      apply List.filter_congr
      intro other mem
      have different : other ≠ name := fun same => fresh (same ▸ mem)
      rw [contains_addTag_of_ne different]
    rw [List.foldl_cons, ih distinct, unchanged]
    cases known : context.contains name with
    | true => rw [addTag_eq_self known, List.filter_cons_of_neg (by simp [known])]
    | false =>
      -- A name without a value is new to the entries of the context.
      have grown : (context.addTag name).size = context.size + 1 := by
        simp [addTag, known, size_insert]
      rw [grown, List.filter_cons_of_pos (by simp [known]), List.length_cons]
      omega

/-- A name has no value in a context if and only if the context does not contain it. -/
theorem contains_eq_false_iff : context.contains name = false ↔ context.get? name = none := by
  simp [contains]

/-- Whether a context has exactly what another one has, and renderers for the tags of a tree that
the other one lacks. -/
structure Completes (completed context : Context Json) (tree : Tree) : Prop where
  /-- A name that has a value keeps it. -/
  kept : ∀ name value, context.get? name = some value → completed.get? name = some value
  /-- A tag without a value is shown with its children and its index. -/
  shown : ∀ name, tree.HasTag name → context.get? name = none →
    completed.get? name = some (.renderer (.element fun children index =>
      .object [("children", .array children), ("key", .int index), ("tag", .string name)]))
  /-- No other name gets a value. -/
  absent : ∀ name, ¬ tree.HasTag name → context.get? name = none → completed.get? name = none
  /-- There is one name more for each of these tags. -/
  grown : completed.size =
    context.size + {name | tree.HasTag name ∧ context.get? name = none}.ncard

/-- What is called the completed context is one. -/
theorem completes_withTags (context : Context Json) (tree : Tree) :
    (context.withTags tree).Completes context tree where
  -- What a name gives in the context goes before what the tags add.
  kept name value found := by simp [get?_withTags, found]
  shown name tag missing := by
    rw [get?_withTags, missing, if_pos (Tree.mem_tagNames_iff_hasTag.mpr tag)]
    rfl
  absent name noTag missing := by
    rw [get?_withTags, missing, if_neg (mt Tree.mem_tagNames_iff_hasTag.mp noTag)]
    rfl
  grown := by
    -- The names that are added are the listed ones that the context lacks.
    let added := tree.tagNames.filter fun name => !context.contains name
    have counted : {name | tree.HasTag name ∧ context.get? name = none} = ↑added.toFinset := by
      ext name
      simp [added, Tree.mem_tagNames_iff_hasTag, contains_eq_false_iff]
    rw [counted, Set.ncard_coe_finset, List.toFinset_card_of_nodup (tree.nodup_tagNames.filter _),
      withTags_eq_foldl]
    exact size_foldl_addTag tree.nodup_tagNames context

/-- The names of all tags are known in the completed context. -/
theorem contains_withTags (context : Context Json) {tree : Tree} (tag : name ∈ tree.tagNames) :
    (context.withTags tree).contains name = true := by
  -- The name keeps its value, or the renderer of the tag takes its place.
  rw [contains, get?_withTags, if_pos tag]
  cases context.get? name <;> rfl

/-- A context that is complete is not completed further. -/
theorem withTags_withTags (context : Context Json) (tree : Tree) :
    (context.withTags tree).withTags tree = context.withTags tree := by
  -- After the first completion all tags are known, so the second one adds nothing.
  rw [withTags_eq_foldl (context.withTags tree)]
  exact foldl_addTag_eq_self fun _ tag => contains_withTags context tag

/-- Completed by the tags of two trees, a context gives the same in either order. -/
theorem get?_withTags_comm (context : Context Json) (tree other : Tree) (name : String) :
    ((context.withTags tree).withTags other).get? name =
      ((context.withTags other).withTags tree).get? name := by
  simp only [get?_withTags, Option.or_assoc]
  -- Both trees offer the same renderer for a name.
  by_cases here : name ∈ tree.tagNames <;> by_cases there : name ∈ other.tagNames <;>
    simp [here, there]

end Context

namespace Node

variable {config : Config Json} {context : Context Json}

/-- A tag that shows itself is one value among the items of its level, with its children as they are
rendered. -/
theorem items_of_tag? {node : Node} {name : String} {children : List Node}
    (tag : node.tag? = some (name, children))
    (shown : context.get? name = some (.renderer (.element (Json.ofTag name)))) :
    node.items config context =
      [.value (Json.ofTag name (Tree.render ⟨children⟩ config context))] := by
  -- Both kinds of tags find the same renderer; one without children renders an empty list.
  cases node with
  | text content => cases tag
  | placeholder name => cases tag
  | leaf name =>
    cases tag
    simp only [items, Item.ofTag, shown]
    rfl
  | element name opening children =>
    cases tag
    simp only [items, Item.ofTag, shown, Tree.render, finish_renderAll_start]
    rfl

end Node

namespace Tree

variable {config : Config Json} {context : Context Json}

/-- Whether every tag on a level leaves one value in its output: the tag with its rendered children
and the index of that value, behind what the nodes before the tag leave by themselves, and in front
of as many values as the nodes behind it do. -/
def ShowsTags (level : Tree) (config : Config Json) (context : Context Json) : Prop :=
  ∀ front node back name children, level.children = front ++ node :: back →
    node.tag? = some (name, children) →
      let before := Tree.render ⟨front⟩ config context
      let below := Tree.render ⟨children⟩ config context
      ∃ after, level.render config context =
          before ++ Json.ofTag name below before.length :: after ∧
        after.length = (Tree.render ⟨back⟩ config context).length

/-- Where the tags of a level have renderers that show them, each of them leaves one value. -/
theorem showsTags_of_shown {level : Tree}
    (shown : ∀ node ∈ level.children, ∀ name children, node.tag? = some (name, children) →
      context.get? name = some (.renderer (.element (Json.ofTag name)))) :
    level.ShowsTags config context := by
  -- The level is rendered in two passes, whose items are split at the tag.
  intro front node back name children same tag before below
  have rendered (nodes : List Node) : Tree.render ⟨nodes⟩ config context =
      Item.outputs config (Node.allItems config context nodes) :=
    Node.finish_renderAll_start config context nodes
  have held : node ∈ level.children := by simp [same]
  have single : node.items config context = [.value (Json.ofTag name below)] :=
    Node.items_of_tag? tag (shown node held name children tag)
  -- The tag is one item, between those of the nodes on both sides.
  have around : Node.allItems config context level.children =
      Node.allItems config context front ++
        .value (Json.ofTag name below) :: Node.allItems config context back := by
    simp [same, Node.allItems_eq_flatMap, single]
  have whole : level.render config context =
      Item.outputs config (Node.allItems config context level.children) :=
    rendered level.children
  -- What the nodes behind the tag make is moved by the values before them, which keeps its number.
  refine ⟨(Item.makers config (Node.allItems config context back)).mapIdx fun index make =>
    make (index + 1 + before.length), ?_, ?_⟩
  · rw [whole, around, Item.outputs_append_value, ← rendered front]
  · rw [rendered back, Item.outputs, List.length_mapIdx, List.length_mapIdx]

/-- The tags of a tree, none of which has a value, all show themselves in the completed context. -/
theorem showsTags_withTags {tree level : Tree}
    (missing : ∀ name, tree.HasTag name → context.get? name = none) (mem : level ∈ tree.levels) :
    level.ShowsTags config (context.withTags tree) := by
  -- No tag had a value, so each of them has its own renderer now.
  refine showsTags_of_shown ?_
  intro node held name children tag
  have standing : tree.HasTag name := ⟨level, mem, node, held, children, tag⟩
  exact (context.completes_withTags tree).shown name standing (missing name standing)

end Tree

namespace Context

/-- The completed context has what the context has, and renderers for the tags that lack a value,
which are the opening and self-closing tags of the tokens; completing it once more changes nothing,
nor does the order in which two trees complete it. Where no tag had a value, each tag on every level
leaves one value. -/
theorem withTags_exact (context : Context Json) (tree : Tree) :
    (context.withTags tree).Completes context tree ∧
    (context.withTags tree).withTags tree = context.withTags tree ∧
    (∀ other name, ((context.withTags tree).withTags other).get? name =
      ((context.withTags other).withTags tree).get? name) ∧
    tree.tagNames.Pairwise (· < ·) ∧
    (∀ {α : Type} (config : Config α) tokens template,
      Tree.ofTokens tokens config template = .ok tree →
        ∀ name, name ∈ tree.tagNames ↔ ∃ token ∈ tokens,
          (token.kind = .opening ∨ token.kind = .selfClosing) ∧
            config.markup.names.extract token.kind token.raw = name) ∧
    ((∀ name, tree.HasTag name → context.get? name = none) →
      ∀ config, ∀ level ∈ tree.levels, level.ShowsTags config (context.withTags tree)) := by
  -- What is left are the names of the tags among the tokens, and the levels of the tree.
  refine ⟨completes_withTags context tree, withTags_withTags context tree,
    get?_withTags_comm context tree, tree.pairwise_tagNames, ?_, ?_⟩
  · intro α config tokens template built name
    exact Tree.mem_tagNames_of_ofTokens built
  · intro missing config level mem
    exact Tree.showsTags_withTags missing mem

/-- A tag inside another one, and a placeholder that has a value: both tags show themselves. -/
theorem withTags_exact_nested :
    let config : Config Json := Config.plain fun text _ => .string text
    let context : Context Json := .ofEntries [("n", .text "1")]
    let inner : List Node := [.text "a", .placeholder "n", .leaf "i"]
    let tree : Tree := ⟨[.element "b" "<b>" inner]⟩
    let tokens : List Token := [⟨.opening, "<b>", 0⟩, ⟨.text, "a", 3⟩, ⟨.placeholder, "{n}", 4⟩,
      ⟨.selfClosing, "<i/>", 7⟩, ⟨.closing, "</b>", 11⟩]
    Tree.ofTokens tokens config "<b>a{n}<i/></b>" = .ok tree ∧
      (∃ token ∈ tokens, (token.kind = .opening ∨ token.kind = .selfClosing) ∧
        config.markup.names.extract token.kind token.raw = "i") ∧
      (∀ name, tree.HasTag name → context.get? name = none) ∧ ⟨inner⟩ ∈ tree.levels ∧
      Tree.ShowsTags ⟨inner⟩ config (context.withTags tree) := by
  intro config context inner tree tokens
  have built : Tree.ofTokens tokens config "<b>a{n}<i/></b>" = .ok tree := by
    simp only [tokens, config, tree, inner]
    rfl
  have listed : tree.tagNames = ["b", "i"] := rfl
  -- Only the two tags have renderers, and the context has neither name.
  have missing : ∀ name, tree.HasTag name → context.get? name = none := by
    intro name standing
    have named : name = "b" ∨ name = "i" := by
      simpa [listed] using Tree.mem_tagNames_iff_hasTag.mpr standing
    rcases named with rfl | rfl <;> rfl
  have mem : ⟨inner⟩ ∈ tree.levels := List.mem_cons_of_mem _ List.mem_cons_self
  obtain ⟨_, _, _, _, named, shows⟩ := withTags_exact context tree
  have last : "i" ∈ tree.tagNames := by simp [listed]
  exact ⟨built, (named config tokens _ built "i").mp last, missing, mem,
    shows missing config _ mem⟩

end Context

end TagTemplate
