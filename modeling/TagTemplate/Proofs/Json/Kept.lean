import TagTemplate.Proofs.Json.Context
import TagTemplate.Proofs.Render.Items

/-! Trees that leave placeholders out: a placeholder without a value leaves no trace, while one that
a renderer belongs to ends the text before it. -/

namespace TagTemplate

mutual

/-- A node without the placeholders whose names are not kept. -/
def Node.kept (keep : String → Bool) : Node → List Node
  | .text content => [.text content]
  | .placeholder name => if keep name then [.placeholder name] else []
  | .leaf name => [.leaf name]
  | .element name opening children => [.element name opening (Node.allKept keep children)]

/-- Nodes without the placeholders whose names are not kept, those inside elements included. -/
def Node.allKept (keep : String → Bool) : List Node → List Node
  | [] => []
  | node :: rest => node.kept keep ++ Node.allKept keep rest

end

/-- A tree without the placeholders whose names are not kept, at every depth. -/
def Tree.keeping (tree : Tree) (keep : String → Bool) : Tree :=
  ⟨Node.allKept keep tree.children⟩

section Rendering

variable {α : Type} {config : Config α} {context : Context α}

/-- Nodes are rendered into the level that the nodes before them leave. -/
theorem Node.renderAll_append (config : Config α) (context : Context α) (level : Level α)
    (front back : List Node) :
    Node.renderAll config context level (front ++ back) =
      Node.renderAll config context (Node.renderAll config context level front) back := by
  -- The level goes from node to node, so it varies.
  induction front generalizing level with
  | nil => rfl
  | cons node rest ih => exact ih (node.render config context level)

/-- Where nothing handles missing names, the placeholders of such names can be left out. -/
theorem Node.renderAll_allKept (unset : config.missing = none) {keep : String → Bool}
    (absent : ∀ name, keep name = false → context.get? name = none) (nodes : List Node)
    (level : Level α) :
    Node.renderAll config context level (Node.allKept keep nodes) =
      Node.renderAll config context level nodes := by
  -- The level differs from node to node, but not between the two lists.
  induction nodes using Node.siblings_induction generalizing level with
  | nil => rfl
  | text content rest ih => exact ih _
  | placeholder name rest ih =>
    cases kept : keep name with
    | true => simpa [Node.allKept, Node.kept, kept, Node.renderAll] using ih _
    | false =>
      -- The level is the same before and after the placeholder, waiting text included.
      have skipped : level.placeholder config context name = level := by
        rw [Level.placeholder, absent name kept]
        exact Level.miss_eq_self unset name []
      simp [Node.allKept, Node.kept, kept, Node.renderAll, Node.render, skipped, ih]
  | leaf name rest ih => exact ih _
  | element name opening children rest inside after =>
    simp [Node.allKept, Node.kept, Node.renderAll, Node.render, inside, after]

/-- A level whose run of text was ended is one that has its finished output and no text. -/
theorem Level.flush_eq_finish (config : Config α) (level : Level α) :
    level.flush config = ⟨(level.finish config).reverse, []⟩ := by
  -- Finishing reverses the output, and after the run has ended nothing waits.
  rw [finish, List.reverse_reverse, ← level.waiting_flush config]

/-- A placeholder with a renderer adds no output to that of the nodes before it, but their text is
over. -/
theorem Node.renderAll_bound {name : String} {renderer : Renderer α}
    (bound : context.get? name = some (.renderer renderer)) (level : Level α)
    (front back : List Node) :
    Node.renderAll config context level (front ++ .placeholder name :: back) =
      Node.renderAll config context
        ⟨((Node.renderAll config context level front).finish config).reverse, []⟩ back := by
  -- A placeholder that finds a renderer does no more than to end the run.
  rw [Node.renderAll_append, Node.renderAll, Node.render, Level.placeholder, bound,
    ← Level.flush_eq_finish]

end Rendering

/-- The context of a JSON value has the names of its members. -/
theorem Json.get?_context_eq_none_iff {json : Json} {context : Context Json}
    (made : json.context = .ok context) (name : String) :
    context.get? name = none ↔ json.member? name = none := by
  cases json with
  | object members =>
    obtain ⟨built, same, values⟩ := exists_context_object members
    obtain rfl : built = context := Except.ok.inj (same.symm.trans made)
    -- The context looks from the last member on, but finds a name in the same objects.
    simp [values, member?, List.lookup_eq_none_iff]
  -- No other JSON value is a context.
  | _ => cases made

/-- A name that is no member of the object gives the renderer of its tag, or nothing. -/
theorem Json.get?_withTags {json : Json} {context : Context Json}
    (made : json.context = .ok context) (tree : Tree) {name : String}
    (absent : json.member? name = none) :
    (context.withTags tree).get? name =
      if name ∈ tree.tagNames then some (.renderer (.element (ofTag name))) else none := by
  -- The name has no value in the context, so what the tags add is all there is.
  rw [Context.get?_withTags, (get?_context_eq_none_iff made name).mpr absent, Option.none_or]

namespace Tree

/-- Where nothing handles missing names, and every tag of a tree has a renderer unless the JSON
object has its name: placeholders that are neither members of the object nor tags of the tree can be
left out at every depth without a change to the output. A placeholder that has the name of a tag but
of no member adds no output either, wherever it stands among its siblings, but the nodes behind it
are rendered as behind finished output, so that the text around it is not joined. -/
theorem render_keeping {config : Config Json} (unset : config.missing = none) {json : Json}
    {context : Context Json} (made : json.context = .ok context) (tree : Tree) :
    tree.render config (context.withTags tree) =
        (tree.keeping fun name =>
          (json.member? name).isSome || tree.tagNames.contains name).render config
            (context.withTags tree) ∧
      ∀ name ∈ tree.tagNames, json.member? name = none → ∀ level front back,
        Node.renderAll config (context.withTags tree) level (front ++ .placeholder name :: back) =
          Node.renderAll config (context.withTags tree)
            ⟨((Node.renderAll config (context.withTags tree) level front).finish config).reverse,
              []⟩ back := by
  constructor
  · -- A name that is not kept has neither a member nor a renderer.
    have absent : ∀ name, ((json.member? name).isSome || tree.tagNames.contains name) = false →
        (context.withTags tree).get? name = none := by
      intro name dropped
      obtain ⟨noMember, noTag⟩ : json.member? name = none ∧ name ∉ tree.tagNames := by
        simpa using dropped
      rw [Json.get?_withTags made tree noMember, if_neg noTag]
    rw [render, render, keeping, Node.renderAll_allKept unset absent]
  · intro name tag noMember level front back
    -- The tag has a renderer, which its own placeholder finds.
    have bound : (context.withTags tree).get? name =
        some (.renderer (.element (Json.ofTag name))) := by
      rw [Json.get?_withTags made tree noMember, if_pos tag]
    exact Node.renderAll_bound bound level front back

/-- The tree of `{x}a{b}c<b/>`, in which one of the placeholders has the name of a tag. -/
def shared : Tree :=
  ⟨[.placeholder "x", .text "a", .placeholder "b", .text "c", .leaf "b"]⟩

/-- With an empty JSON object `{x}` can be left out of `{x}a{b}c<b/>`, and `{b}` ends the text
before it. -/
theorem render_keeping_shared :
    (Json.object []).context = .ok .empty ∧ "b" ∈ shared.tagNames ∧
      shared.render (Config.plain (Json.ofTextRun false)) (Context.empty.withTags shared) =
        render ⟨[.text "a", .placeholder "b", .text "c", .leaf "b"]⟩
          (Config.plain (Json.ofTextRun false)) (Context.empty.withTags shared) ∧
      Node.renderAll (Config.plain (Json.ofTextRun false)) (Context.empty.withTags shared) .start
          shared.children =
        Node.renderAll (Config.plain (Json.ofTextRun false)) (Context.empty.withTags shared)
          ⟨[.string "a"], []⟩ [.text "c", .leaf "b"] := by
  have made : (Json.object []).context = .ok .empty := rfl
  have tag : "b" ∈ shared.tagNames := by decide
  -- The first law drops the name without a value, the second one is used at the name of the tag.
  exact ⟨made, tag, (render_keeping rfl made shared).1,
    (render_keeping rfl made shared).2 "b" tag rfl .start [.placeholder "x", .text "a"]
      [.text "c", .leaf "b"]⟩

/-- Not every placeholder without a member can be left out: with an empty JSON object `{b}` keeps
the texts of `{x}a{b}c<b/>` apart, which makes one more value and gives the tag another index. -/
theorem render_ne_keeping_members :
    parse "\x7bx\x7da\x7bb\x7dc<b/>" (Config.plain (Json.ofTextRun false)) = .ok shared ∧
      (Json.object []).context = .ok .empty ∧
      shared.render (Config.plain (Json.ofTextRun false)) (Context.empty.withTags shared) ≠
        (shared.keeping fun name => ((Json.object []).member? name).isSome).render
          (Config.plain (Json.ofTextRun false)) (Context.empty.withTags shared) := by
  -- With the placeholder there are three values, the tag last.
  have apart :
      shared.render (Config.plain (Json.ofTextRun false)) (Context.empty.withTags shared) =
        [.string "a", .string "c", .ofTag "b" [] 2] := rfl
  -- Without it the texts are one value, and the tag has another index.
  have joined :
      (shared.keeping fun name => ((Json.object []).member? name).isSome).render
          (Config.plain (Json.ofTextRun false)) (Context.empty.withTags shared) =
        [.string "ac", .ofTag "b" [] 1] := rfl
  refine ⟨rfl, rfl, fun same => ?_⟩
  have lengths := congrArg List.length (apart.symm.trans (same.trans joined))
  exact absurd lengths (by decide)

end Tree

end TagTemplate
