import Mathlib.Logic.Relation
import TagTemplate.Proofs.Render.Items

/-! Rewriting the text of a tree: rendering cannot tell a placeholder from the text it stands for, a
text from its parts, or a placeholder that leaves nothing from none at all. -/

namespace TagTemplate

variable {α : Type}

/-- The text that a value puts in place of a placeholder, if it is text or a number. -/
def Value.text? : Value α → Option String
  | .text content => some content
  | .number value => some value.display
  | .renderer _ => none
  | .ready _ => none

/-- The text that a placeholder of a name stands for, if the name has text or a number. -/
def Context.text? (context : Context α) (name : String) : Option String :=
  (context.get? name).bind Value.text?

/-- A placeholder that stands for text adds that text to the run. -/
theorem Level.placeholder_of_text? {config : Config α} {context : Context α} {name content : String}
    (stands : context.text? name = some content) (level : Level α) :
    level.placeholder config context name = level.queue content := by
  rw [Context.text?] at stands
  rw [placeholder]
  -- Text and numbers are the only values that stand for text.
  cases found : context.get? name with
  | none => simp [found] at stands
  | some value =>
    rw [found, Option.bind_some] at stands
    cases value with
    | text other =>
      have same : other = content := Option.some.inj stands
      rw [same]
    | number value =>
      have same : value.display = content := Option.some.inj stands
      simp only [same]
    | renderer renderer => cases stands
    | ready ready => cases stands

/-- One rewrite of the text among nodes, at any depth. -/
inductive Rewrites (config : Config α) (context : Context α) : List Node → List Node → Prop where
  /-- A placeholder that stands for text becomes that text. -/
  | inline {name content : String} (stands : context.text? name = some content)
      (rest : List Node) :
    Rewrites config context (.placeholder name :: rest) (.text content :: rest)
  /-- Two neighbouring texts become one. -/
  | merge (left right : String) (rest : List Node) :
    Rewrites config context (.text left :: .text right :: rest) (.text (left ++ right) :: rest)
  /-- A placeholder without a value goes, if nothing handles missing names. -/
  | drop {name : String} (unset : config.missing = none) (absent : context.get? name = none)
      (rest : List Node) :
    Rewrites config context (.placeholder name :: rest) rest
  /-- The rewrite is done behind a node. -/
  | behind (node : Node) {nodes others : List Node} (step : Rewrites config context nodes others) :
    Rewrites config context (node :: nodes) (node :: others)
  /-- The rewrite is done among the children of an element. -/
  | inside (name opening : String) {children others : List Node}
      (step : Rewrites config context children others) (rest : List Node) :
    Rewrites config context (.element name opening children :: rest)
      (.element name opening others :: rest)

/-- Whether two levels have the same output and the same text waiting, in whatever parts it waits.
Empty text that waits is told from no text. -/
structure Level.SameRun (one other : Level α) : Prop where
  output : one.output = other.output
  idle : one.waiting = [] ↔ other.waiting = []
  text : String.join one.waiting.reverse = String.join other.waiting.reverse

namespace Level.SameRun

variable {config : Config α} {context : Context α} {one other : Level α}

/-- Every level has the same text waiting as itself. -/
protected theorem refl (level : Level α) : level.SameRun level :=
  ⟨rfl, Iff.rfl, rfl⟩

/-- Levels that are the same have the same text waiting. -/
theorem of_eq (same : one = other) : one.SameRun other :=
  same ▸ .refl one

/-- More text makes both runs longer. -/
theorem queue (same : one.SameRun other) (text : String) :
    (one.queue text).SameRun (other.queue text) := by
  -- A run that grows is not idle on either side, whatever it was before.
  refine ⟨same.output, by simp [Level.queue], ?_⟩
  simp [Level.queue, same.text]

/-- Two texts one after the other wait as their joined text does. -/
theorem queue_append (level : Level α) (left right : String) :
    ((level.queue left).queue right).SameRun (level.queue (left ++ right)) := by
  -- The two texts are neighbours in the waiting run, so they are joined in this order.
  refine ⟨rfl, by simp [Level.queue], ?_⟩
  simp [Level.queue]

/-- Ending the run makes one output value of the joined text, so that no difference is left. -/
theorem flush (same : one.SameRun other) : one.flush config = other.flush config := by
  obtain ⟨output, waiting⟩ := one
  obtain ⟨_, others⟩ := other
  obtain ⟨sameOutput, idle, text⟩ := same
  simp only at sameOutput idle text
  subst sameOutput
  -- Either both levels wait for nothing, or both runs become one value each.
  cases waiting with
  | nil =>
    have none : others = [] := idle.mp rfl
    rw [none]
  -- The other run is not empty either, so its joined text and its index decide.
  | cons last parts =>
    obtain ⟨first, rest, rfl⟩ : ∃ first rest, others = first :: rest :=
      List.exists_cons_of_ne_nil fun none => by simp [none] at idle
    simp only [Level.flush, text, index]

/-- A level is finished by ending its run. -/
theorem finish (same : one.SameRun other) : one.finish config = other.finish config := by
  rw [Level.finish, Level.finish, same.flush]

/-- A name without a value is handled after the run has ended, or changes neither level. -/
theorem miss (same : one.SameRun other) (name : String) (children : List α) :
    (one.miss config name children).SameRun (other.miss config name children) := by
  -- With a handler both runs end first; without one both levels are left as they are.
  unfold Level.miss
  cases config.missing with
  | none => exact same
  | some handle =>
    simp only [same.flush]
    exact .refl _

/-- A node keeps levels the same: it makes both runs longer, ends both or leaves both alone. -/
theorem render (same : one.SameRun other) (node : Node) :
    (node.render config context one).SameRun (node.render config context other) := by
  cases node with
  | text content => exact same.queue content
  | placeholder name =>
    -- Text grows the run, a missing name is handled, and all other values end the run.
    simp only [Node.render, Level.placeholder]
    cases context.get? name with
    | none => exact same.miss name []
    | some value =>
      cases value with
      | text content => exact same.queue content
      | number number => exact same.queue number.display
      | renderer renderer => exact .of_eq same.flush
      | ready ready => exact .of_eq (by simp only [same.flush])
  | leaf name =>
    -- A tag ends the run before anything else.
    apply of_eq
    simp only [Node.render, Level.leaf, same.flush]
  -- The children are rendered from nothing, so they are the same on both sides.
  | element name opening children =>
    apply of_eq
    simp only [Node.render, Level.element, same.flush]

/-- Nodes keep levels the same, one after another. -/
theorem renderAll (same : one.SameRun other) (nodes : List Node) :
    (Node.renderAll config context one nodes).SameRun
      (Node.renderAll config context other nodes) := by
  induction nodes generalizing one other with
  | nil => exact same
  | cons node rest ih => exact ih (same.render node)

end Level.SameRun

namespace Rewrites

variable {config : Config α} {context : Context α} {nodes others : List Node}

/-- A rewrite changes at most the parts in which text waits. -/
theorem renderAll (step : Rewrites config context nodes others) (level : Level α) :
    (Node.renderAll config context level nodes).SameRun
      (Node.renderAll config context level others) := by
  -- The nodes in front of the rewrite lead to any level, so the level varies.
  induction step generalizing level with
  | inline stands rest =>
    apply Level.SameRun.of_eq
    rw [Node.renderAll, Node.renderAll, Node.render, Node.render,
      Level.placeholder_of_text? stands]
  | merge left right rest => exact (Level.SameRun.queue_append level left right).renderAll rest
  | @drop name unset absent rest =>
    have skipped : level.placeholder config context name = level := by
      rw [Level.placeholder, absent]
      exact Level.miss_eq_self unset name []
    apply Level.SameRun.of_eq
    rw [Node.renderAll, Node.render, skipped]
  | behind node _ ih => exact ih _
  | @inside name opening children others _ rest ih =>
    -- The children are finished before the element is rendered, which leaves no difference.
    have below : (Node.renderAll config context .start children).finish config =
        (Node.renderAll config context .start others).finish config := (ih .start).finish
    apply Level.SameRun.of_eq
    rw [Node.renderAll, Node.renderAll, Node.render, Node.render, below]

/-- A rewrite does not change what is rendered. -/
theorem render_eq (step : Rewrites config context nodes others) :
    Tree.render ⟨nodes⟩ config context = Tree.render ⟨others⟩ config context :=
  -- Both renderings start with nothing, and their levels are finished at the end.
  (step.renderAll .start).finish

end Rewrites

mutual

/-- A node with every placeholder that stands for text replaced by that text. -/
def Node.inlined (context : Context α) : Node → Node
  | .text content => .text content
  | .placeholder name =>
    match context.text? name with
    | some content => .text content
    | none => .placeholder name
  | .leaf name => .leaf name
  | .element name opening children => .element name opening (Node.allInlined context children)

/-- Nodes with every placeholder that stands for text replaced by that text, those inside elements
included. -/
def Node.allInlined (context : Context α) : List Node → List Node
  | [] => []
  | node :: rest => node.inlined context :: Node.allInlined context rest

end

/-- Placeholders are replaced by rewriting them one by one. -/
theorem Node.rewrites_allInlined (config : Config α) (context : Context α) (nodes : List Node) :
    Relation.ReflTransGen (Rewrites config context) nodes (Node.allInlined context nodes) := by
  -- What is done behind a node or inside an element is done among all nodes, step by step.
  have behind (node : Node) {nodes others : List Node}
      (steps : Relation.ReflTransGen (Rewrites config context) nodes others) :
      Relation.ReflTransGen (Rewrites config context) (node :: nodes) (node :: others) :=
    steps.lift (node :: ·) fun _ _ step => Rewrites.behind node step
  induction nodes using Node.siblings_induction with
  | nil => exact .refl
  | text content rest ih => exact behind (.text content) ih
  | placeholder name rest ih =>
    -- A placeholder that stands for no text stays, and what is behind it is rewritten.
    cases stands : context.text? name with
    | none => simpa [allInlined, inlined, stands] using behind (.placeholder name) ih
    | some content =>
      -- The placeholder becomes text first, and then the nodes behind it are rewritten.
      have first : Rewrites config context (.placeholder name :: rest) (.text content :: rest) :=
        .inline stands rest
      simpa [allInlined, inlined, stands] using (behind (.text content) ih).head first
  | leaf name rest ih => exact behind (.leaf name) ih
  | element name opening children rest inside after =>
    -- All steps inside the element come before those behind it.
    have below := inside.lift (fun nodes => .element name opening nodes :: rest)
      fun _ _ step => Rewrites.inside name opening step rest
    exact below.trans (behind (.element name opening _) after)

namespace Tree

/-- A tree with every placeholder that stands for text replaced by that text, at every depth. -/
def inlined (tree : Tree) (context : Context α) : Tree :=
  ⟨Node.allInlined context tree.children⟩

/-- Rewrites of the text of a tree, any number of them, at any depth and in either direction, do not
change what is rendered. So every placeholder that stands for text can be replaced by that text as
it is, wherever it stands and whatever characters of the markup are in the text. -/
theorem render_rewritten (config : Config α) (context : Context α) :
    (∀ tree other : Tree,
      Relation.EqvGen (Rewrites config context) tree.children other.children →
        tree.render config context = other.render config context) ∧
    ∀ tree : Tree, (tree.inlined context).render config context = tree.render config context := by
  have rewritten : ∀ nodes others : List Node,
      Relation.EqvGen (Rewrites config context) nodes others →
        render ⟨nodes⟩ config context = render ⟨others⟩ config context := by
    intro nodes others steps
    -- The steps may go in both directions; each of them keeps what is rendered.
    induction steps with
    | rel _ _ step => exact step.render_eq
    | refl => rfl
    | symm _ _ _ ih => exact ih.symm
    | trans _ _ _ _ _ first second => exact first.trans second
  refine ⟨fun tree other steps => rewritten _ _ steps, fun tree => ?_⟩
  -- Inlining is some of the rewrites in a row, which go in one direction.
  have steps := Relation.EqvGen.reflTransGen_le_eqvGen _ _ _
    (Node.rewrites_allInlined config context tree.children)
  exact (rewritten _ _ steps).symm

/-- A value that looks like a tag is inlined at two depths, two names without a value are dropped,
and texts are joined inside the element and split in front of it. -/
theorem render_rewritten_markup :
    let config : Config String := .plain fun text _ => "(" ++ text ++ ")"
    let context : Context String := .ofEntries [("n", .text "<b>"),
      ("b", .renderer (.element fun children _ => "[" ++ String.join children ++ "]"))]
    let tree : Tree := ⟨[.placeholder "x", .placeholder "n",
      .element "b" "<b>" [.text "a", .placeholder "x", .placeholder "n"]]⟩
    let other : Tree := ⟨[.text "<", .text "b>", .element "b" "<b>" [.text "a<b>"]]⟩
    Relation.EqvGen (Rewrites config context) tree.children other.children ∧
      tree.render config context = other.render config context ∧
      other.render config context = ["(<b>)", "[(a<b>)]"] := by
  intro config context tree other
  have unset : config.missing = none := rfl
  have absent : context.get? "x" = none := rfl
  have stands : context.text? "n" = some "<b>" := rfl
  -- The placeholders go first, from the front to the back.
  have front : Relation.ReflTransGen (Rewrites config context) tree.children
      [.text "<b>", .element "b" "<b>" [.text "a<b>"]] :=
    .trans (.single (.drop unset absent _)) <|
    .trans (.single (.inline stands _)) <|
    .trans (.single (.behind _ (.inside _ _ (.behind _ (.drop unset absent _)) _))) <|
    .trans (.single (.behind _ (.inside _ _ (.behind _ (.inline stands _)) _))) <|
    .single (.behind _ (.inside _ _ (.merge "a" "<b>" _) _))
  -- The texts of the other tree are joined to what the placeholder became.
  have back : Rewrites config context other.children
      [.text "<b>", .element "b" "<b>" [.text "a<b>"]] :=
    .merge "<" "b>" _
  have steps : Relation.EqvGen (Rewrites config context) tree.children other.children :=
    .trans _ _ _ (Relation.EqvGen.reflTransGen_le_eqvGen _ _ _ front) (.symm _ _ (.rel _ _ back))
  exact ⟨steps, (render_rewritten config context).1 tree other steps, rfl⟩

end Tree

end TagTemplate
