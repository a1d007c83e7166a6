import TagTemplate.Config
import TagTemplate.Context
import TagTemplate.Tree

/-! Rendering a tree with a context. -/

namespace TagTemplate

/-- The output of one level of a tree, last value first, and the text that waits to be joined, last
part first. Waiting text may be empty text, which is not the same as none. -/
structure Level (α : Type) where
  output : List α
  waiting : List String

namespace Level

variable {α : Type}

/-- Nothing rendered yet. -/
def start : Level α :=
  ⟨[], []⟩

/-- The index of the next output value. -/
def index (level : Level α) : Nat :=
  level.output.length

/-- Adds text to the run that is waiting. -/
def queue (level : Level α) (text : String) : Level α :=
  { level with waiting := text :: level.waiting }

/-- Adds an output value. -/
def push (level : Level α) (value : α) : Level α :=
  { level with output := value :: level.output }

/-- Ends the run of text that is waiting, if any, with one output value for all of it. -/
def flush (config : Config α) (level : Level α) : Level α :=
  match level.waiting with
  | [] => level
  -- The run is told the index that its own output value takes.
  | waiting =>
    ⟨config.wrapText (String.join waiting.reverse) level.index :: level.output, []⟩

/-- After a run of text was ended nothing waits. -/
@[simp] theorem waiting_flush (config : Config α) (level : Level α) :
    (level.flush config).waiting = [] := by
  unfold flush
  split <;> simp_all

/-- Hands a name without a value to the configuration; without a way to do so the name leaves
nothing. -/
def miss (config : Config α) (level : Level α) (name : String) (children : List α) : Level α :=
  match config.missing with
  | none => level
  | some handle =>
    -- The text before the name comes first, so that the index is known.
    let level := level.flush config
    level.push (handle name children level.index)

/-- Renders a placeholder. A renderer is no value and only ends the run of text. -/
def placeholder (config : Config α) (context : Context α) (level : Level α) (name : String) :
    Level α :=
  match context.get? name with
  | some (.text content) => level.queue content
  | some (.number value) => level.queue value.display
  | some (.ready value) => (level.flush config).push value
  | some (.renderer _) => level.flush config
  | none => level.miss config name []

/-- Renders a tag without children. -/
def leaf (config : Config α) (context : Context α) (level : Level α) (name : String) : Level α :=
  -- A tag ends the run of text whether it leaves a value or not.
  let level := level.flush config
  match context.get? name with
  | some (.renderer renderer) => level.push (renderer.renderLeaf level.index)
  | _ => level.miss config name []

/-- Renders a tag with rendered children. -/
def element (config : Config α) (context : Context α) (level : Level α) (name : String)
    (children : List α) : Level α :=
  -- The children are rendered on a level of their own, so the index here is not theirs.
  let level := level.flush config
  match context.get? name with
  | some (.renderer renderer) => level.push (renderer.renderElement children level.index)
  | _ => level.miss config name children

/-- The output of a finished level. -/
def finish (config : Config α) (level : Level α) : List α :=
  (level.flush config).output.reverse

end Level

variable {α : Type}

mutual

/-- Renders one node into its level. -/
def Node.render (config : Config α) (context : Context α) (level : Level α) : Node → Level α
  | .text content => level.queue content
  | .placeholder name => level.placeholder config context name
  | .leaf name => level.leaf config context name
  | .element name _ children =>
    level.element config context name
      ((Node.renderAll config context .start children).finish config)

/-- Renders some nodes into their level, in order. -/
def Node.renderAll (config : Config α) (context : Context α) (level : Level α) :
    List Node → Level α
  | [] => level
  | node :: rest => Node.renderAll config context (node.render config context level) rest

end

/-- The output values of a tree. Neighbouring texts, and the values of placeholders that are text,
become one output value; every other output value gets its own place, and whatever makes an output
value is told the index that the value takes on its level. -/
def Tree.render (tree : Tree) (config : Config α) (context : Context α) : List α :=
  (Node.renderAll config context .start tree.children).finish config

end TagTemplate
