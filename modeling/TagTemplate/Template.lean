import TagTemplate.Render
import TagTemplate.Tree.Builder

/-! Templates that were read once and can be rendered many times. -/

namespace TagTemplate

/-- A tree with the configuration it was read by. -/
structure Template (α : Type) where
  tree : Tree
  config : Config α

namespace Template

variable {α : Type}

/-- Reads a template. -/
def compile (source : String) (config : Config α) : Except SyntaxError (Template α) :=
  (Tree.parse source config).map (⟨·, config⟩)

/-- Renders the template with a context. -/
def render (template : Template α) (context : Context α) : List α :=
  template.tree.render template.config context

end Template

end TagTemplate
