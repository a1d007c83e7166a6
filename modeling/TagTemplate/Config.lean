import TagTemplate.Markup

/-! Everything that shapes how a template is read and rendered. -/

namespace TagTemplate

/-- Decides whether the text of a closing tag closes the text of an opening tag. -/
abbrev TagMatcher := Markup → (opening closing : String) → Bool

/-- A configuration for output values of type `α`. -/
structure Config (α : Type) where
  markup : Markup
  closes : TagMatcher
  /-- Makes an output value of a run of text and the index that the value takes. -/
  wrapText : String → Nat → α
  /-- Makes an output value for a name that the context lacks, of its children and its index. -/
  missing : Option (String → List α → Nat → α)

namespace Config

variable {α : Type}

/-- The usual markup, with output values made of text by `wrapText`. -/
def plain (wrapText : String → Nat → α) : Config α :=
  ⟨.plain, Markup.sameName, wrapText, none⟩

/-- The configuration of a written markup. -/
def ofSource (source : MarkupSource) (wrapText : String → Nat → α) :
    Except Failure (Config α) := do
  return { plain wrapText with markup := ← Markup.ofSource source }

end Config

/-- The parts of a configuration to be replaced. -/
structure Overrides (α : Type) where
  wrapText : Option (String → Nat → α) := none
  openingName : Option (String → String) := none
  closingName : Option (String → String) := none
  selfClosingName : Option (String → String) := none
  placeholderName : Option (String → String) := none
  opening : Option Pattern := none
  closing : Option Pattern := none
  others : Option (List Category) := none
  closes : Option TagMatcher := none
  missing : Option (String → List α → Nat → α) := none

/-- The configuration with every given part replaced. -/
def Config.merge {α : Type} (config : Config α) (overrides : Overrides α) : Config α :=
  let names := config.markup.names
  -- A part that is not given keeps what the configuration has.
  { markup :=
      { opening := overrides.opening.getD config.markup.opening
        closing := overrides.closing.getD config.markup.closing
        others := overrides.others.getD config.markup.others
        names :=
          { opening := overrides.openingName.getD names.opening
            closing := overrides.closingName.getD names.closing
            selfClosing := overrides.selfClosingName.getD names.selfClosing
            placeholder := overrides.placeholderName.getD names.placeholder } }
    closes := overrides.closes.getD config.closes
    wrapText := overrides.wrapText.getD config.wrapText
    missing := overrides.missing <|> config.missing }

end TagTemplate
