import TagTemplate.Config
import TagTemplate.Tree

/-! Building the tree of a template from its tokens. -/

namespace TagTemplate

/-- An element whose closing tag has not been met, with its children so far, last one first. -/
structure OpenElement where
  name : String
  opening : String
  children : List Node

/-- A tree under construction: the finished nodes at the top, last one first, and the open elements,
innermost first. -/
structure Building where
  top : List Node
  opened : List OpenElement

namespace Building

/-- Nothing built yet. -/
def start : Building :=
  ⟨[], []⟩

/-- Adds a finished node to the innermost open element, or at the top. -/
def add (building : Building) (node : Node) : Building :=
  match building.opened with
  | [] => { building with top := node :: building.top }
  | element :: outer =>
    { building with opened := { element with children := node :: element.children } :: outer }

/-- Takes one token in. -/
def take (markup : Markup) (closes : TagMatcher) (building : Building) (token : Token) :
    Except SyntaxFault Building :=
  -- Names are taken when tokens are met; closing tags have no use for theirs here.
  let name := markup.names.extract token.kind token.raw
  match token.kind with
  | .text => .ok (building.add (.text token.raw))
  | .placeholder => .ok (building.add (.placeholder name))
  | .selfClosing => .ok (building.add (.leaf name))
  | .opening => .ok { building with opened := ⟨name, token.raw, []⟩ :: building.opened }
  | .closing =>
    -- The innermost open element is the only one that a closing tag can close.
    match building.opened with
    | [] => .error .unmatchedClosing
    | element :: outer =>
      if closes markup element.opening token.raw then
        let node := .element element.name element.opening element.children.reverse
        .ok ({ building with opened := outer }.add node)
      else .error .mismatchedClosing

/-- Takes all tokens in and gives the finished tree. -/
def finish (markup : Markup) (closes : TagMatcher) (template : String) :
    Building → List Token → Except SyntaxError Tree
  | building, [] =>
    match building.opened with
    | [] => .ok ⟨building.top.reverse⟩
    -- An element that is never closed is told at the end of the template.
    | _ => .error ⟨.unclosed, template, template.utf8ByteSize, 0⟩
  | building, token :: rest =>
    match building.take markup closes token with
    | .ok building => finish markup closes template building rest
    | .error fault => .error ⟨fault, template, token.position, token.raw.utf8ByteSize⟩

end Building

namespace Tree

variable {α : Type}

/-- Builds a tree from tokens. The template itself appears in errors only. -/
def ofTokens (tokens : List Token) (config : Config α) (template : String) :
    Except SyntaxError Tree :=
  Building.start.finish config.markup config.closes template tokens

/-- Reads the tree of a template. -/
def parse (template : String) (config : Config α) : Except SyntaxError Tree :=
  ofTokens (tokenize config.markup.categories template) config template

end Tree

end TagTemplate
