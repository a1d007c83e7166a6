import TagTemplate.Proofs.Token.Layers
import TagTemplate.Proofs.Tree.Levels
import TagTemplate.Proofs.Tree.Writable

/-! Trees that are read from templates hold their text in whole runs: none of it is empty, and none
stands next to other text. -/

namespace TagTemplate

/-- Without a category of literal text, literal text is what lies between the claimed texts, so no
two tokens of it are neighbours. -/
theorem alternating_tokenize {categories : List Category}
    (named : ∀ category ∈ categories, category.kind ≠ .text) (template : String) :
    Token.Alternating (tokenize categories template) := by
  have searches : ∀ row ∈ categories.map Category.search, row.1 ≠ .text := by
    simpa [Category.search] using named
  -- The layer of these tokens is whole, whatever another table would make of what is left.
  have layered := Cursor.layered_cut searches [] template
  rw [tokenize_eq_cut]
  exact layered.whole

/-- Whether nodes side by side hold their text in whole runs: no text is empty, and no text stands
next to another one. -/
structure Node.Canonical (nodes : List Node) : Prop where
  filled : ∀ content, .text content ∈ nodes → content ≠ ""
  apart : nodes.IsChain fun left right => ¬ (left.IsText ∧ right.IsText)

namespace Derivation

variable {markup : Markup} {closes : TagMatcher}

/-- Text is made by a token of literal text, and is what that token holds. -/
theorem text_of_leaf? {names : NameExtractors} {token : Token} {content : String}
    (made : names.leaf? token = some (.text content)) :
    token.kind = .text ∧ token.raw = content := by
  -- Only one branch makes text, and it takes it from the token.
  unfold NameExtractors.leaf? at made
  split at made
  · rename_i kind
    exact ⟨kind, Node.text.inj (Option.some.inj made)⟩
  all_goals cases made

/-- Where the nodes of a derivation start with text, its tokens start with literal text. -/
theorem head_text {derivation : Derivation} (valid : derivation.Valid markup closes) :
    ∀ node ∈ (derivation.nodes markup.names).head?, node.IsText →
      ∃ token ∈ derivation.tokens.head?, token.kind = .text := by
  -- Whatever stands first in the derivation makes the first node.
  intro node first text
  obtain ⟨content, rfl⟩ := text
  cases derivation with
  | empty => cases first
  | leaf token rest =>
    obtain ⟨node, made⟩ := Option.isSome_iff_exists.mp valid.1
    simp only [nodes, made, Option.toList_some, List.cons_append, List.head?_cons,
      Option.mem_some_iff] at first
    subst first
    exact ⟨token, rfl, (text_of_leaf? made).1⟩
  | pair opening inner closing rest => cases first

/-- The nodes of a derivation are canonical if its tokens are: text comes from a token of literal
text each, so texts that are neighbours would come from tokens that are. -/
theorem canonical_nodes {derivation : Derivation} (valid : derivation.Valid markup closes)
    (filled : ∀ token ∈ derivation.tokens, token.raw ≠ "")
    (alternating : Token.Alternating derivation.tokens) :
    Node.Canonical (derivation.nodes markup.names) := by
  -- Each node is put in front of nodes that are canonical already.
  induction derivation with
  | empty => exact ⟨by simp [nodes], .nil⟩
  | leaf token rest ih =>
    obtain ⟨node, made⟩ := Option.isSome_iff_exists.mp valid.1
    obtain ⟨here, later⟩ := List.forall_mem_cons.mp filled
    have behind := ih valid.2 later alternating.tail
    have whole : (leaf token rest).nodes markup.names = node :: rest.nodes markup.names := by
      simp [nodes, made]
    rw [whole]
    refine ⟨?_, List.isChain_cons.mpr ⟨?_, behind.apart⟩⟩
    · intro content mem
      rcases List.mem_cons.mp mem with rfl | mem
      · exact (text_of_leaf? made).2 ▸ here
      · exact behind.filled content mem
    · -- Two texts side by side would be two tokens of literal text side by side.
      rintro next first ⟨⟨content, rfl⟩, text⟩
      obtain ⟨second, head, kind⟩ := head_text valid.2 next first text
      have apart := (List.isChain_cons.mp alternating).1 second head
      exact apart ⟨(text_of_leaf? made).1, kind⟩
  | pair opening inner closing rest _ ih =>
    obtain ⟨_, _, _, _, restValid⟩ := valid
    have suffix : rest.tokens <:+ (pair opening inner closing rest).tokens :=
      ⟨opening :: (inner.tokens ++ [closing]), by simp [tokens]⟩
    have behind := ih restValid (fun token mem => filled token (suffix.mem mem))
      (alternating.suffix suffix)
    -- An element stands between the text before it and the text behind it.
    refine ⟨?_, List.isChain_cons.mpr ⟨?_, behind.apart⟩⟩
    · intro content mem
      rcases List.mem_cons.mp mem with same | mem
      · cases same
      · exact behind.filled content mem
    · rintro next _ ⟨⟨content, same⟩, _⟩
      cases same

end Derivation

/-- The usual tags, and runs of one letter as placeholders, by a pattern that also matches no
text. -/
def Config.letters : Config String :=
  { plain fun text _ => text with
    markup := { Markup.plain with
      others := [⟨.placeholder, .ofRegex "x*" (.star true (.one (.single 'x')))⟩] } }

namespace Tree

variable {α : Type}

/-- Where no category is one of literal text, every level of a tree that is read from a template
holds its text in whole runs: no text is empty, and no two texts are neighbours. -/
theorem parse_canonical (config : Config α)
    (named : ∀ category ∈ config.markup.categories, category.kind ≠ .text) (template : String)
    (tree : Tree) (read : parse template config = .ok tree) :
    ∀ level ∈ tree.levels, Node.Canonical level.children := by
  intro level mem
  obtain ⟨derivation, valid, cut, same⟩ := derivation_of_ofTokens read
  -- The level is built from tokens in a row, so these are neighbours in the template as well.
  obtain ⟨inner, innerValid, innerSame, within⟩ :=
    Derivation.exists_of_mem_levels valid same mem
  rw [cut] at within
  -- Tokens cut the template, so none is empty, and literal text alternates with claimed text.
  have filled := (partition_tokenize config.markup.categories template).filled
  have alternating := alternating_tokenize named template
  have innerAlternating : Token.Alternating inner.tokens :=
    List.IsChain.infix alternating within
  rw [← innerSame]
  exact Derivation.canonical_nodes innerValid (fun token mem => filled token (within.mem mem))
    innerAlternating

/-- Where the pattern of the letter matches no text it splits none, on both levels of the tree. -/
theorem parse_canonical_letters :
    (∀ category ∈ Config.letters.markup.categories, category.kind ≠ .text) ∧
      parse "aé<b>cdxxxe</b>f" Config.letters = .ok ⟨[.text "aé",
        .element "b" "<b>" [.text "cd", .placeholder "x", .text "e"], .text "f"]⟩ ∧
      Node.Canonical [.text "cd", .placeholder "x", .text "e"] := by
  -- The runs of letters are placeholders, so no category is one of literal text.
  have named : ∀ category ∈ Config.letters.markup.categories, category.kind ≠ .text := by decide
  have read : parse "aé<b>cdxxxe</b>f" Config.letters = .ok ⟨[.text "aé",
      .element "b" "<b>" [.text "cd", .placeholder "x", .text "e"], .text "f"]⟩ := rfl
  have canonical := parse_canonical Config.letters named _ _ read
  exact ⟨named, read, canonical _
    (below_mem_levels List.mem_cons_self (List.mem_cons_of_mem _ List.mem_cons_self))⟩

end Tree

end TagTemplate
