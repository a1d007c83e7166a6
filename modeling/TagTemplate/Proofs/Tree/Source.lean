import TagTemplate.Proofs.Token.Cursor
import TagTemplate.Proofs.Token.Plain
import TagTemplate.Proofs.Tree.Derivation

/-! Trees in the usual markup have a source, and reading a template gives a tree of which it is the
source. -/

namespace TagTemplate

mutual

/-- The source of a node in the usual markup; a closing tag repeats the name of its element. -/
def Node.source : Node → String
  | .text content => content
  | .placeholder name => "\x7b" ++ name ++ "\x7d"
  | .leaf name => "<" ++ name ++ "/>"
  | .element name _ children =>
    "<" ++ name ++ ">" ++ Node.sources children ++ ("</" ++ name ++ ">")

/-- The sources of nodes, one after another. -/
def Node.sources : List Node → String
  | [] => ""
  | node :: rest => node.source ++ Node.sources rest

end

mutual

/-- Whether every element in a node, the node itself included, holds the opening tag of its name. -/
def Node.Opened : Node → Prop
  | .text _ => True
  | .placeholder _ => True
  | .leaf _ => True
  | .element name opening children => opening = "<" ++ name ++ ">" ∧ Node.AllOpened children

/-- Whether all elements in some nodes hold the opening tags of their names. -/
def Node.AllOpened : List Node → Prop
  | [] => True
  | node :: rest => node.Opened ∧ Node.AllOpened rest

end

namespace Tree

/-- The source of a tree in the usual markup. -/
def source (tree : Tree) : String :=
  Node.sources tree.children

/-- Whether every element of a tree holds the opening tag of its name. -/
def Opened (tree : Tree) : Prop :=
  Node.AllOpened tree.children

end Tree

namespace Delimited

variable (name : String)

/-- Opening tags as they are written. -/
theorem write_opening : opening.write name = "<" ++ name ++ ">" :=
  String.toList_injective (by simp [write, opening])

/-- Closing tags as they are written. -/
theorem write_closing : closing.write name = "</" ++ name ++ ">" :=
  String.toList_injective (by simp [write, closing])

/-- Self-closing tags as they are written. -/
theorem write_selfClosing : selfClosing.write name = "<" ++ name ++ "/>" :=
  String.toList_injective (by simp [write, selfClosing])

/-- Placeholders as they are written. -/
theorem write_placeholder : placeholder.write name = "\x7b" ++ name ++ "\x7d" :=
  String.toList_injective (by simp [write, placeholder])

end Delimited

namespace Derivation

open NameExtractors (extract)

/-- A token that makes a node by itself is the source of that node. -/
theorem source_leaf {token : Token} {node : Node}
    (made : NameExtractors.plain.leaf? token = some node) (written : token.Written) :
    node.source = token.raw ∧ node.Opened := by
  -- Text is its own source; a name between delimiters is what the token was written from.
  obtain ⟨kind, raw, position⟩ := token
  cases kind with
  | text =>
    cases made
    exact ⟨rfl, trivial⟩
  | opening => cases made
  | closing => cases made
  | selfClosing =>
    cases made
    exact ⟨(Delimited.write_selfClosing _).symm.trans (written _ rfl).symm, trivial⟩
  | placeholder =>
    cases made
    exact ⟨(Delimited.write_placeholder _).symm.trans (written _ rfl).symm, trivial⟩

/-- The tags of a pair are written around the name of the opening tag. -/
theorem raws_of_pair {opening closing : Token} (openingKind : opening.kind = .opening)
    (closingKind : closing.kind = .closing)
    (pairs : Markup.sameName .plain opening.raw closing.raw = true)
    (openingWritten : opening.Written) (closingWritten : closing.Written) :
    opening.raw = "<" ++ extract .plain .opening opening.raw ++ ">" ∧
      closing.raw = "</" ++ extract .plain .opening opening.raw ++ ">" := by
  -- Both tags are written around names of their own.
  have opens := openingWritten .opening (by rw [openingKind, TokenKind.form?])
  have closes := closingWritten .closing (by rw [closingKind, TokenKind.form?])
  rw [openingKind, Delimited.write_opening] at opens
  rw [closingKind, Delimited.write_closing] at closes
  -- The text of the closing tag is lost in the tree, but its name is that of the opening tag.
  have same : extract .plain .opening opening.raw = extract .plain .closing closing.raw :=
    eq_of_beq pairs
  exact ⟨opens, same ▸ closes⟩

/-- The nodes of a derivation have the texts of its tokens as their source, and their elements hold
the opening tags of their names. -/
theorem sources_nodes {derivation : Derivation} (valid : derivation.Valid .plain Markup.sameName)
    (written : ∀ token ∈ derivation.tokens, token.Written) :
    Node.sources (derivation.nodes .plain) = String.join (derivation.tokens.map Token.raw) ∧
      Node.AllOpened (derivation.nodes .plain) := by
  -- The induction follows the derivation, which has the nodes and the tokens in the same order.
  induction derivation with
  | empty => exact ⟨rfl, trivial⟩
  | leaf token rest ih =>
    obtain ⟨made, valid⟩ := valid
    obtain ⟨node, made⟩ : ∃ node, NameExtractors.plain.leaf? token = some node :=
      Option.isSome_iff_exists.mp made
    obtain ⟨first, later⟩ := List.forall_mem_cons.mp written
    obtain ⟨source, opened⟩ := ih valid later
    obtain ⟨nodeSource, nodeOpened⟩ := source_leaf made first
    simp only [nodes, made, Option.toList_some, List.cons_append, List.nil_append, tokens,
      List.map_cons, String.join_cons, Node.sources, nodeSource, source]
    exact ⟨trivial, nodeOpened, opened⟩
  | pair opening inner closing rest inside after =>
    obtain ⟨openingKind, closingKind, pairs, innerValid, restValid⟩ := valid
    simp only [tokens, List.forall_mem_cons, List.forall_mem_append] at written
    obtain ⟨openingWritten, innerWritten, closingWritten, restWritten⟩ := written
    obtain ⟨innerSource, innerOpened⟩ := inside innerValid innerWritten
    obtain ⟨restSource, restOpened⟩ := after restValid restWritten
    obtain ⟨opens, closes⟩ :=
      raws_of_pair openingKind closingKind pairs openingWritten closingWritten
    simp only [nodes, tokens, List.map_cons, List.map_append, String.join_cons, String.join_append,
      Node.sources, Node.source, innerSource, restSource, ← opens, ← closes]
    -- The source of the element is that of its children between two tags of its name.
    refine ⟨by simp only [String.append_assoc], ⟨opens, innerOpened⟩, restOpened⟩

end Derivation

namespace Tree

variable {α : Type}

/-- A tree that was read in the usual markup has a derivation from the tokens of the template, which
are written in the forms of their kinds. -/
theorem derivation_of_parse {wrapText : String → Nat → α}
    {missing : Option (String → List α → Nat → α)} {template : String} {tree : Tree}
    (read : parse template { Config.plain wrapText with missing := missing } = .ok tree) :
    ∃ derivation : Derivation, derivation.Valid .plain Markup.sameName ∧
      derivation.tokens = tokenize Markup.plain.categories template ∧
      derivation.nodes .plain = tree.children ∧ ∀ token ∈ derivation.tokens, token.Written := by
  -- Every tree has a derivation, and the usual table writes its tokens.
  obtain ⟨derivation, valid, same, nodes⟩ := derivation_of_ofTokens read
  refine ⟨derivation, valid, same, nodes, fun token mem => ?_⟩
  rw [same] at mem
  exact Markup.written_of_mem_tokenize mem

/-- A tree that was read in the usual markup has the template as its source. -/
theorem source_of_parse {wrapText : String → Nat → α}
    {missing : Option (String → List α → Nat → α)} {template : String} {tree : Tree}
    (read : parse template { Config.plain wrapText with missing := missing } = .ok tree) :
    tree.source = template ∧ tree.Opened := by
  -- The tree and the tokens of the template have one derivation.
  obtain ⟨derivation, valid, same, nodes, written⟩ := derivation_of_parse read
  obtain ⟨source, opened⟩ := Derivation.sources_nodes valid written
  -- The texts of the tokens make up the template, since they cut it into pieces.
  have joined := (partition_tokenize Markup.plain.categories template).joined
  rw [same] at source
  rw [nodes] at source opened
  exact ⟨source.trans joined, opened⟩

/-- Reading a template in the usual markup loses nothing: written back, the tree is the template,
and its elements hold the opening tags of their names. No other template is read as the same tree,
whatever output values are made of text and for missing names. -/
theorem parse_lossless (wrapText : String → Nat → α)
    (missing : Option (String → List α → Nat → α)) (template : String) (tree : Tree)
    (read : parse template { Config.plain wrapText with missing := missing } = .ok tree) :
    tree.source = template ∧ tree.Opened ∧
      ∀ (β : Type) (wrapOther : String → Nat → β)
        (missingOther : Option (String → List β → Nat → β)) (other : String),
        parse other { Config.plain wrapOther with missing := missingOther } = .ok tree →
          other = template := by
  obtain ⟨source, opened⟩ := source_of_parse read
  refine ⟨source, opened, ?_⟩
  -- Both templates are the source of the one tree.
  intro β wrapOther missingOther other readOther
  exact (source_of_parse readOther).1.symm.trans source

/-- A template with a nested tag, a stray bracket and a character of two bytes, which is read. -/
theorem parse_lossless_nested :
    parse "a > é<b><c/>\x7bn\x7d</b>" { Config.plain (fun text _ => text) with missing := none } =
        .ok ⟨[.text "a > é", .element "b" "<b>" [.leaf "c", .placeholder "n"]]⟩ ∧
      source ⟨[.text "a > é", .element "b" "<b>" [.leaf "c", .placeholder "n"]]⟩ =
        "a > é<b><c/>\x7bn\x7d</b>" := by
  -- The template is read as this tree, and so it is the source of the tree.
  have read : parse "a > é<b><c/>\x7bn\x7d</b>"
      { Config.plain (fun text _ => text) with missing := none } =
        .ok ⟨[.text "a > é", .element "b" "<b>" [.leaf "c", .placeholder "n"]]⟩ := rfl
  exact ⟨read, (parse_lossless (fun text _ => text) none _ _ read).1⟩

end Tree

end TagTemplate
