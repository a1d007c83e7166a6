import TagTemplate.Proofs.Tree.Source

/-! The source of a tree with its placeholders filled in is the template with the same done to its
tokens. -/

namespace TagTemplate

/-- The text of a token with its placeholder filled in, or with the tag of a whole element written
as a pair. -/
def Token.filled (fill : String → String) (token : Token) : String :=
  let name := NameExtractors.plain.extract token.kind token.raw
  match token.kind with
  | .placeholder => fill name
  | .selfClosing => "<" ++ name ++ ">" ++ ("</" ++ name ++ ">")
  | _ => token.raw

mutual

/-- The source of a node with its placeholders filled in and all its tags written as pairs. -/
def Node.filled (fill : String → String) : Node → String
  | .text content => content
  | .placeholder name => fill name
  | .leaf name => "<" ++ name ++ ">" ++ ("</" ++ name ++ ">")
  | .element name _ children =>
    "<" ++ name ++ ">" ++ Node.allFilled fill children ++ ("</" ++ name ++ ">")

/-- The sources of nodes with their placeholders filled in, one after another. -/
def Node.allFilled (fill : String → String) : List Node → String
  | [] => ""
  | node :: rest => node.filled fill ++ Node.allFilled fill rest

end

mutual

/-- The names of the placeholders in a node. -/
def Node.placeholders : Node → List String
  | .text _ => []
  | .placeholder name => [name]
  | .leaf _ => []
  | .element _ _ children => Node.allPlaceholders children

/-- The names of the placeholders among nodes. -/
def Node.allPlaceholders : List Node → List String
  | [] => []
  | node :: rest => node.placeholders ++ Node.allPlaceholders rest

end

namespace Derivation

/-- A token that makes a node by itself is filled in as that node is. -/
theorem filled_leaf (fill : String → String) {token : Token} {node : Node}
    (made : NameExtractors.plain.leaf? token = some node) :
    node.filled fill = token.filled fill := by
  obtain ⟨kind, raw, position⟩ := token
  -- Tags of pairs make no node by themselves, so two kinds are left out.
  cases kind <;> cases made <;> rfl

/-- The nodes of a derivation are filled in as its tokens are. -/
theorem allFilled_nodes (fill : String → String) {derivation : Derivation}
    (valid : derivation.Valid .plain Markup.sameName)
    (written : ∀ token ∈ derivation.tokens, token.Written) :
    Node.allFilled fill (derivation.nodes .plain) =
      String.join (derivation.tokens.map (Token.filled fill)) := by
  -- The induction follows the derivation, which has the nodes and the tokens in the same order.
  induction derivation with
  | empty => rfl
  | leaf token rest ih =>
    obtain ⟨made, valid⟩ := valid
    obtain ⟨node, made⟩ : ∃ node, NameExtractors.plain.leaf? token = some node :=
      Option.isSome_iff_exists.mp made
    obtain ⟨_, later⟩ := List.forall_mem_cons.mp written
    simp only [nodes, made, Option.toList_some, List.cons_append, List.nil_append, tokens,
      List.map_cons, String.join_cons, Node.allFilled, filled_leaf fill made, ih valid later]
  | pair opening inner closing rest inside after =>
    obtain ⟨openingKind, closingKind, pairs, innerValid, restValid⟩ := valid
    simp only [tokens, List.forall_mem_cons, List.forall_mem_append] at written
    obtain ⟨openingWritten, innerWritten, closingWritten, restWritten⟩ := written
    obtain ⟨opens, closes⟩ :=
      raws_of_pair openingKind closingKind pairs openingWritten closingWritten
    -- The tags of a pair stay as they are.
    have openingFilled : opening.filled fill = opening.raw := by simp [Token.filled, openingKind]
    have closingFilled : closing.filled fill = closing.raw := by simp [Token.filled, closingKind]
    simp only [nodes, tokens, List.map_cons, List.map_append, String.join_cons, String.join_append,
      Node.allFilled, Node.filled, inside innerValid innerWritten, after restValid restWritten,
      openingFilled, closingFilled, ← opens, ← closes]
    simp only [String.append_assoc]

end Derivation

namespace Tree

variable {α : Type}

/-- A tree that was read in the usual markup is filled in as the tokens of its template are. -/
theorem allFilled_of_parse {wrapText : String → Nat → α} {template : String} {tree : Tree}
    (read : parse template (Config.plain wrapText) = .ok tree) (fill : String → String) :
    Node.allFilled fill tree.children =
      String.join ((tokenize Markup.plain.categories template).map (Token.filled fill)) := by
  -- The tree has a derivation from the tokens, which are written in the forms of their kinds.
  obtain ⟨derivation, valid, same, nodes, written⟩ := derivation_of_parse read
  rw [← same, ← nodes]
  exact Derivation.allFilled_nodes fill valid written

end Tree

end TagTemplate
