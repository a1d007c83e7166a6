import TagTemplate.Proofs.Pattern.Cut
import TagTemplate.Proofs.Token.Layers
import TagTemplate.Proofs.Tree.Writable

/-! A template between an opening and a closing tag is read as an element with the nodes of the
template: no tag of the usual markup reaches from the template into the closing tag. -/

namespace TagTemplate

/-- What a table makes of gaps at a seam: whatever gap stands before the pieces of a text, it is cut
as without them, and they are cut into the entries. -/
def EndsWith (kind : TokenKind) (rest : List Category) (pieces : List Piece)
    (entries : List (TokenKind × List Char)) : Prop :=
  ∀ gap : List Char, (gap.foldr Piece.addGap pieces).flatMap (Piece.entries kind rest) =
    classify rest gap ++ entries

/-- Pieces that are put behind others add their entries to those. -/
theorem EndsWith.foldr_put {kind : TokenKind} {rest : List Category} {back : List Piece}
    {entries : List (TokenKind × List Char)} (ends : EndsWith kind rest back entries)
    {front : List Piece} (separate : Piece.Separate front)
    (filled : ∀ piece ∈ front, piece.text ≠ []) :
    (front.foldr Piece.put back).flatMap (Piece.entries kind rest) =
      front.flatMap (Piece.entries kind rest) ++ entries := by
  -- Only the last of the pieces in front can be a gap that meets the others.
  induction front with
  | nil => simpa using ends []
  | cons piece tail ih =>
    have later := ih (List.isChain_of_isChain_cons separate) (List.forall_mem_cons.mp filled).2
    cases piece with
    | hit word name => simp [Piece.put, Piece.entries, later]
    | gap gap =>
      cases tail with
      | nil => simpa [Piece.put, Piece.entries] using ends gap
      | cons next tail =>
        rw [Piece.Separate, List.isChain_cons_cons] at separate
        cases next with
        | gap more => exact absurd ⟨⟨gap, rfl⟩, ⟨more, rfl⟩⟩ separate.1
        | hit word name =>
          have some_ : gap ≠ [] := (List.forall_mem_cons.mp filled).1
          -- Behind the gap comes a match, so the gap is complete.
          have joined := Piece.foldr_addGap some_ (show ∀ piece ∈
            ((Piece.hit word name :: tail).foldr Piece.put back).head?, ¬ piece.IsGap by
              simp [Piece.put, Piece.IsGap])
          rw [List.foldr_cons, Piece.put, joined, List.flatMap_cons, later]
          simp [Piece.entries]

/-- A text that a pattern claims is the first piece of whatever it stands in front of. -/
theorem Pattern.Claims.pieces_append {pattern : Pattern} {word : List Char}
    (claims : pattern.Claims word) (unconditional : pattern.program.Unconditional)
    (text : List Char) :
    ∃ name, pattern.pieces (word ++ text) = .hit word name :: pattern.pieces text := by
  -- Nothing has been cut yet, and behind the match the text is cut as it stands.
  obtain ⟨hit, found, size⟩ := claims.2 none text
  have rest := Pattern.cut_pieces unconditional text
  exact ⟨_, Pattern.pieces_of_cut unconditional (rest.hit claims.1 found size)⟩

/-- A text that the pattern claims keeps all gaps in front as they are. -/
theorem EndsWith.of_claims {pattern : Pattern} {word : List Char}
    (unconditional : pattern.program.Unconditional) (claims : pattern.Claims word)
    (kind : TokenKind) (rest : List Category) :
    EndsWith kind rest (pattern.pieces word) [(kind, word)] := by
  -- Behind the claimed text nothing is left.
  obtain ⟨name, pieces⟩ := claims.pieces_append unconditional []
  rw [List.append_nil, Pattern.pieces_eq pattern [], Pattern.piecesAfter_nil] at pieces
  rw [pieces]
  intro gap
  -- The match stands behind the gap, if there is one, and ends it.
  by_cases empty : gap = []
  · simp [empty, Piece.entries]
  · rw [Piece.foldr_addGap empty (by simp [Piece.IsGap])]
    simp [Piece.entries]

/-- A text that the pattern misses makes the gap in front longer. -/
theorem EndsWith.of_misses {pattern : Pattern} {word : List Char} (misses : pattern.Misses word)
    (filled : word ≠ []) (kind : TokenKind) {rest : List Category}
    {entries : List (TokenKind × List Char)}
    (cut : ∀ gap, classify rest (gap ++ word) = classify rest gap ++ entries) :
    EndsWith kind rest (pattern.pieces word) entries := by
  -- The pattern finds nothing in the text, so all of it is one gap.
  have pieces := @Pattern.piecesAfter_misses _ none _ misses []
  rw [List.append_nil, ← Pattern.pieces_eq, Pattern.piecesAfter_nil] at pieces
  intro gap
  -- Both texts are one gap, which goes on to the rest of the table.
  have longer : (gap ++ word).foldr Piece.addGap [] = [.gap (gap ++ word)] :=
    Piece.foldr_addGap (List.append_ne_nil_of_right_ne_nil gap filled) (by simp)
  rw [pieces, ← List.foldr_append, longer, List.flatMap_singleton, Piece.entries, cut]

section Table

variable {kind : TokenKind} {pattern : Pattern} {rest : List Category}
  (unconditional : pattern.program.Unconditional)

include unconditional

/-- A table cuts a text behind another one as it does by itself, if no match of its first category
reaches from the one into the other. -/
theorem classify_append_of_apart {left right : List Char} (apart : pattern.Apart left right)
    {entries : List (TokenKind × List Char)}
    (ends : EndsWith kind rest (pattern.pieces right) entries) :
    classify (⟨kind, pattern⟩ :: rest) (left ++ right) =
      classify (⟨kind, pattern⟩ :: rest) left ++ entries := by
  -- The pieces of both texts are those of each, and only gaps at the seam are joined.
  rw [classify_cons, classify_cons, Pattern.pieces_append unconditional apart]
  exact ends.foldr_put (separate_carve _ _ _) text_ne_nil_of_mem_carve

/-- A table cuts off a text that its first category claims from whatever it stands in front of. -/
theorem classify_claims_append {word : List Char} (claims : pattern.Claims word)
    (text : List Char) :
    classify (⟨kind, pattern⟩ :: rest) (word ++ text) =
      (kind, word) :: classify (⟨kind, pattern⟩ :: rest) text := by
  -- The claimed text is the first piece, and it is an entry of its own.
  obtain ⟨name, pieces⟩ := claims.pieces_append unconditional text
  rw [classify_cons, classify_cons, pieces, List.flatMap_cons]
  rfl

end Table

namespace Delimited

/-- Whether texts of a form end with a bracket and have no slash but in a delimiter in front of two
characters at most. -/
structure Bracketed (form : Delimited) : Prop where
  back : form.back = ['>']
  inner : form.inner.contains '/' = false
  front : form.front.length ≤ 2

/-- The usual opening tags are bracketed. -/
theorem bracketed_opening : opening.Bracketed := ⟨rfl, rfl, by decide⟩

/-- The usual closing tags are bracketed. -/
theorem bracketed_closing : closing.Bracketed := ⟨rfl, rfl, by decide⟩

/-- A text of a bracketed form does not reach into a closing tag from any text before it. -/
theorem Bracketed.apart {form : Delimited} (bracketed : form.Bracketed)
    {word tail name rest : List Char} (fits : form.Fits word) (filled : tail ≠ [])
    (split : tail ++ ('<' :: '/' :: name) = word ++ rest) : word.length ≤ tail.length := by
  rcases List.append_eq_append_iff.mp split with ⟨more, whole, close⟩ | ⟨more, whole, _⟩
  · obtain ⟨body, same, _, inside⟩ := fits
    rw [bracketed.back] at same
    -- The text would go on with the bracket of the closing tag, and with its slash behind that.
    match more with
    | [] => simp [whole]
    | [c] =>
      obtain ⟨rfl, _⟩ := List.cons.inj close
      have last := congrArg List.getLast? (whole.symm.trans same)
      simp at last
    | c :: d :: more =>
      simp only [List.cons_append, List.cons.injEq] at close
      obtain ⟨rfl, rfl, _⟩ := close
      have length := List.length_pos_iff.mpr filled
      have front := bracketed.front
      -- The slash stands behind the delimiter in front, where the form has none.
      have behind : (tail ++ ['<'] ++ '/' :: more).drop form.front.length = body ++ ['>'] := by
        rw [List.append_assoc, List.singleton_append, ← whole, same, List.append_assoc,
          List.drop_left]
      rw [List.drop_append_of_le_length (by simp; omega)] at behind
      have slash : '/' ∈ body ++ ['>'] := behind ▸ by simp
      exact absurd (inside '/' (by simpa using slash)) (by simp [bracketed.inner])
  · -- The text ends in front of the closing tag.
    simp [whole]

end Delimited

namespace Markup

/-- The usual table starts with the two kinds of tags that an element has. -/
theorem categories_plain :
    plain.categories = ⟨.opening, .plainOpening⟩ :: ⟨.closing, .plainClosing⟩ :: plainOthers :=
  rfl

/-- The closing tag of a name. -/
theorem toList_write_closing (name : String) :
    (Delimited.closing.write name).toList = '<' :: '/' :: (name.toList ++ ['>']) := by
  simp [Delimited.write, Delimited.closing]

/-- No match of a pattern whose texts are bracketed reaches into a closing tag. -/
theorem apart_closing {form : Delimited} (bracketed : form.Bracketed) {pattern : Pattern}
    (code : pattern.program.toList = form.code) (text : List Char) (name : String) :
    pattern.Apart text (Delimited.closing.write name).toList := by
  -- A match takes a text of the form, which cannot reach that far.
  intro tail _ filled hit found
  obtain ⟨word, rest, split, fits, rfl⟩ := (form.takes code _ none hit).mp found
  rw [toList_write_closing] at split
  exact bracketed.apart fits filled split

variable {name : String} (tagName : Node.TagName name)

include tagName

/-- Behind any text the closing tag of a name is cut off by the table after opening tags. -/
theorem classify_closing (text : List Char) :
    classify (⟨.closing, .plainClosing⟩ :: plainOthers)
        (text ++ (Delimited.closing.write name).toList) =
      classify (⟨.closing, .plainClosing⟩ :: plainOthers) text ++
        [(.closing, (Delimited.closing.write name).toList)] := by
  -- The second category claims the tag, and none of its matches reaches into the tag from before.
  have fits : Delimited.closing.Fits (Delimited.closing.write name).toList :=
    Delimited.fits_write tagName.names.1
  have claims := Delimited.claims Delimited.code_closing fits
  have free : Pattern.plainClosing.program.Unconditional := Pattern.unconditional rfl
  have apart := apart_closing Delimited.bracketed_closing Delimited.code_closing text name
  exact classify_append_of_apart free apart (.of_claims free claims _ _)

/-- Behind any text the closing tag of a name is cut off by the usual table. -/
theorem classify_append_closing (text : List Char) :
    classify plain.categories (text ++ (Delimited.closing.write name).toList) =
      classify plain.categories text ++ [(.closing, (Delimited.closing.write name).toList)] := by
  -- The first category leaves the tag to the others, and does not reach into it either.
  have free : Pattern.plainOpening.program.Unconditional := Pattern.unconditional rfl
  have apart := apart_closing Delimited.bracketed_opening Delimited.code_opening text name
  -- No opening tag starts in the closing tag, which goes on to the rest of the table.
  rcases found_closing tagName.names.1 tagName.names.2 with ⟨differ, _⟩ | ⟨misses, found⟩
  · cases differ
  · rw [categories_plain]
    exact classify_append_of_apart free apart
      (.of_misses misses found.filled _ (classify_closing tagName))

/-- The usual table cuts a text between the tags of a name as the text alone, and the tags off. -/
theorem classify_nested (text : List Char) :
    classify plain.categories ((Delimited.opening.write name).toList ++
        (text ++ (Delimited.closing.write name).toList)) =
      (.opening, (Delimited.opening.write name).toList) ::
        (classify plain.categories text ++
          [(.closing, (Delimited.closing.write name).toList)]) := by
  -- The opening tag is claimed at once, whatever stands behind it.
  have fits : Delimited.opening.Fits (Delimited.opening.write name).toList :=
    Delimited.fits_write tagName.names.1
  have claims := Delimited.claims Delimited.code_opening fits
  have free : Pattern.plainOpening.program.Unconditional := Pattern.unconditional rfl
  rw [← classify_append_closing tagName, categories_plain, classify_claims_append free claims]

end Markup

namespace Derivation

/-- The derivation with all tokens as many bytes further on. -/
def shift (offset : Nat) : Derivation → Derivation
  | empty => empty
  | leaf token rest => leaf (token.shift offset) (rest.shift offset)
  | pair opening inner closing rest =>
    pair (opening.shift offset) (inner.shift offset) (closing.shift offset) (rest.shift offset)

variable {markup : Markup} {closes : TagMatcher}

/-- Moving a derivation moves its tokens. -/
theorem tokens_shift (offset : Nat) (derivation : Derivation) :
    (derivation.shift offset).tokens = derivation.tokens.map (Token.shift offset) := by
  -- Each token is moved by itself.
  induction derivation with
  | empty => rfl
  | leaf token rest ih => simp [shift, tokens, ih]
  | pair opening inner closing rest inside after => simp [shift, tokens, inside, after]

/-- Moving a derivation leaves its nodes. -/
theorem nodes_shift (offset : Nat) (names : NameExtractors) (derivation : Derivation) :
    (derivation.shift offset).nodes names = derivation.nodes names := by
  -- Nodes are made of kinds and texts, not of positions.
  induction derivation with
  | empty => rfl
  | leaf token rest ih => simp only [shift, nodes, ih]; rfl
  | pair opening inner closing rest inside after => simp only [shift, nodes, inside, after]; rfl

/-- A valid derivation is valid elsewhere. -/
theorem Valid.shift (offset : Nat) {derivation : Derivation}
    (valid : derivation.Valid markup closes) : (derivation.shift offset).Valid markup closes := by
  -- Whether tags pair depends on their texts alone.
  induction derivation with
  | empty => trivial
  | leaf token rest ih => exact ⟨valid.1, ih valid.2⟩
  | pair opening inner closing rest inside after =>
    obtain ⟨openingKind, closingKind, pairs, innerValid, restValid⟩ := valid
    exact ⟨openingKind, closingKind, pairs, inside innerValid, after restValid⟩

end Derivation

namespace Tree

variable {α : Type}

/-- Tags of one name around a template are an opening token, the tokens of the template behind it,
and a closing token. -/
theorem tokenize_nested {name : String} (tagName : Node.TagName name) (template : String) :
    tokenize Markup.plain.categories ("<" ++ name ++ ">" ++ template ++ ("</" ++ name ++ ">")) =
      ⟨.opening, "<" ++ name ++ ">", 0⟩ ::
        ((tokenize Markup.plain.categories template).map
            (Token.shift ("<" ++ name ++ ">").utf8ByteSize) ++
          [⟨.closing, "</" ++ name ++ ">", ("<" ++ name ++ ">" ++ template).utf8ByteSize⟩]) := by
  -- The entries are placed one behind another, so those of the template start behind the opening
  -- tag.
  have cut := Markup.classify_nested tagName template.toList
  rw [← Delimited.write_opening, ← Delimited.write_closing, tokenize, tokenize, ← place_shift]
  simp [cut, place, place_append, flatMap_snd_classify, Text.bytes, Token.stop]

/-- A template that is read as a tree is read between the tags of a name as an element of that name
with the nodes of the tree, whatever its text looks like next to the tags. -/
theorem parse_nested (wrapText : String → Nat → α) (missing : Option (String → List α → Nat → α))
    {template : String} {tree : Tree}
    (read : parse template { Config.plain wrapText with missing := missing } = .ok tree)
    {name : String} (tagName : Node.TagName name) :
    parse ("<" ++ name ++ ">" ++ template ++ ("</" ++ name ++ ">"))
        { Config.plain wrapText with missing := missing } =
      .ok ⟨[.element name ("<" ++ name ++ ">") tree.children]⟩ := by
  let config : Config α := { Config.plain wrapText with missing := missing }
  obtain ⟨inner, innerValid, tokens, nodes⟩ := derivation_of_ofTokens read
  -- Between the tags stands the derivation of the template, further on by the opening tag.
  let opens : Token := ⟨.opening, "<" ++ name ++ ">", 0⟩
  let closes : Token :=
    ⟨.closing, "</" ++ name ++ ">", ("<" ++ name ++ ">" ++ template).utf8ByteSize⟩
  let whole : Derivation := .pair opens (inner.shift opens.raw.utf8ByteSize) closes .empty
  -- Both tags are written around the name, so they pair.
  have openingName : NameExtractors.plain.opening opens.raw = name := by
    rw [← NameExtractors.extract_write .opening rfl name, Delimited.write_opening]
    rfl
  have closingName : NameExtractors.plain.closing closes.raw = name := by
    rw [← NameExtractors.extract_write .closing rfl name, Delimited.write_closing]
    rfl
  have valid : whole.Valid config.markup config.closes :=
    ⟨rfl, rfl, beq_of_eq (openingName.trans closingName.symm), innerValid.shift _, trivial⟩
  -- These are the tokens of the whole, and its nodes are the one element.
  have sameTokens : tokenize Markup.plain.categories
      ("<" ++ name ++ ">" ++ template ++ ("</" ++ name ++ ">")) = whole.tokens := by
    rw [tokenize_nested tagName]
    simp [whole, Derivation.tokens, Derivation.tokens_shift, tokens, opens, closes, Config.plain]
  have sameNodes : whole.nodes .plain =
      [.element name ("<" ++ name ++ ">") tree.children] := by
    rw [Derivation.nodes, Derivation.nodes_shift, ← nodes]
    exact congrArg (fun found => [Node.element found _ _]) openingName
  rw [← sameNodes]
  exact (congrArg (ofTokens · config _) sameTokens).trans (ofTokens_derivation valid)

/-- Brackets and braces that belong to no tag stay text, also where the template ends with them and
the name of the tag behind it has the brace that is missing. -/
theorem parse_nested_stray :
    Node.TagName "n \x7d" ∧
      parse "a < b</<c>\x7bx</c><d/> <a/\x7bx"
          { Config.plain (fun text _ => text) with missing := none } =
        .ok ⟨[.text "a < b</", .element "c" "<c>" [.text "\x7bx"], .leaf "d", .text " <a/\x7bx"]⟩ ∧
      parse ("<" ++ "n \x7d" ++ ">" ++ "a < b</<c>\x7bx</c><d/> <a/\x7bx" ++
          ("</" ++ "n \x7d" ++ ">"))
          { Config.plain (fun text _ => text) with missing := none } =
        .ok ⟨[.element "n \x7d" ("<" ++ "n \x7d" ++ ">")
          [.text "a < b</", .element "c" "<c>" [.text "\x7bx"], .leaf "d",
            .text " <a/\x7bx"]]⟩ := by
  -- A name has to do without brackets and slashes only, so a blank and a brace may stand in it.
  have tagName : Node.TagName "n \x7d" := by simp [Node.TagName]
  have read : parse "a < b</<c>\x7bx</c><d/> <a/\x7bx"
      { Config.plain (fun text _ => text) with missing := none } =
        .ok ⟨[.text "a < b</", .element "c" "<c>" [.text "\x7bx"], .leaf "d",
          .text " <a/\x7bx"]⟩ := rfl
  exact ⟨tagName, read, parse_nested (fun text _ => text) none read tagName⟩

end Tree

end TagTemplate
