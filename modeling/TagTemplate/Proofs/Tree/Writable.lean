import TagTemplate.Proofs.Tree.Source

/-! Trees whose names and texts keep clear of the delimiters can be written as a source and read
back from it. -/

namespace TagTemplate

namespace Node

/-- Whether a node is literal text. -/
def IsText (node : Node) : Prop :=
  ∃ content, node = .text content

/-- Names that can be written in tags. -/
def TagName (name : String) : Prop :=
  name ≠ "" ∧ ∀ c ∈ name.toList, c ≠ '<' ∧ c ≠ '>' ∧ c ≠ '/'

/-- Names that can be written in placeholders. -/
def PlaceholderName (name : String) : Prop :=
  name ≠ "" ∧ ∀ c ∈ name.toList, c ≠ '<' ∧ c ≠ '{' ∧ c ≠ '}'

/-- Literal text that can be written as it is. -/
def PlainText (content : String) : Prop :=
  content ≠ "" ∧ ∀ c ∈ content.toList, c ≠ '<' ∧ c ≠ '{'

end Node

mutual

/-- Whether a node can be written in the usual markup. -/
def Node.Writable : Node → Prop
  | .text content => Node.PlainText content
  | .placeholder name => Node.PlaceholderName name
  | .leaf name => Node.TagName name
  | .element name opening children =>
    Node.TagName name ∧ opening = "<" ++ name ++ ">" ∧ Node.AllWritable children

/-- Whether nodes can be written one after another: no text follows another one directly. -/
def Node.AllWritable : List Node → Prop
  | [] => True
  | node :: rest =>
    node.Writable ∧ (node.IsText → ∀ next ∈ rest.head?, ¬ next.IsText) ∧ Node.AllWritable rest

end

/-- Whether a tree can be written in the usual markup. -/
def Tree.Writable (tree : Tree) : Prop :=
  Node.AllWritable tree.children

mutual

/-- The entries that the source of a node is cut into. -/
def Node.entries : Node → List (TokenKind × List Char)
  | .text content => [(.text, content.toList)]
  | .placeholder name => [(.placeholder, (Delimited.placeholder.write name).toList)]
  | .leaf name => [(.selfClosing, (Delimited.selfClosing.write name).toList)]
  | .element name _ children =>
    (.opening, (Delimited.opening.write name).toList) ::
      (Node.allEntries children ++ [(.closing, (Delimited.closing.write name).toList)])

/-- The entries of nodes, one after another. -/
def Node.allEntries : List Node → List (TokenKind × List Char)
  | [] => []
  | node :: rest => node.entries ++ Node.allEntries rest

end

namespace Node

/-- The entries of nodes hold their source. -/
theorem flatMap_allEntries (nodes : List Node) :
    (allEntries nodes).flatMap Prod.snd = (sources nodes).toList := by
  -- Every entry is a text as the source has it, in the same order.
  induction nodes using siblings_induction with
  | nil => rfl
  | text content rest ih => simp [allEntries, entries, sources, source, ih]
  | placeholder name rest ih =>
    simp [allEntries, entries, sources, source, ih, Delimited.write_placeholder]
  | leaf name rest ih =>
    simp [allEntries, entries, sources, source, ih, Delimited.write_selfClosing]
  | element name opening children rest inside after =>
    simp [allEntries, entries, sources, source, inside, after, Delimited.write_opening,
      Delimited.write_closing]

/-- Names of tags fit the forms of all tags, and no tag starts in them. -/
theorem TagName.names {name : String} (tagName : TagName name) :
    Delimited.opening.Names name ∧ '<' ∉ name.toList := by
  -- The characters that a name has to do without are those of the delimiters.
  obtain ⟨filled, apart⟩ := tagName
  refine ⟨⟨filled, fun c mem => ?_⟩, fun mem => (apart _ mem).1 rfl⟩
  simpa [Delimited.opening] using (apart c mem).2

/-- The usual table finds the entries of writable nodes. -/
theorem found_allEntries {nodes : List Node} (writable : AllWritable nodes) :
    ∀ entry ∈ allEntries nodes, FoundBy Markup.plain.categories entry := by
  -- Whether an entry is found depends on its own text only, so each kind is looked at by itself.
  induction nodes using siblings_induction with
  | nil => simp [allEntries]
  | text content rest ih =>
    obtain ⟨⟨filled, apart⟩, _, others⟩ := writable
    have found : FoundBy Markup.plain.categories (.text, content.toList) :=
      Markup.found_text (by simpa using filled) (fun mem => (apart _ mem).1 rfl)
        (fun mem => (apart _ mem).2 rfl)
    exact List.forall_mem_cons.mpr ⟨found, ih others⟩
  | placeholder name rest ih =>
    obtain ⟨⟨filled, apart⟩, _, others⟩ := writable
    have names : Delimited.placeholder.Names name :=
      ⟨filled, fun c mem => by simpa [Delimited.placeholder] using (apart c mem).2⟩
    have found := Markup.found_placeholder names (fun mem => (apart _ mem).1 rfl)
    exact List.forall_mem_cons.mpr ⟨found, ih others⟩
  | leaf name rest ih =>
    obtain ⟨tagName, _, others⟩ := writable
    have found := Markup.found_selfClosing tagName.names.1 tagName.names.2
    exact List.forall_mem_cons.mpr ⟨found, ih others⟩
  | element name opening children rest inside after =>
    obtain ⟨⟨tagName, _, inner⟩, _, others⟩ := writable
    have opens := Markup.found_opening tagName.names.1
    have closes := Markup.found_closing tagName.names.1 tagName.names.2
    simp only [allEntries, entries, List.forall_mem_append, List.forall_mem_cons]
    exact ⟨⟨opens, inside inner, closes, by simp⟩, after others⟩

/-- Entries of nodes that do not start with text do not start with text either. -/
theorem head_allEntries {nodes : List Node} (first : ∀ node ∈ nodes.head?, ¬ node.IsText) :
    ∀ entry ∈ (allEntries nodes).head?, entry.1 ≠ .text := by
  -- The first entry is made by the first node.
  cases nodes with
  | nil => simp [allEntries]
  | cons node rest =>
    cases node with
    | text content => exact absurd ⟨content, rfl⟩ (first _ rfl)
    | _ => simp [allEntries, entries]

/-- No two neighbours among the entries of writable nodes are text. -/
theorem alternating_allEntries {nodes : List Node} (writable : AllWritable nodes) :
    Alternating (allEntries nodes) := by
  -- Text is followed by something else, and tags and placeholders may stand next to anything.
  induction nodes using siblings_induction with
  | nil => exact .nil
  | text content rest ih =>
    obtain ⟨_, apart, others⟩ := writable
    -- The nodes behind a text start with something else.
    have next := head_allEntries (apart ⟨content, rfl⟩)
    exact List.isChain_cons.mpr ⟨fun entry mem both => next entry mem both.2, ih others⟩
  | placeholder name rest ih => exact (ih writable.2.2).cons_of_ne (by simp)
  | leaf name rest ih => exact (ih writable.2.2).cons_of_ne (by simp)
  | element name opening children rest inside after =>
    obtain ⟨⟨_, _, inner⟩, _, others⟩ := writable
    -- The tags of the element keep what is inside apart from what follows.
    have opens : (TokenKind.opening, (Delimited.opening.write name).toList).1 ≠ .text := by simp
    have closes : (TokenKind.closing, (Delimited.closing.write name).toList).1 ≠ .text := by simp
    simpa [allEntries, entries] using ((inside inner).join (after others) closes).cons_of_ne opens

/-- Tokens that have a derivation of nodes in the usual markup. -/
def Derived (nodes : List Node) (tokens : List Token) : Prop :=
  ∃ derivation : Derivation, derivation.Valid .plain Markup.sameName ∧
    derivation.tokens = tokens ∧ derivation.nodes .plain = nodes

/-- The token of a node is put in front of the tokens of those behind it. -/
theorem Derived.leaf {kind : TokenKind} {raw : String} {position : Nat} {node : Node}
    {rest : List Node} {others : List (TokenKind × List Char)}
    (made : NameExtractors.plain.leaf? ⟨kind, raw, position⟩ = some node)
    (derived : Derived rest (place (position + raw.utf8ByteSize) others)) :
    Derived (node :: rest) (place position ((kind, raw.toList) :: others)) := by
  -- The token goes in front of the derivation of those behind it.
  obtain ⟨tail, valid, tokens, nodes⟩ := derived
  have single : (Markup.plain.names.leaf? ⟨kind, raw, position⟩).isSome := by
    simp [Markup.plain, made]
  refine ⟨.leaf ⟨kind, raw, position⟩ tail, ⟨single, valid⟩, ?_, ?_⟩
  · simp [Derivation.tokens, tokens, place, Token.stop]
  · simp [Derivation.nodes, made, nodes]

/-- The tokens of writable nodes have a derivation of these nodes. -/
theorem derived_allEntries {nodes : List Node} (writable : AllWritable nodes) (position : Nat) :
    Derived nodes (place position (allEntries nodes)) := by
  -- The induction is over siblings and children; positions move on with every token.
  induction nodes using siblings_induction generalizing position with
  | nil => exact ⟨.empty, trivial, rfl, rfl⟩
  | text content rest ih => exact (ih writable.2.2 _).leaf rfl
  | placeholder name rest ih =>
    refine (ih writable.2.2 _).leaf ?_
    have named := NameExtractors.extract_write .placeholder rfl name
    simp [NameExtractors.leaf?, named]
  | leaf name rest ih =>
    refine (ih writable.2.2 _).leaf ?_
    have named := NameExtractors.extract_write .selfClosing rfl name
    simp [NameExtractors.leaf?, named]
  | element name opening children rest inside after =>
    obtain ⟨⟨_, rfl, inner⟩, _, others⟩ := writable
    let opens : Token := ⟨.opening, Delimited.opening.write name, position⟩
    let closes : Token :=
      ⟨.closing, Delimited.closing.write name, opens.stop + (sources children).utf8ByteSize⟩
    -- What stands inside starts where the opening tag stops, and what follows where the closing one
    -- does.
    obtain ⟨within, withinValid, withinTokens, withinNodes⟩ := inside inner opens.stop
    obtain ⟨behind, behindValid, behindTokens, behindNodes⟩ := after others closes.stop
    have openingName := NameExtractors.extract_write .opening rfl name
    have closingName := NameExtractors.extract_write .closing rfl name
    -- Both tags are written around the same name.
    have pairs : Markup.sameName .plain opens.raw closes.raw = true :=
      beq_of_eq (openingName.trans closingName.symm)
    refine ⟨.pair opens within closes behind, ⟨rfl, rfl, pairs, withinValid, behindValid⟩, ?_, ?_⟩
    · simp [Derivation.tokens, withinTokens, behindTokens, allEntries, entries, place, place_append,
        flatMap_allEntries, Text.bytes, opens, closes, Token.stop]
    · simp [Derivation.nodes, withinNodes, behindNodes, opens, openingName,
        ← Delimited.write_opening]

end Node

namespace Tree

variable {α : Type}

/-- The tree that is read from the source of a writable tree is that tree, whatever output values
are made of text and for missing names. -/
theorem parse_source (wrapText : String → Nat → α)
    (missing : Option (String → List α → Nat → α)) (tree : Tree) (writable : tree.Writable) :
    parse tree.source { Config.plain wrapText with missing := missing } = .ok tree := by
  -- The source is cut into the entries of the tree, and nothing else.
  have cut := classify_flatMap_snd (Node.found_allEntries writable)
    (Node.alternating_allEntries writable)
  rw [Node.flatMap_allEntries] at cut
  obtain ⟨derivation, valid, tokens, nodes⟩ := Node.derived_allEntries writable 0
  -- The source is cut into the tokens that the derivation puts together.
  have same : tokenize Markup.plain.categories tree.source = derivation.tokens := by
    rw [tokens, ← cut, tokenize, source]
  let config : Config α := { Config.plain wrapText with missing := missing }
  have built : ofTokens derivation.tokens config tree.source = .ok ⟨derivation.nodes .plain⟩ :=
    ofTokens_derivation valid
  rw [nodes, ← same] at built
  exact built

/-- A tree with nested elements, all kinds of nodes and delimiters where they do no harm. -/
theorem parse_source_nested :
    ∃ tree : Tree, tree.Writable ∧
      tree.source = "a > \x7d<\x7b><é b></é b>\x7bx/y\x7d/</\x7b><c/>" ∧
      parse "a > \x7d<\x7b><é b></é b>\x7bx/y\x7d/</\x7b><c/>"
        { Config.plain (fun text _ => text) with missing := none } = .ok tree := by
  let inner : List Node := [.element "é b" "<é b>" [], .placeholder "x/y", .text "/"]
  let tree : Tree := ⟨[.text "a > \x7d", .element "\x7b" "<\x7b>" inner, .leaf "c"]⟩
  -- The slash, the brackets and the braces each stand where nothing takes them for a delimiter.
  have writable : tree.Writable := by
    simp [tree, inner, Writable, Node.AllWritable, Node.Writable, Node.PlainText, Node.TagName,
      Node.PlaceholderName, Node.IsText]
  have written : tree.source = "a > \x7d<\x7b><é b></é b>\x7bx/y\x7d/</\x7b><c/>" := by
    simp [tree, inner, source, Node.sources, Node.source]
  have read := parse_source (fun text _ => text) none tree writable
  rw [written] at read
  exact ⟨tree, writable, written, read⟩

end Tree

end TagTemplate
