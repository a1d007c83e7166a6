import TagTemplate.Proofs.Token.Layers
import TagTemplate.Proofs.Tree.Derivation

/-! Categories of text, placeholders and self-closing tags at the end of a table decide nothing
about the elements of a template: they only split the text that is left to them. -/

namespace TagTemplate

/-- A stretch of a text, with the kind for which it is claimed, if it is. -/
abbrev Stretch :=
  Option TokenKind × List Char

/-- The stretches into which a table cuts a text. -/
def stretches : List Category → List Char → List Stretch
  | [], text => if text.isEmpty then [] else [(none, text)]
  | category :: rest, text =>
    -- What no category claims keeps no kind, so that it can be told from text that one claims.
    (category.pattern.pieces text).flatMap fun
      | .gap text => stretches rest text
      | .hit text _ => [(some category.kind, text)]

/-- The entries of a stretch, if one that is not claimed is left to a table. -/
def Stretch.entries (table : List Category) : Stretch → List (TokenKind × List Char)
  | (none, text) => classify table text
  | (some kind, text) => [(kind, text)]

/-- What a table does not claim goes to a table behind it. -/
theorem classify_append (front back : List Category) (text : List Char) :
    classify (front ++ back) text = (stretches front text).flatMap (Stretch.entries back) := by
  -- The first table is cut from the front, and each of its categories leaves gaps to all that is
  -- behind.
  induction front generalizing text with
  | nil =>
    by_cases empty : text = []
    · simp [empty, stretches]
    · simp [empty, stretches, Stretch.entries]
  | cons category rest ih =>
    -- What the first category claims is settled, and each gap is cut by the rest of both tables.
    rw [List.cons_append, classify_cons, stretches, List.flatMap_assoc]
    congr 1
    funext piece
    cases piece with
    | gap text => exact ih text
    | hit text name => rfl

/-- The entries of a table are its stretches, those that it does not claim as text. -/
theorem classify_eq_flatMap (table : List Category) (text : List Char) :
    classify table text = (stretches table text).flatMap (Stretch.entries []) := by
  -- An empty table behind another one turns what is left into text.
  rw [← classify_append, List.append_nil]

/-- No stretch is empty. -/
theorem snd_ne_nil_of_mem_stretches {table : List Category} {text : List Char} {stretch : Stretch}
    (mem : stretch ∈ stretches table text) : stretch.2 ≠ [] := by
  -- A match claims some text, and a gap has some as well.
  induction table generalizing text with
  | nil => cases text <;> simp_all [stretches]
  | cons category rest ih =>
    rw [stretches, List.mem_flatMap] at mem
    obtain ⟨piece, held, mem⟩ := mem
    cases piece with
    | gap text => exact ih mem
    | hit text name =>
      obtain rfl := List.mem_singleton.mp mem
      exact text_ne_nil_of_mem_carve _ held

/-- How nodes that are read from stretches of a template compare to those that are read if a table
cuts what is not claimed. -/
inductive Splits (names : NameExtractors) (table : List Category) :
    List Stretch → List Node → List Node → Prop where
  /-- No stretches are read as no nodes. -/
  | nil : Splits names table [] [] []
  /-- A stretch that is claimed for a node of its own is read as that node. -/
  | claimed {token : Token} {node : Node} {later : List Stretch} {nodes others : List Node}
    (made : names.leaf? token = some node) (rest : Splits names table later nodes others) :
    Splits names table ((some token.kind, token.raw.toList) :: later) (node :: nodes)
      (node :: others)
  /-- A stretch that is not claimed is text, or the node of each token that is cut from it. -/
  | left {text : String} {leaves : List Node} {later : List Stretch} {nodes others : List Node}
    (made : (tokenize table text).map names.leaf? = leaves.map some)
    (rest : Splits names table later nodes others) :
    Splits names table ((none, text.toList) :: later) (.text text :: nodes) (leaves ++ others)
  /-- Tags with stretches between them are read as an element. -/
  | element {opening closing : String} {inner later : List Stretch}
    {children otherChildren nodes others : List Node}
    (inside : Splits names table inner children otherChildren)
    (rest : Splits names table later nodes others) :
    Splits names table
      ((some .opening, opening.toList) :: (inner ++ (some .closing, closing.toList) :: later))
      (.element (names.extract .opening opening) opening children :: nodes)
      (.element (names.extract .opening opening) opening otherChildren :: others)

mutual

/-- The element of a node with nothing but elements in it, if the node is one. -/
def Node.skeleton : Node → List Node
  | .text _ => []
  | .placeholder _ => []
  | .leaf _ => []
  | .element name opening children => [.element name opening (Node.skeletons children)]

/-- The elements among some nodes, with nothing but elements in them. -/
def Node.skeletons : List Node → List Node
  | [] => []
  | node :: rest => node.skeleton ++ Node.skeletons rest

end

namespace Splits

variable {names : NameExtractors} {table : List Category}

/-- What is read from stretches behind each other stands behind each other. -/
theorem append {front back : List Stretch} {nodes others moreNodes moreOthers : List Node}
    (first : Splits names table front nodes others)
    (second : Splits names table back moreNodes moreOthers) :
    Splits names table (front ++ back) (nodes ++ moreNodes) (others ++ moreOthers) := by
  -- Only what follows the last stretch changes, so the induction is along the rests.
  induction first with
  | nil => exact second
  | claimed made _ ih => exact ih.claimed made
  | left made _ ih =>
    rw [List.append_assoc]
    exact ih.left made
  | element inside _ _ ih =>
    rw [List.cons_append, List.append_assoc]
    exact .element inside ih

/-- A node that a token makes by itself is no element. -/
theorem skeleton_leaf {token : Token} {node : Node} (made : names.leaf? token = some node) :
    node.skeleton = [] := by
  -- The three kinds of nodes that tokens make by themselves hold no element.
  unfold NameExtractors.leaf? at made
  split at made <;> cases made <;> rfl

/-- Nodes with others in front that are no elements have the elements of those alone. -/
theorem skeletons_leaves_append {tokens : List Token} {leaves : List Node}
    (made : tokens.map names.leaf? = leaves.map some) (nodes : List Node) :
    Node.skeletons (leaves ++ nodes) = Node.skeletons nodes := by
  -- The nodes have a token each, so both lists get shorter together.
  induction leaves generalizing tokens with
  | nil => rfl
  | cons node rest ih =>
    obtain ⟨token, others, rfl, first, later⟩ := List.map_eq_cons_iff.mp made
    rw [List.cons_append, Node.skeletons, skeleton_leaf first, ih later, List.nil_append]

/-- Both readings have the same elements. -/
theorem skeletons_eq {read : List Stretch} {nodes others : List Node}
    (splits : Splits names table read nodes others) :
    Node.skeletons nodes = Node.skeletons others := by
  -- The two readings differ in nodes that are no elements.
  induction splits with
  | nil => rfl
  | claimed _ _ ih => rw [Node.skeletons, Node.skeletons, ih]
  | left made _ ih =>
    rw [skeletons_leaves_append made, Node.skeletons, Node.skeleton, ih, List.nil_append]
  | element _ _ inside after =>
    rw [Node.skeletons, Node.skeletons, Node.skeleton, Node.skeleton, inside, after]

end Splits

/-- How the results of both readings compare: they are the same error, or trees. -/
inductive Agree (names : NameExtractors) (table : List Category) (read : List Stretch) :
    Except SyntaxError Tree → Except SyntaxError Tree → Prop where
  /-- Both are refused with one error. -/
  | error (error : SyntaxError) : Agree names table read (.error error) (.error error)
  /-- Both are read as trees. -/
  | ok {tree other : Tree} (splits : Splits names table read tree.children other.children) :
    Agree names table read (.ok tree) (.ok other)

/-- The tokens of a stretch make the same nodes wherever the stretch stands. -/
theorem map_leaf?_place (names : NameExtractors) (position : Nat) (table : List Category)
    (text : List Char) :
    (place position (classify table text)).map names.leaf? =
      (tokenize table (String.ofList text)).map names.leaf? := by
  -- Nodes are made of kinds and texts, so the positions do not matter.
  have moved := place_shift position 0 (classify table text)
  rw [Nat.add_zero] at moved
  rw [moved, List.map_map, tokenize, String.toList_ofList]
  rfl

/-- A token that is no tag of an element makes a node by itself. -/
theorem exists_leaf (names : NameExtractors) {token : Token}
    (leaf : token.kind ≠ .opening ∧ token.kind ≠ .closing) :
    ∃ node, names.leaf? token = some node := by
  -- Only the tags of elements make no node by themselves.
  unfold NameExtractors.leaf?
  split <;> simp_all

/-- Every token of a table without tags of elements makes a node by itself. -/
theorem exists_leaves (names : NameExtractors) {table : List Category}
    (leaves : ∀ category ∈ table, category.kind ≠ .opening ∧ category.kind ≠ .closing)
    (template : String) :
    ∃ nodes : List Node, (tokenize table template).map names.leaf? = nodes.map some := by
  have made : ∀ token ∈ tokenize table template, ∃ node, names.leaf? token = some node := by
    intro token mem
    refine exists_leaf names ?_
    -- The kind of the token is that of a category, or it is text.
    rcases hitAt_of_mem_classify (entry_mem_classify mem) with kind | ⟨category, listed, kind, _⟩
    · have kind : token.kind = .text := kind
      simp [kind]
    · have kind : token.kind = category.kind := kind
      exact kind ▸ leaves category listed
  -- Each token has a node, so all of them have a list of nodes.
  generalize tokenize table template = tokens at made
  induction tokens with
  | nil => exact ⟨[], rfl⟩
  | cons token rest ih =>
    obtain ⟨⟨node, first⟩, others⟩ := List.forall_mem_cons.mp made
    obtain ⟨nodes, later⟩ := ih others
    exact ⟨node :: nodes, by simp [first, later]⟩

namespace Building

variable {markup wider : Markup} {closes : TagMatcher} {table : List Category}

/-- How trees under construction compare that were built of the same stretches: they have the same
elements open, and what is read in them so far compares. -/
inductive Alike (names : NameExtractors) (table : List Category) :
    List Stretch → Building → Building → Prop where
  /-- No element is open. -/
  | top {read : List Stretch} {top other : List Node}
    (splits : Splits names table read top.reverse other.reverse) :
    Alike names table read ⟨top, []⟩ ⟨other, []⟩
  /-- The innermost open element was opened by one tag. -/
  | opened {read inner : List Stretch} {top other : List Node} {outer otherOuter : List OpenElement}
    {opening : String} {children otherChildren : List Node}
    (before : Alike names table read ⟨top, outer⟩ ⟨other, otherOuter⟩)
    (splits : Splits names table inner children.reverse otherChildren.reverse) :
    Alike names table (read ++ (some .opening, opening.toList) :: inner)
      ⟨top, ⟨names.extract .opening opening, opening, children⟩ :: outer⟩
      ⟨other, ⟨names.extract .opening opening, opening, otherChildren⟩ :: otherOuter⟩

/-- Nodes that compare can be added. -/
theorem Alike.add {names : NameExtractors} {read more : List Stretch} {building other : Building}
    {nodes others : List Node} (alike : Alike names table read building other)
    (splits : Splits names table more nodes others) :
    Alike names table (read ++ more) (nodes.foldl Building.add building)
      (others.foldl Building.add other) := by
  -- The nodes go to the innermost open element, or to the top if none is open.
  cases alike with
  | top before =>
    rw [foldl_add_top, foldl_add_top]
    exact .top (by simpa using before.append splits)
  | opened before inside =>
    rw [foldl_add_opened, foldl_add_opened, List.append_assoc, List.cons_append]
    exact .opened before (by simpa using inside.append splits)

/-- Tokens that make nodes by themselves add their nodes. -/
theorem finish_leaves (template : String) {tokens : List Token} {leaves : List Node}
    (made : tokens.map markup.names.leaf? = leaves.map some) (building : Building)
    (rest : List Token) :
    finish markup closes template building (tokens ++ rest) =
      finish markup closes template (leaves.foldl Building.add building) rest := by
  -- Each token adds its node, so the building varies.
  induction leaves generalizing tokens building with
  | nil =>
    obtain rfl := List.map_eq_nil_iff.mp made
    rfl
  | cons node others ih =>
    obtain ⟨token, more, rfl, first, later⟩ := List.map_eq_cons_iff.mp made
    rw [List.cons_append, finish, take_leaf first]
    exact ih later _

section Wider

variable (sameNames : wider.names = markup.names) (sameTags : closes wider = closes markup)

include sameNames sameTags

/-- A claimed token is refused for the same fault or taken in on both sides. -/
theorem Alike.take {read : List Stretch} {building other : Building}
    (alike : Alike markup.names table read building other) (token : Token) :
    (∃ fault, building.take markup closes token = .error fault ∧
      other.take wider closes token = .error fault) ∨
    ∃ next otherNext, building.take markup closes token = .ok next ∧
      other.take wider closes token = .ok otherNext ∧
      Alike markup.names table (read ++ [(some token.kind, token.raw.toList)]) next otherNext := by
  cases kind : token.kind with
  | opening =>
    -- Both sides open an element of the same name, with nothing in it yet.
    refine Or.inr ⟨_, _, take_opening kind, take_opening kind, ?_⟩
    rw [sameNames]
    exact .opened alike .nil
  | closing =>
    -- Both sides have elements of the same opening tags open, if any.
    cases alike with
    | top splits =>
      exact Or.inl ⟨.unmatchedClosing, by simp [Building.take, kind], by simp [Building.take, kind]⟩
    | @opened read inner top other outer otherOuter opening children otherChildren before splits =>
      by_cases pairs : closes markup opening token.raw = true
      · refine Or.inr ⟨_, _, take_closing kind pairs, take_closing kind (sameTags ▸ pairs), ?_⟩
        -- The finished elements have the same tags and compare inside.
        have whole : Splits markup.names table ((some .opening, opening.toList) ::
            (inner ++ [(some .closing, token.raw.toList)])) _ _ := .element splits .nil
        simpa using before.add whole
      · exact Or.inl ⟨.mismatchedClosing, by simp [Building.take, kind, pairs],
          by simp [Building.take, kind, sameTags, pairs]⟩
  | _ =>
    -- All other tokens make the same node.
    obtain ⟨node, made⟩ : ∃ node, markup.names.leaf? token = some node := by
      simp [NameExtractors.leaf?, kind]
    have added := alike.add (Splits.nil.claimed made)
    rw [kind] at added
    exact Or.inr ⟨_, _, take_leaf made, take_leaf (sameNames ▸ made), added⟩

/-- What is built of the same stretches agrees, if the table behind claims no tags of elements. -/
theorem Alike.finish
    (leaves : ∀ category ∈ table, category.kind ≠ .opening ∧ category.kind ≠ .closing)
    (template : String) {read left : List Stretch} (filled : ∀ stretch ∈ left, stretch.2 ≠ [])
    {building other : Building} (alike : Alike markup.names table read building other)
    (position : Nat) :
    Agree markup.names table (read ++ left)
      (building.finish markup closes template (place position (left.flatMap (Stretch.entries []))))
      (other.finish wider closes template
        (place position (left.flatMap (Stretch.entries table)))) := by
  -- Both sides read one stretch after another; positions move on by the same text.
  induction left generalizing read building other position with
  | nil =>
    -- At the end an open element is told of on both sides at the same place.
    cases alike with
    | top splits => exact .ok (by simpa using splits)
    | opened before splits => exact .error _
  | cons stretch later ih =>
    obtain ⟨some_, others⟩ := List.forall_mem_cons.mp filled
    obtain ⟨kind?, text⟩ := stretch
    rw [List.flatMap_cons, List.flatMap_cons, place_append, place_append, List.append_cons]
    cases kind? with
    | none =>
      -- What is one node on the one side is a node for each of its tokens on the other one.
      obtain ⟨nodes, made⟩ := exists_leaves markup.names leaves (String.ofList text)
      have added := alike.add (Splits.nil.left made)
      simp only [String.toList_ofList, List.append_nil] at added
      have whole := ih others added (position + Text.bytes text)
      have textNode : (place position (Stretch.entries [] (none, text))).map markup.names.leaf? =
          [Node.text (String.ofList text)].map some := by
        have some_ : text ≠ [] := some_
        simp [Stretch.entries, classify, some_, place, NameExtractors.leaf?]
      have otherNodes : (place position (Stretch.entries table (none, text))).map
          wider.names.leaf? = nodes.map some := by
        rw [← made, sameNames, Stretch.entries, map_leaf?_place]
      rw [finish_leaves template textNode, finish_leaves template otherNodes]
      simp only [Stretch.entries, flatMap_snd_classify]
      exact whole
    | some kind =>
      -- A claimed stretch is the same token on both sides.
      let token : Token := ⟨kind, String.ofList text, position⟩
      rcases alike.take sameNames sameTags token with ⟨fault, refused, otherRefused⟩ |
        ⟨next, otherNext, taken, otherTaken, alike⟩
      · simp only [Stretch.entries, place, List.singleton_append, Building.finish]
        rw [refused, otherRefused]
        exact .error _
      · have whole := ih others alike (position + Text.bytes text)
        simp only [Stretch.entries, place, List.singleton_append, Building.finish]
        rw [taken, otherTaken]
        simpa [token] using whole

end Wider

end Building

/-- The configuration with categories at the end of its table. -/
def Config.extend {α : Type} (config : Config α) (extras : List Category) : Config α :=
  config.merge { others := some (config.markup.others ++ extras) }

namespace Tree

variable {α : Type}

/-- Reading a template with more categories agrees with reading it without them, if they claim no
tags of elements and tags are compared by their names. -/
theorem agree_extend (config : Config α) (usual : config.closes = Markup.sameName)
    {extras : List Category}
    (leaves : ∀ category ∈ extras, category.kind ≠ .opening ∧ category.kind ≠ .closing)
    (template : String) :
    Agree config.markup.names extras (stretches config.markup.categories template.toList)
      (parse template config) (parse template (config.extend extras)) := by
  have longer : (config.extend extras).markup.categories = config.markup.categories ++ extras := rfl
  have nothing : Splits config.markup.names extras [] [].reverse [].reverse := .nil
  have start : Building.Alike config.markup.names extras [] .start .start := .top nothing
  -- Both tables make the same stretches, and the longer one leaves them to the other categories.
  rw [parse, parse, ofTokens, ofTokens, tokenize, tokenize, longer, classify_append,
    classify_eq_flatMap config.markup.categories]
  have filled : ∀ stretch ∈ stretches config.markup.categories template.toList, stretch.2 ≠ [] :=
    fun _ => snd_ne_nil_of_mem_stretches
  generalize stretches config.markup.categories template.toList = read at filled ⊢
  refine start.finish ?_ ?_ leaves template filled 0
  · rfl
  · -- Names are taken as before, so tags are compared as before.
    rw [usual]
    rfl

/-- Categories of text, placeholders and self-closing tags at the end of a table break no template
and mend none: what is refused is refused with the same error, and what is read as a tree is read as
one with the same elements, in which only text that was not claimed is split. -/
theorem parse_extend (config : Config α) (usual : config.closes = Markup.sameName)
    (extras : List Category)
    (leaves : ∀ category ∈ extras, category.kind ≠ .opening ∧ category.kind ≠ .closing)
    (template : String) :
    (∀ error, parse template config = .error error ↔
        parse template (config.extend extras) = .error error) ∧
      ((∃ tree, parse template config = .ok tree) ↔
        ∃ tree, parse template (config.extend extras) = .ok tree) ∧
      ∀ tree other, parse template config = .ok tree →
        parse template (config.extend extras) = .ok other →
          Node.skeletons tree.children = Node.skeletons other.children ∧
            Splits config.markup.names extras
              (stretches config.markup.categories template.toList) tree.children
              other.children := by
  have agree := agree_extend config usual leaves template
  -- Only how the two results compare is used from here on.
  generalize parse template config = result at agree ⊢
  generalize parse template (config.extend extras) = extended at agree ⊢
  cases agree with
  | error error => simp
  | ok splits => simpa using ⟨splits.skeletons_eq, splits⟩

/-- Runs of one letter become placeholders inside an element, and change nothing about a template
whose tags do not pair. -/
theorem parse_extend_letters :
    ∃ extras : List Category,
      extras = [⟨.placeholder, .ofRegex "x+" (.plus true (.one (.single 'x')))⟩] ∧
      (Config.plain fun text _ => text).closes = Markup.sameName ∧
      (∀ category ∈ extras, category.kind ≠ .opening ∧ category.kind ≠ .closing) ∧
      parse "<b>éxxx y</b>\x7bx\x7d" (Config.plain fun text _ => text) =
        .ok ⟨[.element "b" "<b>" [.text "éxxx y"], .placeholder "x"]⟩ ∧
      parse "<b>éxxx y</b>\x7bx\x7d" ((Config.plain fun text _ => text).extend extras) =
        .ok ⟨[.element "b" "<b>" [.text "é", .placeholder "x", .text " y"], .placeholder "x"]⟩ ∧
      Splits .plain extras
        [(some .opening, ['<', 'b', '>']), (none, ['é', 'x', 'x', 'x', ' ', 'y']),
          (some .closing, ['<', '/', 'b', '>']), (some .placeholder, ['\x7b', 'x', '\x7d'])]
        [.element "b" "<b>" [.text "éxxx y"], .placeholder "x"]
        [.element "b" "<b>" [.text "é", .placeholder "x", .text " y"], .placeholder "x"] ∧
      parse "<b>éxxx y</c>" ((Config.plain fun text _ => text).extend extras) =
        .error ⟨.mismatchedClosing, "<b>éxxx y</c>", 10, 4⟩ := by
  have leaves : ∀ category ∈ [(⟨.placeholder, .ofRegex "x+" (.plus true (.one (.single 'x')))⟩ :
      Category)], category.kind ≠ .opening ∧ category.kind ≠ .closing := by decide
  -- One template is read with both tables, and the other one refused by both.
  obtain ⟨_, _, compared⟩ := parse_extend (Config.plain fun text _ => text) rfl _ leaves
    "<b>éxxx y</b>\x7bx\x7d"
  obtain ⟨refused, _⟩ := parse_extend (Config.plain fun text _ => text) rfl _ leaves
    "<b>éxxx y</c>"
  exact ⟨_, rfl, rfl, leaves, rfl, rfl, (compared _ _ rfl rfl).2, (refused _).mp rfl⟩

end Tree

end TagTemplate
