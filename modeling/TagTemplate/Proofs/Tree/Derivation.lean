import TagTemplate.Tree.Builder

/-! Trees are built from exactly the balanced token sequences, by their only derivation. -/

namespace TagTemplate

/-- The node that a token makes by itself; tags of elements make none. -/
def NameExtractors.leaf? (names : NameExtractors) (token : Token) : Option Node :=
  match token.kind with
  | .text => some (.text token.raw)
  | .placeholder => some (.placeholder (names.extract .placeholder token.raw))
  | .selfClosing => some (.leaf (names.extract .selfClosing token.raw))
  | .opening => none
  | .closing => none

/-- How a token sequence is put together. -/
inductive Derivation where
  /-- No token at all. -/
  | empty
  /-- A token that makes a node by itself, and what follows it. -/
  | leaf (token : Token) (rest : Derivation)
  /-- Two tags with what stands between them, and what follows them. -/
  | pair (opening : Token) (inner : Derivation) (closing : Token) (rest : Derivation)

namespace Derivation

/-- The tokens of a derivation, in order. -/
def tokens : Derivation → List Token
  | empty => []
  | leaf token rest => token :: rest.tokens
  | pair opening inner closing rest => opening :: (inner.tokens ++ closing :: rest.tokens)

/-- Every token stands where its kind may stand, and every pair of tags is one that pairs. -/
def Valid (markup : Markup) (closes : TagMatcher) : Derivation → Prop
  | empty => True
  | leaf token rest => (markup.names.leaf? token).isSome ∧ rest.Valid markup closes
  | pair opening inner closing rest =>
    opening.kind = .opening ∧ closing.kind = .closing ∧
      closes markup opening.raw closing.raw = true ∧
      inner.Valid markup closes ∧ rest.Valid markup closes

/-- The nodes that a derivation stands for. -/
def nodes (names : NameExtractors) : Derivation → List Node
  | empty => []
  | leaf token rest => (names.leaf? token).toList ++ rest.nodes names
  | pair opening inner _ rest =>
    .element (names.extract .opening opening.raw) opening.raw (inner.nodes names) ::
      rest.nodes names

end Derivation

namespace Building

variable {markup : Markup} {closes : TagMatcher}

/-- A token that makes a node by itself adds that node. -/
theorem take_leaf {building : Building} {token : Token} {node : Node}
    (made : markup.names.leaf? token = some node) :
    building.take markup closes token = .ok (building.add node) := by
  -- The three kinds of such tokens are the first three branches of the builder.
  unfold NameExtractors.leaf? at made
  unfold take
  split at made <;> simp_all

/-- An opening tag becomes the innermost open element. -/
theorem take_opening {building : Building} {token : Token} (kind : token.kind = .opening) :
    building.take markup closes token =
      .ok ⟨building.top,
        ⟨markup.names.extract .opening token.raw, token.raw, []⟩ :: building.opened⟩ := by
  simp [take, kind]

/-- A closing tag that pairs with the innermost open element finishes it. -/
theorem take_closing {top : List Node} {element : OpenElement} {outer : List OpenElement}
    {token : Token} (kind : token.kind = .closing)
    (pairs : closes markup element.opening token.raw = true) :
    take markup closes ⟨top, element :: outer⟩ token =
      .ok (add ⟨top, outer⟩
        (.element element.name element.opening element.children.reverse)) := by
  simp [take, kind, pairs]

/-- A token is taken in as a node of its own, as an opening tag, or as the closing tag of the
innermost open element. -/
theorem take_cases {building next : Building} {token : Token}
    (taken : building.take markup closes token = .ok next) :
    (∃ node, markup.names.leaf? token = some node ∧ next = building.add node) ∨
    (token.kind = .opening ∧
      next = { building with
        opened := ⟨markup.names.extract .opening token.raw, token.raw, []⟩ :: building.opened }) ∨
    (token.kind = .closing ∧ ∃ element outer, building.opened = element :: outer ∧
      closes markup element.opening token.raw = true ∧
      next = add { building with opened := outer }
        (.element element.name element.opening element.children.reverse)) := by
  -- Only a closing tag looks at the open elements.
  cases kind : token.kind with
  | closing =>
    cases opened : building.opened with
    | nil => simp [take, kind, opened] at taken
    | cons element outer =>
      by_cases pairs : closes markup element.opening token.raw = true
      · exact Or.inr (Or.inr ⟨rfl, element, outer, rfl, pairs, by
          simpa [take, kind, opened, pairs] using taken.symm⟩)
      · simp [take, kind, opened, pairs] at taken
  | opening => exact Or.inr (Or.inl ⟨rfl, by simpa [take_opening kind] using taken.symm⟩)
  | _ =>
    refine Or.inl ⟨_, by rw [NameExtractors.leaf?, kind], ?_⟩
    simpa [take, kind] using taken.symm

/-- Adding nodes one by one at the top puts them in front, last one first. -/
theorem foldl_add_top (top nodes : List Node) :
    nodes.foldl add ⟨top, []⟩ = ⟨nodes.reverse ++ top, []⟩ := by
  -- The nodes are added one after another, so what is there already varies.
  induction nodes generalizing top with
  | nil => rfl
  | cons node rest ih => simp [add, ih]

/-- Adding nodes one by one inside an open element makes them its latest children. -/
theorem foldl_add_opened (top nodes : List Node) (element : OpenElement)
    (outer : List OpenElement) :
    nodes.foldl add ⟨top, element :: outer⟩ =
      ⟨top, { element with children := nodes.reverse ++ element.children } :: outer⟩ := by
  -- As at the top, among the children of the innermost element.
  induction nodes generalizing element with
  | nil => rfl
  | cons node rest ih => simp [add, ih]

/-- The tokens of a valid derivation add its nodes and change nothing else. -/
theorem finish_derivation (template : String) {derivation : Derivation}
    (valid : derivation.Valid markup closes) (building : Building) (rest : List Token) :
    finish markup closes template building (derivation.tokens ++ rest) =
      finish markup closes template
        ((derivation.nodes markup.names).foldl add building) rest := by
  -- The tokens inside a pair meet an open element of their own, so the building varies.
  induction derivation generalizing building rest with
  | empty => rfl
  | leaf token tail ih =>
    obtain ⟨made, valid⟩ := valid
    obtain ⟨node, made⟩ := Option.isSome_iff_exists.mp made
    simp only [Derivation.tokens, Derivation.nodes, List.cons_append, finish, take_leaf made, made,
      Option.toList_some, List.nil_append, List.foldl_cons]
    exact ih valid _ _
  | pair opening inner closing tail inside after =>
    obtain ⟨openingKind, closingKind, pairs, innerValid, tailValid⟩ := valid
    simp only [Derivation.tokens, Derivation.nodes, List.cons_append, List.append_assoc, finish,
      take_opening openingKind, List.foldl_cons]
    -- What stands between the tags becomes the children of the element they open.
    rw [inside innerValid, foldl_add_opened, finish, take_closing closingKind pairs]
    simp only [List.append_nil, List.reverse_reverse]
    exact after tailValid _ _

/-- How tokens complete a building: each open element is closed in turn by a tag that pairs with
it, after a derivation of its remaining children. -/
inductive Completes (markup : Markup) (closes : TagMatcher) :
    Building → List Token → List Node → Prop where
  /-- With no element open, a derivation gives the remaining nodes at the top. -/
  | done {top : List Node} {derivation : Derivation} (valid : derivation.Valid markup closes) :
    Completes markup closes ⟨top, []⟩ derivation.tokens
      (top.reverse ++ derivation.nodes markup.names)
  /-- The innermost open element is closed, and the others remain. -/
  | close {top : List Node} {element : OpenElement} {outer : List OpenElement}
    {derivation : Derivation} {closing : Token} {rest : List Token} {nodes : List Node}
    (valid : derivation.Valid markup closes) (kind : closing.kind = .closing)
    (pairs : closes markup element.opening closing.raw = true)
    (others : Completes markup closes
      (add ⟨top, outer⟩ (.element element.name element.opening
        (element.children.reverse ++ derivation.nodes markup.names))) rest nodes) :
    Completes markup closes ⟨top, element :: outer⟩ (derivation.tokens ++ closing :: rest) nodes

/-- Tokens that add one node to every derivation after them can be put in front. -/
theorem Completes.prepend {building : Building} {node : Node} (front : List Token)
    {tokens : List Token} {nodes : List Node}
    (completes : Completes markup closes (building.add node) tokens nodes)
    (extend : ∀ derivation : Derivation, derivation.Valid markup closes →
      ∃ longer : Derivation, longer.Valid markup closes ∧
        longer.tokens = front ++ derivation.tokens ∧
        longer.nodes markup.names = node :: derivation.nodes markup.names) :
    Completes markup closes building (front ++ tokens) nodes := by
  -- Only the first derivation grows, and its new node is the one that was added before.
  obtain ⟨top, opened⟩ := building
  cases opened with
  | nil =>
    cases completes with
    | done valid =>
      obtain ⟨longer, longerValid, sameTokens, sameNodes⟩ := extend _ valid
      have finished : Completes markup closes ⟨top, []⟩ longer.tokens _ := .done longerValid
      simpa [sameTokens, sameNodes] using finished
  | cons element outer =>
    cases completes with
    | close valid kind pairs others =>
      obtain ⟨longer, longerValid, sameTokens, sameNodes⟩ := extend _ valid
      have closed : Completes markup closes ⟨top, element :: outer⟩ _ nodes :=
        .close longerValid kind pairs (by simpa [sameNodes] using others)
      simpa [sameTokens] using closed

/-- Whatever is built was completed along a derivation for each open element. -/
theorem completes_of_finish {template : String} {building : Building} {tokens : List Token}
    {tree : Tree} (built : finish markup closes template building tokens = .ok tree) :
    Completes markup closes building tokens tree.children := by
  -- Each token is put in front of the derivations that the tokens after it have.
  induction tokens generalizing building with
  | nil =>
    obtain ⟨top, opened⟩ := building
    cases opened with
    | nil =>
      simp only [finish, Except.ok.injEq] at built
      subst built
      have finished : Completes markup closes ⟨top, []⟩ Derivation.empty.tokens _ := .done trivial
      simpa [Derivation.tokens, Derivation.nodes] using finished
    | cons element outer => simp [finish] at built
  | cons token rest ih =>
    simp only [finish] at built
    cases taken : building.take markup closes token with
    | error fault => simp [taken] at built
    | ok next =>
      simp only [taken] at built
      have completes := ih built
      rcases take_cases taken with ⟨node, made, rfl⟩ | ⟨openingKind, rfl⟩ |
        ⟨closingKind, element, outer, opened, pairs, rfl⟩
      · exact completes.prepend [token] fun derivation valid =>
          ⟨.leaf token derivation, ⟨by simp [made], valid⟩, rfl, by simp [Derivation.nodes, made]⟩
      · -- The element opened here is closed by a later token; the pair then counts as one node.
        cases completes with
        | close innerValid closingKind pairs others =>
          rename_i inner closing tail
          have whole := others.prepend (token :: (inner.tokens ++ [closing]))
            fun derivation valid =>
              ⟨.pair token inner closing derivation,
                ⟨openingKind, closingKind, pairs, innerValid, valid⟩,
                by simp [Derivation.tokens], by simp [Derivation.nodes]⟩
          simpa using whole
      · -- The element is closed here, with no more children behind those it has.
        obtain ⟨top, held⟩ := building
        subst opened
        have closed : Completes markup closes ⟨top, element :: outer⟩
            (Derivation.empty.tokens ++ token :: rest) tree.children :=
          .close trivial closingKind pairs (by simpa [Derivation.nodes] using completes)
        exact closed

end Building

namespace Derivation

variable {markup : Markup} {closes : TagMatcher}

/-- No derivation can go on with these tokens: there are none, or the first one is a closing tag. -/
def Stops (tokens : List Token) : Prop :=
  ∀ token ∈ tokens.head?, token.kind = .closing

/-- A token that makes a node by itself is no tag of an element. -/
theorem leaf?_kind {names : NameExtractors} {token : Token}
    (made : (names.leaf? token).isSome) : token.kind ≠ .opening ∧ token.kind ≠ .closing := by
  -- Of the five kinds, these two make no node by themselves.
  unfold NameExtractors.leaf? at made
  split at made <;> simp_all

/-- Where two valid derivations of one sequence stop, they are the same. -/
theorem eq_of_tokens_append {one other : Derivation} (oneValid : one.Valid markup closes)
    (otherValid : other.Valid markup closes) {oneRest otherRest : List Token}
    (oneStops : Stops oneRest) (otherStops : Stops otherRest)
    (same : one.tokens ++ oneRest = other.tokens ++ otherRest) :
    one = other ∧ oneRest = otherRest := by
  -- The first token decides the form of both derivations, since each form starts with its own kind.
  induction one generalizing other oneRest otherRest with
  | empty =>
    cases other with
    | empty => exact ⟨rfl, same⟩
    | leaf token rest =>
      subst same
      exact absurd (oneStops token (by simp [tokens])) (leaf?_kind otherValid.1).2
    | pair opening inner closing rest =>
      subst same
      have closing := oneStops opening (by simp [tokens])
      simp [otherValid.1] at closing
  | leaf token rest ih =>
    have kind := leaf?_kind oneValid.1
    cases other with
    | empty =>
      subst same
      exact absurd (otherStops token (by simp [tokens])) kind.2
    | leaf otherToken otherTail =>
      simp only [tokens, List.cons_append, List.cons.injEq] at same
      obtain ⟨rfl, same⟩ := same
      obtain ⟨rfl, rests⟩ := ih oneValid.2 otherValid.2 oneStops otherStops same
      exact ⟨rfl, rests⟩
    | pair opening inner closing otherTail =>
      simp only [tokens, List.cons_append, List.cons.injEq] at same
      obtain ⟨rfl, _⟩ := same
      exact absurd otherValid.1 kind.1
  | pair opening inner closing rest inside after =>
    obtain ⟨openingKind, closingKind, _, innerValid, restValid⟩ := oneValid
    cases other with
    | empty =>
      subst same
      have closing := otherStops opening (by simp [tokens])
      simp [openingKind] at closing
    | leaf otherToken otherTail =>
      simp only [tokens, List.cons_append, List.cons.injEq] at same
      obtain ⟨rfl, _⟩ := same
      exact absurd openingKind (leaf?_kind otherValid.1).1
    | pair otherOpening otherInner otherClosing otherTail =>
      obtain ⟨_, otherKind, _, otherInnerValid, otherTailValid⟩ := otherValid
      simp only [tokens, List.cons_append, List.append_assoc, List.cons.injEq] at same
      obtain ⟨rfl, same⟩ := same
      -- What stands inside stops at the closing tag, so both pairs are closed by the same one.
      obtain ⟨rfl, rests⟩ := inside innerValid otherInnerValid
        (by simp [Stops, closingKind]) (by simp [Stops, otherKind]) same
      simp only [List.cons.injEq] at rests
      obtain ⟨rfl, tails⟩ := rests
      obtain ⟨rfl, left⟩ := after restValid otherTailValid oneStops otherStops tails
      exact ⟨rfl, left⟩

/-- A token sequence has one valid derivation at most. -/
theorem eq_of_tokens_eq {one other : Derivation} (oneValid : one.Valid markup closes)
    (otherValid : other.Valid markup closes) (same : one.tokens = other.tokens) : one = other :=
  -- Both stop at the end of the tokens.
  have nothing : Stops [] := by simp [Stops]
  (eq_of_tokens_append oneValid otherValid nothing nothing (by simpa using same)).1

end Derivation

namespace Tree

variable {α : Type} {config : Config α} {template : String}

/-- The tokens of a valid derivation are built into its nodes. -/
theorem ofTokens_derivation {derivation : Derivation}
    (valid : derivation.Valid config.markup config.closes) :
    ofTokens derivation.tokens config template = .ok ⟨derivation.nodes config.markup.names⟩ := by
  -- Nothing is open after the derivation, so its nodes are those at the top.
  have built := Building.finish_derivation template valid .start []
  rw [List.append_nil, Building.start, Building.foldl_add_top] at built
  simpa [ofTokens, Building.start, Building.finish] using built

/-- Tokens that were built into a tree have a valid derivation of its nodes. -/
theorem derivation_of_ofTokens {tokens : List Token} {tree : Tree}
    (built : ofTokens tokens config template = .ok tree) :
    ∃ derivation : Derivation, derivation.Valid config.markup config.closes ∧
      derivation.tokens = tokens ∧ derivation.nodes config.markup.names = tree.children := by
  -- At the start nothing is open, which leaves one derivation for all tokens.
  have completes := Building.completes_of_finish built
  generalize tree.children = nodes at completes
  cases completes with
  | done valid => exact ⟨_, valid, rfl, rfl⟩

/-- A tree is built from tokens if and only if they have a derivation of its nodes, in which every
closing tag pairs with its opening tag; and no token sequence has two derivations. -/
theorem ofTokens_eq_ok_iff (tokens : List Token) (config : Config α) (template : String)
    (tree : Tree) :
    (ofTokens tokens config template = .ok tree ↔
      ∃ derivation : Derivation, derivation.Valid config.markup config.closes ∧
        derivation.tokens = tokens ∧ derivation.nodes config.markup.names = tree.children) ∧
    ∀ one other : Derivation, one.Valid config.markup config.closes →
      other.Valid config.markup config.closes →
      one.tokens = tokens → other.tokens = tokens → one = other := by
  refine ⟨⟨derivation_of_ofTokens, ?_⟩, ?_⟩
  · -- A derivation says what is built, and no other one has the same tokens.
    rintro ⟨derivation, valid, rfl, same⟩
    rw [ofTokens_derivation valid, same]
  · intro one other oneValid otherValid sameOne sameOther
    exact Derivation.eq_of_tokens_eq oneValid otherValid (sameOne.trans sameOther.symm)

end Tree

end TagTemplate
