import Mathlib.Order.Bounds.Image
import TagTemplate.Proofs.Tree.Derivation

/-! The depth of a tree counted on its tokens: a tree is as deep as the most tags that are open at
once, and an element is one deeper than the tokens between its tags. -/

namespace TagTemplate

namespace Token

/-- The number of opening tags among some tokens. -/
def openings (tokens : List Token) : Nat :=
  tokens.countP (·.kind = .opening)

/-- How many more opening tags than closing tags there are among some tokens. -/
def balance (tokens : List Token) : Int :=
  openings tokens - tokens.countP (·.kind = .closing)

/-- The balances that are met on the way through some tokens, at the start and behind each one. -/
def balances (tokens : List Token) : Set Int :=
  {met | ∃ front, front <+: tokens ∧ balance front = met}

variable {token opening closing : Token} {inner rest : List Token}

/-- The opening tags of two parts add up. -/
theorem openings_append (front back : List Token) :
    openings (front ++ back) = openings front + openings back :=
  List.countP_append

/-- An opening tag is one more. -/
theorem openings_opening (kind : token.kind = .opening) (rest : List Token) :
    openings (token :: rest) = openings rest + 1 := by
  simp [openings, kind]

/-- Any other token is no opening tag. -/
theorem openings_other (kind : token.kind ≠ .opening) (rest : List Token) :
    openings (token :: rest) = openings rest := by
  simp [openings, kind]

/-- The balances of two parts add up. -/
theorem balance_append (front back : List Token) :
    balance (front ++ back) = balance front + balance back := by
  simp only [balance, openings, List.countP_append]
  omega

/-- The balance behind a token is that of the token and of what follows. -/
theorem balance_cons (token : Token) (rest : List Token) :
    balance (token :: rest) = balance [token] + balance rest :=
  balance_append [token] rest

/-- An opening tag counts one up. -/
theorem balance_opening (kind : token.kind = .opening) : balance [token] = 1 := by
  simp [balance, openings, kind]

/-- A closing tag counts one down. -/
theorem balance_closing (kind : token.kind = .closing) : balance [token] = -1 := by
  simp [balance, openings, kind]

/-- Any other token does not count. -/
theorem balance_other (kind : token.kind ≠ .opening ∧ token.kind ≠ .closing) :
    balance [token] = 0 := by
  simp [balance, openings, kind]

/-- At the start nothing was counted. -/
theorem zero_mem_balances (tokens : List Token) : 0 ∈ balances tokens :=
  ⟨[], List.nil_prefix, rfl⟩

/-- Without tokens nothing else is met. -/
theorem balances_nil : balances [] = {0} := by
  -- The only prefix is empty.
  ext met
  simp [balances, balance, openings, eq_comm]

/-- On the way through two parts the balances of the first one are met, and behind it those of the
second one on top of its own. -/
theorem mem_balances_append {front back : List Token} {met : Int} :
    met ∈ balances (front ++ back) ↔
      met ∈ balances front ∨ met - balance front ∈ balances back := by
  constructor
  · rintro ⟨start, within, rfl⟩
    -- A prefix ends in the first part or reaches into the second one.
    rcases List.prefix_or_prefix_of_prefix within (List.prefix_append front back) with
      inside | ⟨more, rfl⟩
    · exact Or.inl ⟨start, inside, rfl⟩
    · refine Or.inr ⟨more, (List.prefix_append_right_inj front).mp within, ?_⟩
      rw [balance_append]
      omega
  · -- Prefixes of the first part are prefixes of both, and those of the second one follow all of
    -- the first.
    rintro (⟨start, within, rfl⟩ | ⟨more, within, same⟩)
    · exact ⟨start, within.trans (List.prefix_append front back), rfl⟩
    · refine ⟨front ++ more, (List.prefix_append_right_inj front).mpr within, ?_⟩
      rw [balance_append, same]
      omega

/-- In front of a token nothing was counted, and behind it there is its own balance at least. -/
theorem mem_balances_cons {met : Int} :
    met ∈ balances (token :: rest) ↔ met = 0 ∨ met - balance [token] ∈ balances rest := by
  constructor
  · -- A prefix is empty or begins with the token.
    rintro ⟨start, within, rfl⟩
    rcases List.prefix_cons_iff.mp within with rfl | ⟨more, rfl, inside⟩
    · exact Or.inl rfl
    · refine Or.inr ⟨more, inside, ?_⟩
      rw [balance_cons]
      omega
  · rintro (rfl | ⟨more, within, same⟩)
    · exact zero_mem_balances _
    · refine ⟨token :: more, List.cons_prefix_cons.mpr ⟨rfl, within⟩, ?_⟩
      rw [balance_cons, same]
      omega

/-- A token that does not count changes nothing about the balances behind it. -/
theorem balances_other (kind : token.kind ≠ .opening ∧ token.kind ≠ .closing)
    (rest : List Token) : balances (token :: rest) = balances rest := by
  -- The balance at the start is met again behind the token, so nothing is added.
  ext met
  rw [mem_balances_cons, balance_other kind, Int.sub_zero]
  exact or_iff_right_of_imp fun same => same ▸ zero_mem_balances rest

/-- Two tags around balanced tokens raise by one the balances that are met between them, and leave
those behind them. -/
theorem balances_pair (openingKind : opening.kind = .opening)
    (closingKind : closing.kind = .closing) (balanced : balance inner = 0) (rest : List Token) :
    balances (opening :: (inner ++ closing :: rest)) =
      (· + 1) '' balances inner ∪ balances rest := by
  ext met
  rw [mem_balances_cons, mem_balances_append, mem_balances_cons, balance_opening openingKind,
    balance_closing closingKind, balanced, Set.mem_union, Set.mem_image]
  constructor
  · -- In front of the tags the balance is that at the start of what follows them, and in front of
    -- the closing one that at the start of what stands inside.
    rintro (rfl | inside | closed | behind)
    · exact Or.inr (zero_mem_balances rest)
    · exact Or.inl ⟨met - 1, inside, by omega⟩
    · exact Or.inl ⟨0, zero_mem_balances inner, by omega⟩
    · exact Or.inr (by simpa using behind)
  · -- The opening tag raises what is met inside, and the closing one takes that back.
    rintro (⟨met, inside, rfl⟩ | behind)
    · exact Or.inr (Or.inl (by simpa using inside))
    · exact Or.inr (Or.inr (Or.inr (by simpa using behind)))

end Token

mutual

/-- The elements in a node, in the order of their opening tags. -/
def Node.elements : Node → List Node
  | .text _ => []
  | .placeholder _ => []
  | .leaf _ => []
  | .element name opening children =>
    .element name opening children :: Node.allElements children

/-- The elements among some nodes and inside them. -/
def Node.allElements : List Node → List Node
  | [] => []
  | node :: rest => node.elements ++ Node.allElements rest

end

/-- An element is one deeper than its children, and the deepest node counts. -/
theorem Node.deepest_element (name opening : String) (children rest : List Node) :
    (Node.deepest (.element name opening children :: rest) : Int) =
      max ((Node.deepest children : Int) + 1) (Node.deepest rest : Int) := by
  rw [deepest, depth]
  omega

namespace Derivation

variable {markup : Markup} {closes : TagMatcher}

/-- A node that a token makes by itself is no element and holds none. -/
theorem exists_flat {names : NameExtractors} {token : Token}
    (made : (names.leaf? token).isSome = true) :
    ∃ node, names.leaf? token = some node ∧ node.depth = 0 ∧ node.elements = [] := by
  -- Text, placeholders and self-closing tags are the three kinds of such nodes.
  obtain ⟨node, single⟩ := Option.isSome_iff_exists.mp made
  refine ⟨node, single, ?_⟩
  unfold NameExtractors.leaf? at single
  split at single <;> cases single <;> exact ⟨rfl, rfl⟩

/-- A derivation closes as many tags as it opens. -/
theorem balance_tokens {derivation : Derivation} (valid : derivation.Valid markup closes) :
    Token.balance derivation.tokens = 0 := by
  -- The two tags of a pair cancel out; all other tokens do not count.
  induction derivation with
  | empty => rfl
  | leaf token rest ih =>
    rw [tokens, Token.balance_cons, Token.balance_other (leaf?_kind valid.1), ih valid.2]
    rfl
  | pair opening inner closing rest inside after =>
    obtain ⟨openingKind, closingKind, _, innerValid, restValid⟩ := valid
    rw [tokens, Token.balance_cons, Token.balance_append, Token.balance_cons closing,
      Token.balance_opening openingKind, Token.balance_closing closingKind, inside innerValid,
      after restValid]
    rfl

/-- A derivation never closes more tags than are open. -/
theorem balances_nonneg {derivation : Derivation} (valid : derivation.Valid markup closes)
    {met : Int} (mem : met ∈ Token.balances derivation.tokens) : 0 ≤ met := by
  -- The balance varies, as it is one less between the tags of a pair.
  induction derivation generalizing met with
  | empty =>
    rw [tokens, Token.balances_nil] at mem
    exact Int.le_of_eq mem.symm
  | leaf token rest ih =>
    rw [tokens, Token.balances_other (leaf?_kind valid.1)] at mem
    exact ih valid.2 mem
  | pair opening inner closing rest inside after =>
    obtain ⟨openingKind, closingKind, _, innerValid, restValid⟩ := valid
    rw [tokens, Token.balances_pair openingKind closingKind (balance_tokens innerValid)] at mem
    rcases mem with ⟨below, within, rfl⟩ | behind
    · -- Between the tags one more is open than inside, and behind them as many as before.
      have nonneg := inside innerValid within
      simp only
      omega
    · exact after restValid behind

/-- The nodes of a derivation are as deep as the most tags that are open at once. -/
theorem isGreatest_deepest {derivation : Derivation} (valid : derivation.Valid markup closes) :
    IsGreatest (Token.balances derivation.tokens)
      (Node.deepest (derivation.nodes markup.names)) := by
  -- Both sides are put together in the same way: a maximum over siblings, and one more for a pair.
  induction derivation with
  | empty =>
    rw [tokens, Token.balances_nil]
    exact isGreatest_singleton
  | leaf token rest ih =>
    obtain ⟨made, restValid⟩ := valid
    obtain ⟨node, single, shallow, _⟩ := exists_flat made
    rw [tokens, Token.balances_other (leaf?_kind made), nodes, single]
    simpa [Node.deepest, shallow] using ih restValid
  | pair opening inner closing rest inside after =>
    obtain ⟨openingKind, closingKind, _, innerValid, restValid⟩ := valid
    rw [tokens, Token.balances_pair openingKind closingKind (balance_tokens innerValid), nodes]
    -- The element is one deeper than what stands between its tags.
    have raise : Monotone (· + 1 : Int → Int) := fun _ _ le => Int.add_le_add_right le 1
    have raised := raise.map_isGreatest (inside innerValid)
    rw [Node.deepest_element]
    exact raised.union (after restValid)

/-- A derivation has one element for each of its opening tags. -/
theorem length_allElements {derivation : Derivation} (valid : derivation.Valid markup closes) :
    (Node.allElements (derivation.nodes markup.names)).length =
      Token.openings derivation.tokens := by
  -- Only a pair has an element, and only its first tag is an opening one.
  induction derivation with
  | empty => rfl
  | leaf token rest ih =>
    obtain ⟨made, restValid⟩ := valid
    obtain ⟨node, single, _, alone⟩ := exists_flat made
    rw [tokens, Token.openings_other (leaf?_kind made).1, nodes, single]
    simpa [Node.allElements, alone] using ih restValid
  | pair opening inner closing rest inside after =>
    obtain ⟨openingKind, closingKind, _, innerValid, restValid⟩ := valid
    have other : closing.kind ≠ .opening := by simp [closingKind]
    rw [tokens, Token.openings_opening openingKind, Token.openings_append,
      Token.openings_other other, nodes]
    simp only [Node.allElements, Node.elements, List.length_append, List.length_cons,
      inside innerValid, after restValid]
    omega

/-- Every element of a derivation has two tags among the tokens, with a derivation of its own
between them; its opening tag has the place among the opening tags that the element has among the
elements. -/
theorem exists_tags {derivation : Derivation} (valid : derivation.Valid markup closes)
    {index : Nat} {element : Node}
    (here : (Node.allElements (derivation.nodes markup.names))[index]? = some element) :
    ∃ (front : List Token) (opening : Token) (inner : Derivation) (closing : Token)
      (behind : List Token),
      derivation.tokens = front ++ opening :: (inner.tokens ++ closing :: behind) ∧
        Token.openings front = index ∧ opening.kind = .opening ∧ closing.kind = .closing ∧
        inner.Valid markup closes ∧
        element = .element (markup.names.extract .opening opening.raw) opening.raw
          (inner.nodes markup.names) := by
  -- The elements are listed in the order of their opening tags, so the index varies along that
  -- list.
  induction derivation generalizing index with
  | empty => simp [nodes, Node.allElements] at here
  | leaf token rest ih =>
    obtain ⟨made, restValid⟩ := valid
    obtain ⟨node, single, _, alone⟩ := exists_flat made
    rw [nodes, single, Option.toList_some, List.singleton_append, Node.allElements, alone,
      List.nil_append] at here
    -- The token opens no tag, so the elements are those of the tokens behind it.
    obtain ⟨front, opening, inner, closing, behind, split, place, tags⟩ := ih restValid here
    refine ⟨token :: front, opening, inner, closing, behind, ?_, ?_, tags⟩
    · rw [tokens, split, List.cons_append]
    · rw [Token.openings_other (leaf?_kind made).1, place]
  | pair first between last rest inside after =>
    obtain ⟨firstKind, lastKind, _, betweenValid, restValid⟩ := valid
    have other : last.kind ≠ .opening := by simp [lastKind]
    rw [nodes, Node.allElements, Node.elements, List.cons_append] at here
    cases index with
    | zero =>
      -- The first element is made of this pair.
      obtain rfl := Option.some.inj here
      exact ⟨[], first, between, last, rest.tokens, rfl, rfl, firstKind, lastKind, betweenValid,
        rfl⟩
    | succ index =>
      rw [List.getElem?_cons_succ] at here
      by_cases within : index < (Node.allElements (between.nodes markup.names)).length
      · -- The element stands inside the first one, and so do its tags.
        rw [List.getElem?_append_left within] at here
        obtain ⟨front, opening, inner, closing, behind, split, place, tags⟩ :=
          inside betweenValid here
        refine ⟨first :: front, opening, inner, closing, behind ++ last :: rest.tokens, ?_, ?_,
          tags⟩
        · simp [tokens, split]
        · rw [Token.openings_opening firstKind, place]
      · -- The element stands behind the first one, all of whose tags come before.
        have beyond := Nat.le_of_not_lt within
        rw [List.getElem?_append_right beyond, length_allElements betweenValid] at here
        rw [length_allElements betweenValid] at beyond
        obtain ⟨front, opening, inner, closing, behind, split, place, tags⟩ :=
          after restValid here
        refine ⟨first :: (between.tokens ++ last :: front), opening, inner, closing, behind, ?_, ?_,
          tags⟩
        · simp [tokens, split]
        · rw [Token.openings_opening firstKind, Token.openings_append,
            Token.openings_other other, place, Nat.add_sub_cancel' beyond]

end Derivation

namespace Tree

variable {α : Type} {config : Config α} {tokens : List Token} {template : String} {tree : Tree}

/-- A tree that is built from tokens is as deep as the most tags that are open at once; no closing
tag comes before its opening tag, and all tags are closed in the end. Each opening tag belongs to
one element, in order: the tokens between the tags of an element alone make its children, and the
element is one deeper than the most tags that are open at once among these tokens. -/
theorem depth_isGreatest (built : ofTokens tokens config template = .ok tree) :
    IsGreatest (Token.balances tokens) tree.depth ∧
      (∀ front, front <+: tokens → 0 ≤ Token.balance front) ∧ Token.balance tokens = 0 ∧
      (Node.allElements tree.children).length = Token.openings tokens ∧
      ∀ index element, (Node.allElements tree.children)[index]? = some element →
        ∃ front opening inner closing behind children,
          tokens = front ++ opening :: (inner ++ closing :: behind) ∧
            Token.openings front = index ∧ opening.kind = .opening ∧ closing.kind = .closing ∧
            ofTokens inner config template = .ok ⟨children⟩ ∧
            element = .element (config.markup.names.extract .opening opening.raw) opening.raw
              children ∧
            ∃ most : Nat, IsGreatest (Token.balances inner) most ∧ element.depth = 1 + most := by
  obtain ⟨derivation, valid, rfl, same⟩ := derivation_of_ofTokens built
  refine ⟨?_, ?_, Derivation.balance_tokens valid, ?_, ?_⟩
  · -- The depth of the tree is that of its deepest node.
    rw [depth, ← same]
    exact Derivation.isGreatest_deepest valid
  · -- Every prefix has one of the balances that are met.
    exact fun front within => Derivation.balances_nonneg valid ⟨front, within, rfl⟩
  · rw [← same]
    exact Derivation.length_allElements valid
  · -- The tokens between the two tags are built into the children, to which the same law applies.
    intro index element here
    rw [← same] at here
    obtain ⟨front, opening, inner, closing, behind, split, place, openingKind, closingKind,
      innerValid, rfl⟩ := Derivation.exists_tags valid here
    refine ⟨front, opening, inner.tokens, closing, behind, _, split, place, openingKind,
      closingKind, ofTokens_derivation innerValid, rfl, _,
      Derivation.isGreatest_deepest innerValid, ?_⟩
    rw [Node.depth, Nat.add_comm]

/-- Two elements inside another one and one behind it, with tags that are all taken to pair: at most
two are open at once, and one at a time between the tags of the first element. -/
theorem depth_isGreatest_siblings :
    let config : Config String :=
      { Config.plain fun text _ => text with closes := fun _ _ _ => true }
    let inner : List Token := [⟨.text, "x", 3⟩, ⟨.opening, "<b>", 4⟩, ⟨.closing, "</c>", 7⟩,
      ⟨.opening, "<d>", 11⟩, ⟨.closing, "</e>", 14⟩]
    let tokens : List Token := ⟨.opening, "<a>", 0⟩ :: (inner ++
      [⟨.closing, "</f>", 18⟩, ⟨.opening, "<g>", 22⟩, ⟨.closing, "</h>", 25⟩])
    let children : List Node := [.text "x", .element "b" "<b>" [], .element "d" "<d>" []]
    let tree : Tree := ⟨[.element "a" "<a>" children, .element "g" "<g>" []]⟩
    ofTokens tokens config "" = .ok tree ∧ tree.depth = 2 ∧
      IsGreatest (Token.balances tokens) 2 ∧ (Tree.mk children).depth = 1 ∧
      IsGreatest (Token.balances inner) 1 := by
  intro config inner tokens children tree
  -- Both token lists are built, the one inside by itself.
  have built : ofTokens tokens config "" = .ok tree := rfl
  have below : ofTokens inner config "" = .ok ⟨children⟩ := rfl
  exact ⟨built, rfl, (depth_isGreatest built).1, rfl, (depth_isGreatest below).1⟩

end Tree

end TagTemplate
