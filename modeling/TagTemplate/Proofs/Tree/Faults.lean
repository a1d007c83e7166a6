import TagTemplate.Proofs.Token.Cursor
import TagTemplate.Proofs.Tree.Derivation

/-! A template that cannot be built into a tree has one fault, which is told with its place: the
first closing tag that closes nothing or something else, or else the end of the template. -/

namespace TagTemplate

variable {markup : Markup} {closes : TagMatcher}

namespace Derivation

/-- One derivation behind another. -/
def append : Derivation → Derivation → Derivation
  | empty, next => next
  | leaf token rest, next => leaf token (rest.append next)
  | pair opening inner closing rest, next => pair opening inner closing (rest.append next)

/-- Derivations behind each other hold the tokens of both. -/
theorem tokens_append (front next : Derivation) :
    (front.append next).tokens = front.tokens ++ next.tokens := by
  -- The second derivation stands where the first one ends, behind all of its siblings.
  induction front with
  | empty => rfl
  | leaf token rest ih => simp [append, tokens, ih]
  | pair opening inner closing rest _ ih => simp [append, tokens, ih]

/-- Valid derivations behind each other are valid. -/
theorem Valid.append {front next : Derivation} (frontValid : front.Valid markup closes)
    (nextValid : next.Valid markup closes) : (front.append next).Valid markup closes := by
  -- Only what follows the last token changes, so the induction is along the rests.
  induction front with
  | empty => exact nextValid
  | leaf token rest ih => exact ⟨frontValid.1, ih frontValid.2⟩
  | pair opening inner closing rest _ ih =>
    obtain ⟨openingKind, closingKind, pairs, innerValid, restValid⟩ := frontValid
    exact ⟨openingKind, closingKind, pairs, innerValid, ih restValid⟩

end Derivation

/-- Whether tokens are balanced: they have a valid derivation. -/
def Balanced (markup : Markup) (closes : TagMatcher) (tokens : List Token) : Prop :=
  ∃ derivation : Derivation, derivation.Valid markup closes ∧ derivation.tokens = tokens

namespace Balanced

/-- No tokens are balanced. -/
theorem nil : Balanced markup closes [] :=
  ⟨.empty, trivial, rfl⟩

/-- A token that makes a node by itself is balanced. -/
theorem leaf {token : Token} (made : (markup.names.leaf? token).isSome) :
    Balanced markup closes [token] :=
  ⟨.leaf token .empty, ⟨made, trivial⟩, rfl⟩

/-- Balanced tokens between two tags that pair are balanced with the tags. -/
theorem pair {opening closing : Token} {inner : List Token} (openingKind : opening.kind = .opening)
    (closingKind : closing.kind = .closing) (pairs : closes markup opening.raw closing.raw = true)
    (inside : Balanced markup closes inner) :
    Balanced markup closes (opening :: (inner ++ [closing])) := by
  -- The pair is a derivation with nothing behind it.
  obtain ⟨derivation, valid, rfl⟩ := inside
  exact ⟨.pair opening derivation closing .empty,
    ⟨openingKind, closingKind, pairs, valid, trivial⟩, rfl⟩

/-- Balanced tokens behind each other are balanced. -/
theorem append {front back : List Token} (first : Balanced markup closes front)
    (second : Balanced markup closes back) : Balanced markup closes (front ++ back) := by
  obtain ⟨left, leftValid, rfl⟩ := first
  obtain ⟨right, rightValid, rfl⟩ := second
  exact ⟨left.append right, leftValid.append rightValid, left.tokens_append right⟩

end Balanced

/-- Tokens that leave opening tags open, the innermost one first: what stands before the first of
these tags, between two of them and behind the last one is balanced. -/
inductive LeavesOpen (markup : Markup) (closes : TagMatcher) :
    List Token → (opened : List Token) → Prop where
  /-- Balanced tokens leave nothing open. -/
  | balanced {tokens : List Token} (balanced : Balanced markup closes tokens) :
    LeavesOpen markup closes tokens []
  /-- An opening tag with balanced tokens behind it is left open inside those before it. -/
  | opening {front inner opened : List Token} {token : Token}
    (outer : LeavesOpen markup closes front opened) (kind : token.kind = .opening)
    (inside : Balanced markup closes inner) :
    LeavesOpen markup closes (front ++ token :: inner) (token :: opened)

/-- Where a token sequence goes wrong: the fault, the tokens before it, and the closing tag that is
at fault, if there is one. -/
structure FaultSite where
  fault : SyntaxFault
  before : List Token
  offender : Option Token

/-- The error that tells of a fault: at the closing tag, or at the end of the template. -/
def FaultSite.error (site : FaultSite) (template : String) : SyntaxError :=
  match site.offender with
  | some token => ⟨site.fault, template, token.position, token.raw.utf8ByteSize⟩
  | none => ⟨site.fault, template, template.utf8ByteSize, 0⟩

namespace FaultSite

/-- The error of a fault is of the same kind. -/
theorem fault_error (site : FaultSite) (template : String) :
    (site.error template).fault = site.fault := by
  -- The place depends on the tag at fault, the kind does not.
  unfold error
  split <;> rfl

/-- The error of a fault holds the whole template. -/
theorem template_error (site : FaultSite) (template : String) :
    (site.error template).template = template := by
  unfold error
  split <;> rfl

end FaultSite

/-- Whether an error marks a stretch of its template: the stretch starts and stops between
characters, it is the given text, and the label of the report covers it. -/
structure SyntaxError.Marks (error : SyntaxError) (raw : String) : Prop where
  start : Text.Boundary error.template error.position
  stop : Text.Boundary error.template (error.position + error.length)
  slice : Text.slice? error.template error.position (error.position + error.length) = some raw
  label : error.diagnostic.labels = [(error.position, error.length, "here")]

/-- An error marks the slice at its position. -/
theorem SyntaxError.Marks.of_slice? {error : SyntaxError} {raw : String}
    (sliced : Text.slice? error.template error.position (error.position + error.length) =
      some raw) : error.Marks raw :=
  have ⟨start, stop, _⟩ := Text.boundary_of_slice? sliced
  ⟨start, stop, sliced, rfl⟩

/-- How a token sequence can go wrong. -/
inductive Faulty (markup : Markup) (closes : TagMatcher) (tokens : List Token) :
    FaultSite → Prop where
  /-- A closing tag follows balanced tokens. -/
  | unmatched {before after : List Token} {token : Token}
    (split : tokens = before ++ token :: after) (kind : token.kind = .closing)
    (balanced : Balanced markup closes before) :
    Faulty markup closes tokens ⟨.unmatchedClosing, before, some token⟩
  /-- A closing tag does not pair with the innermost tag that is left open before it. -/
  | mismatched {before after opened : List Token} {token opening : Token}
    (split : tokens = before ++ token :: after) (kind : token.kind = .closing)
    (leaves : LeavesOpen markup closes before (opening :: opened))
    (apart : closes markup opening.raw token.raw = false) :
    Faulty markup closes tokens ⟨.mismatchedClosing, before, some token⟩
  /-- All tokens together leave a tag open. -/
  | unclosed {opening : Token} {opened : List Token}
    (leaves : LeavesOpen markup closes tokens (opening :: opened)) :
    Faulty markup closes tokens ⟨.unclosed, tokens, none⟩

namespace LeavesOpen

/-- Balanced tokens behind others leave open what those leave open. -/
theorem append {front back opened : List Token} (leaves : LeavesOpen markup closes front opened)
    (balanced : Balanced markup closes back) : LeavesOpen markup closes (front ++ back) opened := by
  cases leaves with
  | balanced first => exact .balanced (first.append balanced)
  | opening outer kind inside =>
    -- What comes last belongs to the innermost open tag.
    simpa using LeavesOpen.opening outer kind (inside.append balanced)

/-- One more token leaves tags open too, or it is a closing tag at fault whatever follows it. -/
theorem step {front opened : List Token} (leaves : LeavesOpen markup closes front opened)
    (token : Token) :
    (∃ opened, LeavesOpen markup closes (front ++ [token]) opened) ∨
      ∃ fault, ∀ after,
        Faulty markup closes (front ++ token :: after) ⟨fault, front, some token⟩ := by
  cases kind : token.kind with
  | opening => exact Or.inl ⟨_, leaves.opening kind .nil⟩
  | closing =>
    cases leaves with
    | balanced balanced =>
      -- Nothing is open that the tag could close.
      exact Or.inr ⟨_, fun after => .unmatched rfl kind balanced⟩
    | @opening outerFront inner outerOpened opening outer openingKind inside =>
      cases pairs : closes markup opening.raw token.raw with
      | true =>
        -- The tag closes the innermost open one, and the pair is balanced.
        have closed := outer.append (.pair openingKind kind pairs inside)
        exact Or.inl ⟨outerOpened, by simpa using closed⟩
      | false =>
        exact Or.inr ⟨_, fun after => .mismatched rfl kind (outer.opening openingKind inside) pairs⟩
  | _ =>
    -- All other tokens make nodes by themselves.
    have made : (markup.names.leaf? token).isSome := by simp [NameExtractors.leaf?, kind]
    exact Or.inl ⟨opened, leaves.append (.leaf made)⟩

/-- Tokens behind others leave tags open together with those, or there is a closing tag at fault
among them. -/
theorem or_faulty {front opened : List Token} (leaves : LeavesOpen markup closes front opened)
    (tokens : List Token) :
    (∃ opened, LeavesOpen markup closes (front ++ tokens) opened) ∨
      ∃ site, Faulty markup closes (front ++ tokens) site := by
  -- One token after another goes to the front, until one of them is at fault.
  induction tokens generalizing front opened with
  | nil => exact Or.inl ⟨opened, by simpa using leaves⟩
  | cons token rest ih =>
    rcases leaves.step token with ⟨_, longer⟩ | ⟨_, faulty⟩
    · simpa using ih longer
    · exact Or.inr ⟨_, faulty rest⟩

/-- After tokens that leave tags open the builder has exactly these tags open. -/
theorem finish {tokens opened : List Token} (leaves : LeavesOpen markup closes tokens opened)
    (template : String) :
    ∃ building : Building, building.opened.map OpenElement.opening = opened.map Token.raw ∧
      ∀ rest, Building.start.finish markup closes template (tokens ++ rest) =
        building.finish markup closes template rest := by
  -- What follows stays arbitrary, so that the builder can be followed from tag to tag.
  induction leaves with
  | balanced balanced =>
    -- Balanced tokens add nodes to the top and open nothing.
    obtain ⟨derivation, valid, rfl⟩ := balanced
    refine ⟨_, ?_, Building.finish_derivation template valid .start⟩
    simp [Building.start, Building.foldl_add_top]
  | @opening front inner opened token outer kind inside ih =>
    obtain ⟨building, same, reached⟩ := ih
    obtain ⟨derivation, valid, rfl⟩ := inside
    -- The tag becomes the innermost open element, and what follows it adds children.
    let element : OpenElement := ⟨markup.names.extract .opening token.raw, token.raw, []⟩
    let entered : Building := ⟨building.top, element :: building.opened⟩
    refine ⟨(derivation.nodes markup.names).foldl Building.add entered, ?_, fun rest => ?_⟩
    · simp [entered, element, Building.foldl_add_opened, same]
    · rw [List.append_assoc, List.cons_append, reached, Building.finish, Building.take_opening kind]
      exact Building.finish_derivation template valid entered rest

end LeavesOpen

namespace Faulty

/-- Faulty tokens are refused with the error that tells of the fault. -/
theorem finish {tokens : List Token} {site : FaultSite} (faulty : Faulty markup closes tokens site)
    (template : String) :
    Building.start.finish markup closes template tokens = .error (site.error template) := by
  -- The builder has the tags open that the tokens before the fault leave open.
  cases faulty with
  | unmatched split kind balanced =>
    obtain ⟨⟨top, opened⟩, same, reached⟩ := (LeavesOpen.balanced balanced).finish template
    obtain rfl : opened = [] := by simpa using same
    subst split
    rw [reached]
    simp [Building.finish, Building.take, kind, FaultSite.error]
  | mismatched split kind leaves apart =>
    obtain ⟨⟨top, opened⟩, same, reached⟩ := leaves.finish template
    obtain ⟨element, outer, rfl, sameOpening, _⟩ := List.map_eq_cons_iff.mp same
    subst split
    rw [reached]
    simp [Building.finish, Building.take, kind, sameOpening, apart, FaultSite.error]
  | unclosed leaves =>
    obtain ⟨⟨top, opened⟩, same, reached⟩ := leaves.finish template
    obtain ⟨element, outer, rfl, _⟩ := List.map_eq_cons_iff.mp same
    -- No tokens are left to close it.
    have ended := reached []
    rw [List.append_nil] at ended
    rw [ended]
    simp [Building.finish, FaultSite.error]

/-- A fault is at the end of the tokens, or at a closing tag behind tokens that leave tags open;
what follows that tag does not matter. -/
theorem site_cases {tokens : List Token} {site : FaultSite}
    (faulty : Faulty markup closes tokens site) :
    site = ⟨.unclosed, tokens, none⟩ ∨
      ∃ token after opened, site.offender = some token ∧ site.fault ≠ .unclosed ∧
        tokens = site.before ++ token :: after ∧ LeavesOpen markup closes site.before opened ∧
        ∀ after, Faulty markup closes (site.before ++ token :: after) site := by
  -- Only tags that are left open are told of at the end.
  cases faulty with
  | unmatched split kind balanced =>
    exact Or.inr ⟨_, _, _, rfl, by simp, split, .balanced balanced,
      fun after => .unmatched rfl kind balanced⟩
  | mismatched split kind leaves apart =>
    exact Or.inr ⟨_, _, _, rfl, by simp, split, leaves,
      fun after => .mismatched rfl kind leaves apart⟩
  | unclosed leaves => exact Or.inl rfl

/-- Two faults of the same tokens are of one kind. -/
theorem fault_eq {tokens : List Token} {one other : FaultSite}
    (first : Faulty markup closes tokens one) (second : Faulty markup closes tokens other) :
    one.fault = other.fault := by
  -- The builder refuses the tokens once, with one error.
  have same := (first.finish "").symm.trans (second.finish "")
  rw [Except.error.injEq] at same
  rw [← one.fault_error "", same, other.fault_error]

/-- Tokens with a closing tag at fault among them leave nothing open. -/
theorem not_leavesOpen {tokens opened : List Token} {site : FaultSite}
    (faulty : Faulty markup closes tokens site) (different : site.fault ≠ .unclosed) :
    ¬ LeavesOpen markup closes tokens opened := by
  intro leaves
  cases leaves with
  | balanced balanced =>
    -- Balanced tokens are built into a tree.
    obtain ⟨derivation, valid, rfl⟩ := balanced
    have built := Building.finish_derivation "" valid .start []
    rw [List.append_nil, faulty.finish, Building.start, Building.foldl_add_top] at built
    simp [Building.finish] at built
  | opening outer kind inside =>
    -- A tag that is left open is a fault of another kind.
    exact different (faulty.fault_eq (.unclosed (outer.opening kind inside)))

/-- No tag is left open behind a closing tag at fault, so tokens that leave tags open end before. -/
theorem eq_nil_of_leavesOpen {site : FaultSite} {token : Token}
    {inner after rest opened : List Token}
    (faulty : ∀ after, Faulty markup closes (site.before ++ token :: after) site)
    (different : site.fault ≠ .unclosed) (split : token :: after = inner ++ rest)
    (leaves : LeavesOpen markup closes (site.before ++ inner) opened) : inner = [] := by
  cases inner with
  | nil => rfl
  | cons first tail =>
    -- Otherwise they would begin with the tag, which is at fault whatever follows.
    obtain ⟨rfl, _⟩ := List.cons.inj split
    exact absurd leaves ((faulty tail).not_leavesOpen different)

/-- A token sequence has one fault at most. -/
theorem unique {tokens : List Token} {one other : FaultSite}
    (first : Faulty markup closes tokens one) (second : Faulty markup closes tokens other) :
    one = other := by
  have fault := first.fault_eq second
  rcases first.site_cases with rfl | ⟨left, _, _, leftOffends, leftClosing, leftSplit, leftLeaves,
    leftFaulty⟩
  · rcases second.site_cases with rfl | ⟨_, _, _, _, closing, _⟩
    · rfl
    · exact absurd fault.symm closing
  · rcases second.site_cases with rfl | ⟨right, _, _, rightOffends, rightClosing, rightSplit,
      rightLeaves, rightFaulty⟩
    · exact absurd fault leftClosing
    · -- Neither of the two tags stands among the tokens before the other one.
      have same := leftSplit.symm.trans rightSplit
      have before : one.before = other.before := by
        rcases List.append_eq_append_iff.mp same with ⟨inner, longer, tail⟩ | ⟨inner, longer, tail⟩
        · rw [longer] at rightLeaves
          obtain rfl := eq_nil_of_leavesOpen leftFaulty leftClosing tail rightLeaves
          simpa using longer.symm
        · rw [longer] at leftLeaves
          obtain rfl := eq_nil_of_leavesOpen rightFaulty rightClosing tail leftLeaves
          simpa using longer
      -- So both are the token that stands behind the same tokens.
      rw [before, List.append_cancel_left_eq, List.cons.injEq] at same
      obtain ⟨rfl, _⟩ := same
      cases one
      cases other
      simp_all

end Faulty

/-- Whether a template has a fault at a place, if it is read by a configuration. -/
def Config.FaultAt {α : Type} (config : Config α) (template : String) (site : FaultSite) : Prop :=
  Faulty config.markup config.closes (tokenize config.markup.categories template) site

namespace Tree

variable {α : Type} {config : Config α} {tokens : List Token} {template : String}

/-- Tokens that are refused are faulty, and the error tells of the fault. -/
theorem faulty_of_ofTokens {error : SyntaxError}
    (refused : ofTokens tokens config template = .error error) :
    ∃ site, Faulty config.markup config.closes tokens site ∧ error = site.error template := by
  have faulty : ∃ site, Faulty config.markup config.closes tokens site := by
    have start : LeavesOpen config.markup config.closes [] [] := .balanced .nil
    -- Without a closing tag at fault the tokens leave tags open up to the end.
    rcases start.or_faulty tokens with ⟨opened, leaves⟩ | faulty
    · cases leaves with
      | balanced balanced =>
        -- Balanced tokens would have been built.
        obtain ⟨derivation, valid, rfl⟩ := balanced
        rw [ofTokens_derivation valid] at refused
        cases refused
      | opening outer kind inside => exact ⟨_, .unclosed (outer.opening kind inside)⟩
    · exact faulty
  obtain ⟨site, faulty⟩ := faulty
  exact ⟨site, faulty, Except.error.inj (refused.symm.trans (faulty.finish template))⟩

/-- The error of a fault in a template marks the closing tag that is at fault, or nothing at the
end. -/
theorem marks_error {site : FaultSite} (faulty : config.FaultAt template site) :
    (site.error template).Marks ((site.offender.map Token.raw).getD "") := by
  rcases faulty.site_cases with rfl | ⟨token, after, _, offends, _, split, _⟩
  · -- At the end of the template nothing is marked.
    exact .of_slice? (Text.slice?_self (Text.boundary_end template))
  · -- The tokens of the template are slices of it.
    have mem : token ∈ tokenize config.markup.categories template := by simp [split]
    have sliced := (partition_tokenize config.markup.categories template).slice token mem
    refine .of_slice? ?_
    simpa [FaultSite.error, offends, Token.stop] using sliced

/-- A template is refused if and only if its tokens are faulty, and the error tells of their only
fault: a closing tag behind balanced tokens, a closing tag that does not pair with the innermost tag
left open, or tags left open at the end. The error marks that closing tag, or nothing at the end of
the template, and does not depend on the tokens behind the tag. -/
theorem parse_eq_error_iff (template : String) (config : Config α) :
    (∀ error, parse template config = .error error ↔
      ∃ site, config.FaultAt template site ∧ error = site.error template) ∧
    (∀ one other, config.FaultAt template one → config.FaultAt template other → one = other) ∧
    ∀ site, config.FaultAt template site →
      (site.error template).template = template ∧
        (site.error template).Marks ((site.offender.map Token.raw).getD "") ∧
        ∀ token ∈ site.offender, ∀ after,
          ofTokens (site.before ++ token :: after) config template =
            .error (site.error template) := by
  refine ⟨fun error => ⟨faulty_of_ofTokens, ?_⟩, fun _ _ one other => one.unique other, ?_⟩
  · -- The builder refuses tokens of any fault with the error of that fault.
    rintro ⟨site, faulty, rfl⟩
    exact faulty.finish template
  · intro site faulty
    refine ⟨site.template_error template, marks_error faulty, fun token offends after => ?_⟩
    -- The fault is there as soon as its tag is met.
    rcases faulty.site_cases with rfl | ⟨held, _, _, holds, _, _, _, remains⟩
    · cases offends
    · obtain rfl : held = token := Option.some.inj (holds.symm.trans offends)
      exact (remains after).finish template

end Tree

end TagTemplate
