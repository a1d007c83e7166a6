import TagTemplate.Markup
import TagTemplate.Proofs.Token.Cursor

/-! Tables behind each other cut a template in layers: what the first table leaves is cut by the
second one, each stretch as a template of its own. -/

namespace TagTemplate

/-- The token as many bytes further on. -/
def Token.shift (offset : Nat) (token : Token) : Token :=
  { token with position := offset + token.position }

/-- Texts that are placed further on make the same tokens further on. -/
theorem place_shift (offset position : Nat) (entries : List (TokenKind × List Char)) :
    place (offset + position) entries = (place position entries).map (Token.shift offset) := by
  -- Every token moves the position of the next one, whatever it started from.
  induction entries generalizing position with
  | nil => rfl
  | cons entry rest ih =>
    simp only [place, Token.stop, List.map_cons, ← ih, Nat.add_assoc]
    rfl

/-- The tokens that a way of cutting makes of a token: those of its text, moved to its place, if it
is literal text, and otherwise the token itself. -/
def Token.recut (cut : String → List Token) (token : Token) : List Token :=
  if token.kind = .text then (cut token.raw).map (Token.shift token.position) else [token]

/-- No two neighbours among tokens are literal text. -/
def Token.Alternating (tokens : List Token) : Prop :=
  tokens.IsChain fun left right => ¬ (left.kind = .text ∧ right.kind = .text)

/-- Whether tokens are those of a coarser cut with all literal text cut further in some way: no
other token is changed, moved, split or left out, and each stretch of literal text is cut as a
whole. -/
structure Layered (coarse : List Token) (cut : String → List Token) (fine : List Token) :
    Prop where
  refined : fine = coarse.flatMap (Token.recut cut)
  claimed : (coarse.filter (·.kind ≠ .text)).Sublist fine
  whole : Token.Alternating coarse

/-- Tokens other than literal text are left as they are. -/
theorem Token.sublist_recut (cut : String → List Token) (tokens : List Token) :
    (tokens.filter (·.kind ≠ .text)).Sublist (tokens.flatMap (Token.recut cut)) := by
  -- Each token is either cut, and then not among those that are kept, or left as it is.
  induction tokens with
  | nil => exact List.Sublist.refl _
  | cons token rest ih =>
    rw [List.flatMap_cons]
    by_cases literal : token.kind = .text
    · simpa [literal] using ih.trans (List.sublist_append_right _ _)
    · simpa [literal, Token.recut] using ih

/-- A token that is not literal text can stand between any others. -/
theorem Token.Alternating.join {token : Token} {left right : List Token}
    (front : Token.Alternating left) (back : Token.Alternating right)
    (claimed : token.kind ≠ .text) : Token.Alternating (left ++ token :: right) :=
  isChain_append_cons front back (fun _ both => claimed both.2) (fun _ both => claimed both.1)

/-- A slice of a slice is a slice of the whole text. -/
theorem Text.slice?_slice {text part raw : String} {start stop first last : Nat}
    (outer : slice? text start stop = some part) (inner : slice? part first last = some raw) :
    slice? text (start + first) (start + last) = some raw := by
  -- What stands around the inner slice is put together from both sides.
  obtain ⟨front, back, rfl, rfl, rfl⟩ := slice?_eq_some_iff.mp outer
  obtain ⟨left, right, rfl, rfl, rfl⟩ := slice?_eq_some_iff.mp inner
  rw [slice?_eq_some_iff]
  exact ⟨front ++ left, right ++ back, by simp only [String.append_assoc], by simp, by omega⟩

namespace Cursor

variable {template part : String} {start stop : Nat}

/-- The tokens that a table of searches cuts a template into. -/
def cut (table : List (TokenKind × Search)) (template : String) : List Token :=
  (tokens template table 0 template.utf8ByteSize).getD []

/-- Whether two ways of cutting give related tokens between any two boundaries of a part in order,
the second one with the part at an offset. -/
def Corresponds (relation : List Token → List Token → Prop) (part : String) (offset : Nat)
    (inner outer : Nat → Nat → Option (List Token)) : Prop :=
  ∀ first last, Text.Boundary part first → Text.Boundary part last → first ≤ last →
    ∃ tokens others, inner first last = some tokens ∧
      outer (offset + first) (offset + last) = some others ∧ relation tokens others

/-- Two walks over the same ranges give related tokens if what lies between the ranges does, as long
as a match between related tokens leaves them related. -/
theorem walk_related {relation : List Token → List Token → Prop} (kind : TokenKind)
    (joins : ∀ {before before' after after' : List Token} (raw : String) (position : Nat),
      relation before before' → relation after after' →
        relation (before ++ ⟨kind, raw, position⟩ :: after)
          (before' ++ ⟨kind, raw, start + position⟩ :: after'))
    (sliced : Text.slice? template start stop = some part)
    {inner outer : Nat → Nat → Option (List Token)}
    (between : Corresponds relation part start inner outer) {base last : Nat} {text : String}
    (within : Text.slice? part base last = some text) {reached : Nat} {ranges : List (Nat × Nat)}
    (orderly : Orderly text reached ranges) {cursor : Nat} (valid : Text.Boundary part cursor)
    (behind : cursor ≤ base + reached) (inside : cursor ≤ last) :
    ∃ tokens others, walk part kind inner base last cursor ranges = some tokens ∧
      walk template kind outer (start + base) (start + last) (start + cursor) ranges =
        some others ∧ relation tokens others := by
  obtain ⟨_, lastValid, size⟩ := Text.boundary_of_slice? within
  -- Both cursors stand at the same place of the part all the way.
  induction orderly generalizing cursor with
  | nil => exact between cursor last valid lastValid inside
  | @cons reached first final ranges after ordered firstValid finalValid _ ih =>
    have firstShifted := Text.Boundary.shift within firstValid
    have finalShifted := Text.Boundary.shift within finalValid
    by_cases empty : first = final
    -- An empty match claims nothing and leaves the cursors where they are.
    · rw [walk, walk, if_pos empty, if_pos empty]
      exact ih valid (by omega) inside
    · have reach := finalValid.le
      -- What lies before the match is related, and so is what is found behind it.
      obtain ⟨before, before', cut, cut', front⟩ :=
        between cursor (base + first) valid firstShifted (by omega)
      -- The match is the same text in the part and in the template.
      obtain ⟨raw, claimed⟩ := Text.exists_slice? firstShifted finalShifted (by omega)
      have claimed' := Text.slice?_slice sliced claimed
      obtain ⟨tokens, others, walked, walked', back⟩ := ih finalShifted (Nat.le_refl _) (by omega)
      refine ⟨_, _, ?_, ?_, joins raw (base + first) front back⟩
      · simp [walk, empty, cut, claimed, walked]
      · simp [walk, empty, Nat.add_assoc, cut', claimed', walked']

/-- In a slice of a template a table finds the tokens of the slice by itself, moved to its place. -/
theorem corresponds_shift (sliced : Text.slice? template start stop = some part)
    (table : List (TokenKind × Search)) :
    Corresponds (fun tokens others => others = tokens.map (Token.shift start)) part start
      (tokens part table) (tokens template table) := by
  -- Each row walks over the same ranges in the part and in the template.
  induction table with
  | nil =>
    intro first last firstValid lastValid ordered
    by_cases empty : first = last
    · subst empty
      exact ⟨[], [], by simp [tokens], by simp [tokens], rfl⟩
    · -- What no row claims is one token of literal text, here and there.
      obtain ⟨raw, inner⟩ := Text.exists_slice? firstValid lastValid ordered
      have outer := Text.slice?_slice sliced inner
      exact ⟨[⟨.text, raw, first⟩], [⟨.text, raw, start + first⟩], by simp [tokens, empty, inner],
        by simp [tokens, empty, outer], rfl⟩
  | cons row rest ih =>
    obtain ⟨kind, search⟩ := row
    intro first last firstValid lastValid ordered
    obtain ⟨text, inner⟩ := Text.exists_slice? firstValid lastValid ordered
    -- The slice of the part is a slice of the template, so the search finds the same ranges in it.
    have outer := Text.slice?_slice sliced inner
    obtain ⟨found, others, walked, walked', moved⟩ := walk_related kind
      (fun raw position front back => by simp [front, back, Token.shift]) sliced ih inner
      (search.orderly text) firstValid (by omega) ordered
    exact ⟨found, others, by simpa [tokens, inner] using walked,
      by simpa [tokens, outer] using walked', moved⟩

/-- A template is cut between its ends. -/
theorem tokens_eq_cut (table : List (TokenKind × Search)) (template : String) :
    tokens template table 0 template.utf8ByteSize = some (cut table template) := by
  -- Between two boundaries there are always tokens.
  obtain ⟨found, same, _⟩ := tokens_cuts template table 0 template.utf8ByteSize
    (Text.boundary_zero template) (Text.boundary_end template) (Nat.zero_le _)
  rw [cut, same, Option.getD_some]

/-- A slice of a template is cut as a template of its own. -/
theorem tokens_slice (sliced : Text.slice? template start stop = some part)
    (table : List (TokenKind × Search)) :
    tokens template table start stop = some ((cut table part).map (Token.shift start)) := by
  -- The part is cut from its start to its end.
  obtain ⟨found, others, inner, outer, rfl⟩ := corresponds_shift sliced table 0 part.utf8ByteSize
    (Text.boundary_zero part) (Text.boundary_end part) (Nat.zero_le _)
  rw [tokens_eq_cut, Option.some.injEq] at inner
  rw [inner, ← outer, Nat.add_zero, (Text.boundary_of_slice? sliced).2.2]

/-- Nothing is cut from the empty template. -/
theorem cut_empty (table : List (TokenKind × Search)) : cut table "" = [] := by
  -- The tokens cut the empty template into pieces, so there are none.
  obtain ⟨found, same, partition⟩ := tokens_partition "" table
  rw [tokens_eq_cut, Option.some.injEq] at same
  rw [same, partition.eq_nil_iff]

/-- Between any boundaries the tokens of two tables behind each other are those of the first table
with literal text cut by the second one. -/
theorem corresponds_recut (template : String) {front : List (TokenKind × Search)}
    (named : ∀ row ∈ front, row.1 ≠ .text) (back : List (TokenKind × Search)) :
    Corresponds (fun coarse fine => Token.Alternating coarse ∧
        fine = coarse.flatMap (Token.recut (cut back))) template 0
      (tokens template front) (tokens template (front ++ back)) := by
  -- Each row of the first table leaves gaps to the rows after it, as it does without the second.
  induction front with
  | nil =>
    intro first last firstValid lastValid ordered
    obtain ⟨raw, sliced⟩ := Text.exists_slice? firstValid lastValid ordered
    have behind := tokens_slice sliced back
    simp only [Nat.zero_add, List.nil_append]
    -- With no rows of the first table, all between the boundaries is one literal text or nothing.
    by_cases empty : first = last
    · have size := (Text.boundary_of_slice? sliced).2.2
      obtain rfl : raw = "" := String.utf8ByteSize_eq_zero_iff.mp (by omega)
      rw [cut_empty] at behind
      exact ⟨[], [], by simp [tokens, empty], behind, .nil, rfl⟩
    · exact ⟨[⟨.text, raw, first⟩], _, by simp [tokens, empty, sliced], behind, .singleton _,
        by simp [Token.recut]⟩
  | cons row rest ih =>
    obtain ⟨kind, search⟩ := row
    obtain ⟨different, others⟩ := List.forall_mem_cons.mp named
    intro first last firstValid lastValid ordered
    obtain ⟨text, sliced⟩ := Text.exists_slice? firstValid lastValid ordered
    -- A match of a category that is not literal text stays as it is and keeps its sides apart.
    obtain ⟨coarse, fine, walked, walked', related⟩ := walk_related kind
      (fun raw position front back => ⟨front.1.join back.1 different,
        by simp [front.2, back.2, Token.recut, different]⟩)
      (Text.slice?_whole template) (ih others) sliced (search.orderly text) firstValid (by omega)
      ordered
    refine ⟨coarse, fine, by simpa [tokens, sliced] using walked, ?_, related⟩
    simpa [tokens, sliced] using walked'

/-- Tables of searches behind each other cut a template in layers, if no search of the first table
finds literal text. -/
theorem layered_cut {front : List (TokenKind × Search)} (named : ∀ row ∈ front, row.1 ≠ .text)
    (back : List (TokenKind × Search)) (template : String) :
    Layered (cut front template) (cut back) (cut (front ++ back) template) := by
  -- The whole template lies between its first and its last boundary.
  obtain ⟨coarse, fine, found, found', alternating, refined⟩ :=
    corresponds_recut template named back 0 template.utf8ByteSize (Text.boundary_zero template)
      (Text.boundary_end template) (Nat.zero_le _)
  simp only [Nat.zero_add, tokens_eq_cut, Option.some.injEq] at found found'
  subst found found'
  exact ⟨refined, refined ▸ Token.sublist_recut _ _, alternating⟩

end Cursor

/-- The tokens of a template are what the searches of its table cut from it. -/
theorem tokenize_eq_cut (categories : List Category) (template : String) :
    tokenize categories template = Cursor.cut (categories.map Category.search) template := by
  rw [Cursor.cut, Cursor.tokens_template, Option.getD_some]

/-- Tables of categories behind each other cut a template in layers, if no category of the first
table claims literal text: the tokens of both are those of the first one, with each stretch of
literal text cut by the second one as a template of its own. This is so for any other searches. -/
theorem tokenize_append (front back : List Category)
    (named : ∀ category ∈ front, category.kind ≠ .text) (template : String) :
    Layered (tokenize front template) (tokenize back) (tokenize (front ++ back) template) ∧
      ∀ claiming others : List (TokenKind × Search), (∀ row ∈ claiming, row.1 ≠ .text) →
        Layered (Cursor.cut claiming template) (Cursor.cut others)
          (Cursor.cut (claiming ++ others) template) := by
  constructor
  · -- The categories are searches, which are cut in layers like any others.
    have searches : ∀ row ∈ front.map Category.search, row.1 ≠ .text := by
      simpa [Category.search] using named
    have layered := Cursor.layered_cut searches (back.map Category.search) template
    have cuts := funext (tokenize_eq_cut back)
    rwa [← List.map_append, ← tokenize_eq_cut, ← tokenize_eq_cut, ← cuts] at layered
  · intro claiming others distinct
    exact Cursor.layered_cut distinct others template

/-- What the usual table leaves is cut into runs of one letter and what is between them, where the
pattern of the letter matches no text. -/
theorem tokenize_append_letters :
    (∀ category ∈ Markup.plain.categories, category.kind ≠ .text) ∧
      tokenize Markup.plain.categories "<a>éxxé\x7bx\x7dx" =
        [⟨.opening, "<a>", 0⟩, ⟨.text, "éxxé", 3⟩, ⟨.placeholder, "\x7bx\x7d", 9⟩,
          ⟨.text, "x", 12⟩] ∧
      tokenize
          (Markup.plain.categories ++ [⟨.text, .ofRegex "x*" (.star true (.one (.single 'x')))⟩])
          "<a>éxxé\x7bx\x7dx" =
        [⟨.opening, "<a>", 0⟩, ⟨.text, "é", 3⟩, ⟨.text, "xx", 5⟩, ⟨.text, "é", 7⟩,
          ⟨.placeholder, "\x7bx\x7d", 9⟩, ⟨.text, "x", 12⟩] ∧
      Layered (tokenize Markup.plain.categories "<a>éxxé\x7bx\x7dx")
        (tokenize [⟨.text, .ofRegex "x*" (.star true (.one (.single 'x')))⟩])
        (tokenize
          (Markup.plain.categories ++ [⟨.text, .ofRegex "x*" (.star true (.one (.single 'x')))⟩])
          "<a>éxxé\x7bx\x7dx") := by
  have named : ∀ category ∈ Markup.plain.categories, category.kind ≠ .text := by decide
  exact ⟨named, rfl, rfl, (tokenize_append _ _ named _).1⟩

end TagTemplate
