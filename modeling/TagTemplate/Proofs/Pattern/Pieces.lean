import Mathlib.Data.List.Chain
import TagTemplate.Pattern
import TagTemplate.Proofs.Pattern.Sweep

/-! How a text is cut into pieces: no two gaps are neighbours, and every match is the one preferred
where it starts. -/

namespace TagTemplate

namespace Piece

/-- The text of a gap. -/
@[simp] theorem text_gap (text : List Char) : (gap text).text = text :=
  rfl

/-- The text of a match. -/
@[simp] theorem text_hit (text : List Char) (name : Option (List Char)) :
    (hit text name).text = text :=
  rfl

/-- Whether a piece is text that no match claims. -/
def IsGap (piece : Piece) : Prop :=
  ∃ text, piece = .gap text

/-- Pieces of which no two neighbours are gaps. -/
def Separate (pieces : List Piece) : Prop :=
  pieces.IsChain fun left right => ¬ (left.IsGap ∧ right.IsGap)

/-- One more unclaimed character leaves the gaps separate. -/
theorem Separate.addGap {c : Char} {pieces : List Piece} (separate : Separate pieces) :
    Separate (addGap c pieces) := by
  cases pieces with
  | nil => exact .singleton _
  | cons piece rest =>
    cases piece with
    | gap text =>
      -- The gap in front only gets longer.
      cases rest with
      | nil => exact .singleton _
      | cons next rest =>
        rw [Separate, List.isChain_cons_cons] at separate
        refine .cons_cons ?_ separate.2
        rintro ⟨_, gap⟩
        exact separate.1 ⟨⟨text, rfl⟩, gap⟩
    | hit text name => exact .cons_cons (by simp [IsGap]) separate

/-- One more unclaimed character adds no match. -/
theorem mem_of_mem_addGap {c : Char} {pieces : List Piece} {word : List Char}
    {name : Option (List Char)} (mem : .hit word name ∈ addGap c pieces) :
    .hit word name ∈ pieces := by
  -- The character goes into the gap in front, or becomes one.
  cases pieces with
  | nil => simp [addGap] at mem
  | cons piece rest => cases piece <;> simp_all [addGap]

/-- Characters that no match claims become a gap in front of a match or of nothing. -/
theorem foldr_addGap {word : List Char} (filled : word ≠ []) {pieces : List Piece}
    (separate : ∀ piece ∈ pieces.head?, ¬ piece.IsGap) :
    word.foldr addGap pieces = .gap word :: pieces := by
  -- The characters are added from the last one to the first, as the pieces are built.
  induction word with
  | nil => exact absurd rfl filled
  | cons c word ih =>
    by_cases last : word = []
    · subst last
      -- The last character meets the match, or nothing, and starts the gap.
      cases pieces with
      | nil => rfl
      | cons piece rest =>
        cases piece with
        | gap text => simp [IsGap] at separate
        | hit text name => rfl
    · rw [List.foldr_cons, ih last, addGap]

end Piece

/-- Cutting never leaves two gaps side by side. -/
theorem separate_carve (inside : Nat) (text : List Char) (hits : List (Option Hit)) :
    Piece.Separate (carve inside text hits) := by
  -- Cutting goes on inside a match, adds to a gap, or starts with a match.
  fun_induction carve inside text hits with
  | case1 => exact .nil
  | case2 _ _ _ _ ih => exact ih
  | case3 _ _ _ _ ih => exact ih.addGap
  | case4 _ _ _ _ _ _ ih => exact ih.addGap
  | case5 c text hits hit found size eq ih =>
    -- A match separates whatever stands on its sides.
    generalize carve size text hits.tail = pieces at ih
    cases pieces with
    | nil => exact .singleton _
    | cons piece rest => exact .cons_cons (by simp [Piece.IsGap]) ih

namespace Pattern

/-- The pieces of a text that follows the character `before`. -/
def piecesAfter (pattern : Pattern) (before : Option Char) (text : List Char) : List Piece :=
  carve 0 text (pattern.program.hitsAfter before text)

variable {pattern : Pattern} {before : Option Char}

/-- The pieces of a text are those with nothing before it. -/
theorem pieces_eq (pattern : Pattern) (text : List Char) :
    pattern.pieces text = pattern.piecesAfter none text := by
  rw [pieces, piecesAfter, Program.hits_eq]

/-- The empty text has no pieces. -/
@[simp] theorem piecesAfter_nil : pattern.piecesAfter before [] = [] :=
  rfl

/-- What was cut out before a text leaves the pieces after it. -/
theorem carve_append (before : Option Char) (word rest : List Char) :
    carve word.length (word ++ rest) (pattern.program.hitsAfter before (word ++ rest)) =
      pattern.piecesAfter (word.getLast?.or before) rest := by
  -- The characters of the match are passed over one by one.
  induction word generalizing before with
  | nil => simp [piecesAfter]
  | cons c word ih =>
    rw [List.length_cons, List.cons_append, Program.hitsAfter, carve, List.tail_cons, ih]
    -- The last character of the match stands before the rest.
    cases word <;> simp [List.getLast?_cons]

/-- A character where no match of some size starts goes to a gap. -/
theorem piecesAfter_gap {c : Char} {text : List Char}
    (missed : ∀ hit, pattern.program.hitAt before (c :: text) 0 = some hit → hit.size = 0) :
    pattern.piecesAfter before (c :: text) =
      Piece.addGap c (pattern.piecesAfter (some c) text) := by
  -- Either nothing is found here or a match without characters, which claims nothing.
  rw [piecesAfter, Program.hitsAfter, carve.eq_def]
  cases found : pattern.program.hitAt before (c :: text) 0 with
  | none => simp [piecesAfter]
  | some hit => simp [piecesAfter, missed hit found]

/-- A match of some size claims its text, and the pieces go on after it. -/
theorem piecesAfter_hit {word rest : List Char} {hit : Hit} (filled : word ≠ [])
    (found : pattern.program.hitAt before (word ++ rest) 0 = some hit)
    (size : hit.size = word.length) :
    pattern.piecesAfter before (word ++ rest) =
      .hit word (hit.nameIn (word ++ rest)) ::
        pattern.piecesAfter (word.getLast?.or before) rest := by
  -- The match has a first character, where it was found; the others are passed over.
  obtain ⟨c, word, rfl⟩ := List.exists_cons_of_ne_nil filled
  have tail := @carve_append pattern (some c) word rest
  simp only [List.cons_append] at found ⊢
  rw [piecesAfter, Program.hitsAfter, carve.eq_def]
  simp only [found, size, List.head?_cons, Option.join_some, List.length_cons, List.tail_cons, tail,
    List.take_left]
  cases word <;> simp [List.getLast?_cons]

/-- Every claimed text is what a match takes that is preferred where it starts. -/
theorem hitAt_of_mem_carve {inside : Nat} {text word : List Char} {name : Option (List Char)}
    (mem : .hit word name ∈ carve inside text (pattern.program.hitsAfter before text)) :
    ∃ before tail hit, pattern.program.hitAt before tail 0 = some hit ∧
      word = tail.take hit.size := by
  -- The matches were listed position by position, so the induction walks along the text.
  induction text generalizing before inside with
  | nil => simp [carve] at mem
  | cons c text ih =>
    rw [Program.hitsAfter, carve.eq_def] at mem
    cases inside with
    | succ inside => exact ih mem
    | zero =>
      cases found : pattern.program.hitAt before (c :: text) 0 with
      | none =>
        simp only [found, List.head?_cons, Option.join_some, List.tail_cons] at mem
        exact ih (Piece.mem_of_mem_addGap mem)
      | some hit =>
        cases size : hit.size with
        | zero =>
          simp only [found, size, List.head?_cons, Option.join_some, List.tail_cons] at mem
          exact ih (Piece.mem_of_mem_addGap mem)
        | succ length =>
          simp only [found, size, List.head?_cons, Option.join_some, List.tail_cons] at mem
          rcases List.mem_cons.mp mem with same | mem
          · cases same
            exact ⟨before, c :: text, hit, found, by rw [size, List.take_succ_cons]⟩
          · exact ih mem

/-- A pattern that claims the front of a text finds there the name of the text. -/
theorem nameIn?_of_pieces {text word : List Char} {name : Option (List Char)} {rest : List Piece}
    (cut : pattern.pieces text = .hit word name :: rest) : pattern.nameIn? text = name := by
  -- A character in front of pieces belongs to a gap, so the match starts at the first character.
  have gap (c : Char) (pieces : List Piece) : Piece.addGap c pieces ≠ .hit word name :: rest := by
    unfold Piece.addGap
    split <;> simp
  cases text with
  | nil => cases cut
  | cons c text =>
    rw [pieces, Program.hits_eq, Program.hitsAfter, carve.eq_def] at cut
    rw [nameIn?, Program.hits_eq, Program.hitsAfter]
    cases found : pattern.program.hitAt none (c :: text) 0 with
    | none =>
      simp only [found, List.head?_cons, Option.join_some] at cut
      exact absurd cut (gap _ _)
    | some hit =>
      cases size : hit.size with
      | zero =>
        simp only [found, size, List.head?_cons, Option.join_some] at cut
        exact absurd cut (gap _ _)
      | succ length =>
        simp only [found, size, List.head?_cons, Option.join_some, List.cons.injEq,
          Piece.hit.injEq] at cut
        -- The name was read off the same match.
        exact cut.1.2

/-- A word that the pattern takes as a whole, whatever stands around it. -/
def Claims (pattern : Pattern) (word : List Char) : Prop :=
  word ≠ [] ∧ ∀ before rest, ∃ hit, pattern.program.hitAt before (word ++ rest) 0 = some hit ∧
    hit.size = word.length

/-- A word in which no match of the pattern starts, whatever stands around it. -/
def Misses (pattern : Pattern) (word : List Char) : Prop :=
  ∀ before tail rest, tail <:+ word → tail ≠ [] →
    pattern.program.hitAt before (tail ++ rest) 0 = none

/-- A word in which no match starts joins the gap in front of what follows it. -/
theorem piecesAfter_misses {word : List Char} (misses : pattern.Misses word)
    (rest : List Char) :
    pattern.piecesAfter before (word ++ rest) =
      word.foldr Piece.addGap (pattern.piecesAfter (word.getLast?.or before) rest) := by
  -- No match starts at the first character, nor in what is left of the word behind it.
  induction word generalizing before with
  | nil => simp
  | cons c word ih =>
    have here := misses before (c :: word) rest (List.suffix_refl _) (by simp)
    have later : pattern.Misses word := fun before tail rest suffix =>
      misses before tail rest (suffix.trans (List.suffix_cons c word))
    rw [List.cons_append] at here ⊢
    rw [piecesAfter_gap (by simp [here]), ih later]
    cases word <;> simp [List.getLast?_cons]

end Pattern

end TagTemplate
