import TagTemplate.Proofs.Pattern.Locality
import TagTemplate.Proofs.Pattern.Pieces

/-! How patterns without conditions on positions cut a text, what becomes of the pieces when each of
them is cut again, and what of the pieces of two texts that are joined. -/

namespace TagTemplate

/-- How a program cuts a text from left to right. -/
inductive Cut (program : Program) : List Char → List Piece → Prop where
  /-- No text makes no pieces. -/
  | nil : Cut program [] []
  /-- A character at which no match takes anything is left. -/
  | gap {c : Char} {text : List Char} {pieces : List Piece}
    (missed : ∀ hit ∈ program.hitAt none (c :: text) 0, hit.size = 0)
    (rest : Cut program text pieces) : Cut program (c :: text) (Piece.addGap c pieces)
  /-- What the preferred match takes is claimed. -/
  | hit {word text : List Char} {hit : Hit} {pieces : List Piece} (filled : word ≠ [])
    (found : program.hitAt none (word ++ text) 0 = some hit) (size : hit.size = word.length)
    (rest : Cut program text pieces) :
    Cut program (word ++ text) (.hit word (hit.nameIn word) :: pieces)

/-- Every text can be cut. -/
theorem exists_cut (program : Program) (text : List Char) : ∃ pieces, Cut program text pieces := by
  -- What is left behind a match may be much shorter, so the induction is on the length.
  induction size : text.length using Nat.strong_induction_on generalizing text with
  | _ length ih =>
    subst size
    cases text with
    | nil => exact ⟨[], .nil⟩
    | cons c text =>
      by_cases missed : ∀ hit ∈ program.hitAt none (c :: text) 0, hit.size = 0
      · obtain ⟨pieces, cut⟩ := ih text.length (by simp) text rfl
        exact ⟨_, cut.gap missed⟩
      · -- The match takes what stands in front of the rest of the text.
        push Not at missed
        obtain ⟨hit, found, filled⟩ := missed
        have size := (Program.within_of_hitAt found).size
        have split := List.take_append_drop hit.size (c :: text)
        obtain ⟨pieces, cut⟩ := ih ((c :: text).drop hit.size).length (by simp; omega) _ rfl
        have taken : (c :: text).take hit.size ≠ [] := by simpa using filled
        have claimed := cut.hit taken (split.symm ▸ found) (List.length_take_of_le size).symm
        exact ⟨_, split ▸ claimed⟩

namespace Pattern

variable {pattern : Pattern} (unconditional : pattern.program.Unconditional)

include unconditional

/-- Without conditions a text is cut alike whatever stands before it. -/
theorem piecesAfter_eq_pieces (before : Option Char) (text : List Char) :
    pattern.piecesAfter before text = pattern.pieces text := by
  rw [pieces_eq, piecesAfter, piecesAfter]
  -- Only the match at the first character could tell what is before it.
  cases text with
  | nil => rfl
  | cons c text => rw [Program.hitsAfter, Program.hitsAfter, unconditional.hitAt_eq before none]

/-- The pieces of a text are what is cut from it. -/
theorem pieces_of_cut {text : List Char} {pieces : List Piece}
    (cut : Cut pattern.program text pieces) : pattern.pieces text = pieces := by
  induction cut with
  | nil => rfl
  | gap missed rest ih =>
    rw [pieces_eq, piecesAfter_gap missed, piecesAfter_eq_pieces unconditional, ih]
  | @hit word text hit pieces filled found size rest ih =>
    -- The naming part of the match is found in the claimed text alone.
    have within : hit.Within word.length := ⟨size.le, (Program.within_of_hitAt found).naming⟩
    rw [pieces_eq, piecesAfter_hit filled found size, piecesAfter_eq_pieces unconditional, ih,
      within.nameIn_append]

/-- A text is cut into its pieces. -/
theorem cut_pieces (text : List Char) : Cut pattern.program text (pattern.pieces text) := by
  obtain ⟨pieces, cut⟩ := exists_cut pattern.program text
  exact pieces_of_cut unconditional cut ▸ cut

end Pattern

/-- Whether a pattern cuts a piece of a text as it was cut: in a gap it claims nothing, whatever is
cut off from the gap, and the text of a match it claims as a whole. -/
def Pattern.Repeats (pattern : Pattern) : Piece → Prop
  | .gap text => ∀ part, part <:+: text → part ≠ [] → pattern.pieces part = [.gap part]
  | .hit text name => pattern.pieces text = [.hit text name]

namespace Pattern

variable {pattern : Pattern} (unconditional : pattern.program.Unconditional)

/-- In a gap of no text there is nothing to cut off. -/
theorem repeats_empty : pattern.Repeats (.gap []) :=
  fun _ inside filled => absurd (List.infix_nil.mp inside) filled

include unconditional

/-- A character at which no match takes anything makes a gap in front of the text longer. -/
theorem Repeats.cons {c : Char} {gap text : List Char}
    (missed : ∀ hit ∈ pattern.program.hitAt none (c :: text) 0, hit.size = 0)
    (front : gap <+: text) (repeats : pattern.Repeats (.gap gap)) :
    pattern.Repeats (.gap (c :: gap)) := by
  intro part inside filled
  rcases List.infix_cons_iff.mp inside with first | inside
  · -- A part that starts with the character misses there what the whole text misses.
    obtain ⟨d, part, rfl⟩ := List.exists_cons_of_ne_nil filled
    obtain ⟨rfl, short⟩ := List.cons_prefix_cons.mp first
    obtain ⟨rest, rfl⟩ := short.trans front
    have kept := unconditional.kept none none (d :: part) rest 0
      fun hit found => (missed hit found).le.trans (Nat.zero_le _)
    have cut := (cut_pieces unconditional part).gap (kept ▸ missed)
    rw [pieces_of_cut unconditional cut]
    by_cases last : part = []
    · subst last
      rfl
    · rw [repeats part short.isInfix last, Piece.addGap]
  · exact repeats part inside filled

/-- Every piece that is cut from a text is cut again as it stands. -/
theorem repeats_of_mem_pieces {text : List Char} {piece : Piece}
    (mem : piece ∈ pattern.pieces text) : pattern.Repeats piece := by
  have cut := cut_pieces unconditional text
  have whole := pattern.flatMap_text_pieces text
  generalize pattern.pieces text = pieces at cut whole mem
  -- The pieces are those of the text behind each character or match, so the text varies with them.
  induction cut generalizing piece with
  | nil => cases mem
  | @gap c text pieces missed rest ih =>
    simp only [Piece.flatMap_text_addGap, List.cons.injEq, true_and] at whole
    -- The character joins the gap in front, or is one of its own.
    have single := Repeats.cons unconditional missed (List.nil_prefix) repeats_empty
    cases pieces with
    | nil =>
      obtain rfl := List.mem_singleton.mp mem
      exact single
    | cons first others =>
      cases first with
      | gap gap =>
        rcases List.mem_cons.mp mem with rfl | mem
        · have front : gap <+: text := ⟨_, whole⟩
          exact (ih whole List.mem_cons_self).cons unconditional missed front
        · exact ih whole (List.mem_cons_of_mem _ mem)
      | hit word name =>
        rcases List.mem_cons.mp mem with rfl | mem
        · exact single
        · exact ih whole mem
  | @hit word text hit pieces filled found size rest ih =>
    simp only [List.flatMap_cons, Piece.text_hit, List.append_cancel_left_eq] at whole
    rcases List.mem_cons.mp mem with rfl | mem
    · -- The match fits into the text that it claims, behind which nothing is left.
      have kept := unconditional.kept none none word text 0 (by simp [found, size])
      have cut := Cut.nil.hit filled (by rw [List.append_nil, kept, found]) size
      rw [List.append_nil] at cut
      exact pieces_of_cut unconditional cut
    · exact ih whole mem

/-- Without conditions on positions, what a match names in a text is named again when the text of
the match is searched alone. -/
theorem nameIn?_of_mem_pieces {text word : List Char} {name : Option (List Char)}
    (mem : .hit word name ∈ pattern.pieces text) : pattern.nameIn? word = name :=
  -- The text of the match is one match again, and the name is read off that.
  nameIn?_of_pieces (repeats_of_mem_pieces unconditional mem)

end Pattern

/-- The pieces with one more in front; a gap joins the gap that it meets. -/
def Piece.put : Piece → List Piece → List Piece
  | .gap text, pieces => text.foldr addGap pieces
  | .hit text name, pieces => .hit text name :: pieces

/-- A character in front of pieces is in front of whatever they are put before. -/
theorem Piece.foldr_put_addGap (c : Char) (pieces back : List Piece) :
    (addGap c pieces).foldr put back = addGap c (pieces.foldr put back) := by
  -- The character joins a gap in front, or makes one.
  cases pieces with
  | nil => rfl
  | cons piece rest => cases piece <;> rfl

/-- Whether no match of a pattern reaches from one text into another one behind it. -/
def Pattern.Apart (pattern : Pattern) (left right : List Char) : Prop :=
  ∀ tail, tail <:+ left → tail ≠ [] →
    ∀ hit ∈ pattern.program.hitAt none (tail ++ right) 0, hit.size ≤ tail.length

namespace Pattern

variable {pattern : Pattern} (unconditional : pattern.program.Unconditional)

include unconditional

/-- Texts that no match reaches across are cut apart when they are joined; only the gaps at the seam
become one. -/
theorem pieces_append {left right : List Char} (apart : pattern.Apart left right) :
    pattern.pieces (left ++ right) =
      (pattern.pieces left).foldr Piece.put (pattern.pieces right) := by
  have cut := cut_pieces unconditional left
  generalize pattern.pieces left = pieces at cut
  refine pieces_of_cut unconditional ?_
  -- Each match in the left text fits into that text, so the whole text has the same one.
  induction cut with
  | nil => exact cut_pieces unconditional right
  | @gap c text pieces missed rest ih =>
    have kept := unconditional.kept none none (c :: text) right 0
      (apart _ (List.suffix_refl _) (by simp))
    have later := ih fun tail suffix => apart tail (suffix.trans (List.suffix_cons c text))
    rw [Piece.foldr_put_addGap]
    exact later.gap (kept ▸ missed)
  | @hit word text hit pieces filled found size rest ih =>
    have kept := unconditional.kept none none (word ++ text) right 0
      (apart _ (List.suffix_refl _) (by simp [filled]))
    have later := ih fun tail suffix => apart tail (suffix.trans (List.suffix_append word text))
    rw [List.append_assoc] at kept ⊢
    exact later.hit filled (kept ▸ found) size

end Pattern

end TagTemplate
