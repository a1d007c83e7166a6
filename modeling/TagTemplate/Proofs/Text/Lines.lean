import Mathlib.Algebra.Ring.Nat
import TagTemplate.Proofs.Text.Slice

/-! Lines of a text, and the places that are counted in them. -/

namespace TagTemplate.Text

/-- The lines of a text, without the newlines between them. -/
def lines (text : List Char) : List (List Char) :=
  text.splitOn '\n'

/-- Lines that are over, each with the newline that ends it. -/
def ended (lines : List (List Char)) : List Char :=
  lines.flatMap (· ++ ['\n'])

/-- Every text is some lines that are over and the start of one more. -/
theorem exists_ended (text : List Char) :
    ∃ above last, text = ended above ++ last ∧ (∀ line ∈ above, '\n' ∉ line) ∧ '\n' ∉ last := by
  -- The text is read from its end, so each character is put in front of the lines behind it.
  induction text with
  | nil => exact ⟨[], [], rfl, by simp, by simp⟩
  | cons c text ih =>
    obtain ⟨above, last, rfl, clear, unended⟩ := ih
    by_cases newline : c = '\n'
    · -- The newline ends an empty line in front of the others.
      exact ⟨[] :: above, last, by simp [ended, newline], by simpa using clear, unended⟩
    · -- Any other character belongs to the first line, be it over or not.
      cases above with
      | nil => exact ⟨[], c :: last, rfl, by simp, by simp [Ne.symm newline, unended]⟩
      | cons first rest =>
        refine ⟨(c :: first) :: rest, last, by simp [ended], ?_, unended⟩
        simpa [Ne.symm newline] using clear

/-- The lines of a text are those that are over and those of what follows. -/
theorem lines_ended {above : List (List Char)} (clear : ∀ line ∈ above, '\n' ∉ line)
    (text : List Char) : lines (ended above ++ text) = above ++ lines text := by
  -- Each line without newlines of its own is split off at the newline that ends it.
  induction above with
  | nil => rfl
  | cons line rest ih =>
    obtain ⟨first, others⟩ := List.forall_mem_cons.mp clear
    rw [ended, List.flatMap_cons, List.append_assoc, List.append_assoc, List.singleton_append,
      lines, List.splitOn_append_cons_self_of_not_mem first]
    exact congrArg (line :: ·) (ih others)

/-- What follows the start of a line completes it, up to the next newline. -/
theorem exists_lines_append {last : List Char} (unended : '\n' ∉ last) (text : List Char) :
    ∃ rest below, lines (last ++ text) = (last ++ rest) :: below := by
  by_cases newline : '\n' ∈ text
  · -- The first newline ends the line; what stands before it completes what was there.
    obtain ⟨rest, others, rfl, clear⟩ := List.eq_append_cons_of_mem newline
    refine ⟨rest, lines others, ?_⟩
    rw [← List.append_assoc]
    exact List.splitOn_append_cons_self_of_not_mem (by simp [unended, clear]) others
  · -- Without a newline there is one line only.
    exact ⟨text, [], List.splitOn_eq_singleton (by simp [unended, newline])⟩

/-- The newlines of lines that are over are as many as the lines. -/
theorem count_ended {above : List (List Char)} (clear : ∀ line ∈ above, '\n' ∉ line) :
    (ended above).count '\n' = above.length := by
  -- A line has no newline but the one behind it.
  induction above with
  | nil => rfl
  | cons line rest ih =>
    obtain ⟨first, others⟩ := List.forall_mem_cons.mp clear
    have after := ih others
    rw [ended] at after ⊢
    simp [after, List.count_eq_zero_of_not_mem first]

/-- Lines that are over take as many characters as they have, and one for each newline. -/
theorem length_ended (above : List (List Char)) :
    (ended above).length = (above.map (·.length + 1)).sum := by
  simp [ended, List.length_flatMap]

/-- Behind lines that are over no character of the next line has been met. -/
theorem takeWhile_reverse_ended (above : List (List Char)) :
    (ended above).reverse.takeWhile (· != '\n') = [] := by
  -- Read backwards, the last line begins with its newline.
  rcases List.eq_nil_or_concat above with rfl | ⟨front, line, rfl⟩
  · rfl
  · simp [ended]

/-- The place after some lines that are over and the start of one more is on that line, behind what
there is of it. -/
theorem placeAfter_ended {above : List (List Char)} {last : List Char}
    (clear : ∀ line ∈ above, '\n' ∉ line) (unended : '\n' ∉ last) :
    placeAfter (ended above ++ last) = ⟨above.length + 1, last.length + 1⟩ := by
  -- The characters behind the last newline are those of the line that goes on.
  have within : ∀ c ∈ last.reverse, (c != '\n') = true := by
    intro c mem
    have other : c ≠ '\n' := fun same => unended (same ▸ List.mem_reverse.mp mem)
    simp [other]
  rw [placeAfter, List.count_append, count_ended clear, List.count_eq_zero_of_not_mem unended,
    List.reverse_append, List.takeWhile_append_of_pos within, takeWhile_reverse_ended]
  simp

/-- Whether a place of a text lies at a byte position: from the start of its line as many characters
lead there as the column says, all of them on that line. -/
structure Place.LiesAt (place : Place) (text : List Char) (position : Nat) : Prop where
  line : 1 ≤ place.line
  column : 1 ≤ place.column
  arrives : ∃ line, (lines text)[place.line - 1]? = some line ∧ place.column - 1 ≤ line.length ∧
    bytes (ended ((lines text).take (place.line - 1)) ++ line.take (place.column - 1)) = position

/-- Whether a place comes before another one: on an earlier line, or on the same line in an earlier
column. -/
def Place.Before (one other : Place) : Prop :=
  one.line < other.line ∨ one.line = other.line ∧ one.column < other.column

/-- No place comes before itself. -/
theorem Place.not_before_self (place : Place) : ¬ place.Before place := by
  simp [Before]

/-- The place after the front of a text lies where the front ends. -/
theorem liesAt_placeAfter (front back : List Char) :
    (placeAfter front).LiesAt (front ++ back) (bytes front) := by
  -- The lines that are over in front stay as they are, and the line that goes on is completed by
  -- what is behind.
  obtain ⟨above, last, rfl, clear, unended⟩ := exists_ended front
  obtain ⟨rest, below, split⟩ := exists_lines_append unended back
  rw [placeAfter_ended clear unended, List.append_assoc]
  have all := lines_ended clear (last ++ back)
  rw [split] at all
  refine ⟨by simp, by simp, last ++ rest, ?_, by simp, ?_⟩
  · rw [all]
    simp
  · rw [all]
    simp

/-- In front of a place there are the characters of the lines above, their newlines, and the
characters in front of the column. -/
theorem length_eq_placeAfter (front back : List Char) :
    front.length =
      (((lines (front ++ back)).take ((placeAfter front).line - 1)).map (·.length + 1)).sum +
        ((placeAfter front).column - 1) := by
  -- The place says how many lines are over and how far the next one has gone.
  obtain ⟨above, last, rfl, clear, unended⟩ := exists_ended front
  rw [placeAfter_ended clear unended, List.append_assoc, lines_ended clear]
  simp [length_ended]

/-- A longer front of a text ends at a later place. -/
theorem before_placeAfter_append (front : List Char) {more : List Char} (filled : more ≠ []) :
    (placeAfter front).Before (placeAfter (front ++ more)) := by
  by_cases newline : '\n' ∈ more
  · -- Each newline begins a line.
    left
    have begun := List.count_pos_iff.mpr newline
    simp only [placeAfter, List.count_append]
    omega
  · -- The last line goes on, so that only the column grows.
    right
    obtain ⟨above, last, rfl, clear, unended⟩ := exists_ended front
    have grows := List.length_pos_iff.mpr filled
    rw [placeAfter_ended clear unended, List.append_assoc,
      placeAfter_ended clear (by simp [unended, newline]), List.length_append]
    exact ⟨rfl, by dsimp only; omega⟩

/-- The last line of a text is what stands behind a newline and holds none. -/
theorem getLast?_lines (text : List Char) {last : List Char} (clear : '\n' ∉ last) :
    (lines (text ++ '\n' :: last)).getLast? = some last := by
  -- No newline follows, so the last part of the split is this line.
  rw [lines, List.splitOn_append_cons_self, List.splitOn_eq_singleton clear]
  exact List.getLast?_concat

end TagTemplate.Text
