import TagTemplate.Proofs.Text.Lines
import TagTemplate.Proofs.Tree.Faults

/-! Where errors point to: line and column, the line of dashes and the byte position of an error
tell of the same place in its template. -/

namespace TagTemplate

namespace SyntaxError

variable {error : SyntaxError}

/-- An error between two characters has the text in front of it. -/
theorem exists_before (between : Text.Boundary error.template error.position) :
    ∃ front back, error.template.toList = front ++ back ∧ Text.bytes front = error.position ∧
      error.before? = some front := by
  -- A boundary splits the template, and its first part has as many bytes as the position says.
  obtain ⟨front, back, same, size⟩ := Text.boundary_iff.mp between
  have split : error.template.toList = front.toList ++ back.toList := by
    rw [same, String.toList_append]
  have bytes : Text.bytes front.toList = error.position := by
    rw [Text.bytes, String.ofList_toList, size]
  refine ⟨front.toList, back.toList, split, bytes, ?_⟩
  rw [before?, split, ← bytes]
  exact Text.takeBytes?_append front.toList back.toList

/-- The place of an error is the one after the text in front of it. -/
theorem place_of_before? {front : List Char} (found : error.before? = some front) :
    error.place = Text.placeAfter front := by
  -- The whole template is only taken where there is no text in front.
  rw [place, found, Option.getD_some]

/-- The dashes are as many as the characters in front of the error. -/
theorem width_of_before? {front : List Char} (found : error.before? = some front) :
    error.width = front.length := by
  -- The byte position is only taken where there is no text in front.
  rw [width, found, Option.map_some, Option.getD_some]

/-- The last line of a message holds the dashes and the mark behind them. -/
theorem getLast?_lines_message (error : SyntaxError) :
    (Text.lines error.message.toList).getLast? =
      some (List.replicate error.width '-' ++ ['^']) := by
  -- The message ends with a newline and the dashes, which hold none.
  have clear : '\n' ∉ List.replicate error.width '-' ++ ['^'] := by simp [List.mem_replicate]
  have written : error.message.toList =
      (error.fault.reason ++ "\n" ++ error.template).toList ++
        '\n' :: (List.replicate error.width '-' ++ ['^']) := by
    simp [message, String.toList_append]
  rw [written]
  exact Text.getLast?_lines _ clear

/-- Of two errors in one template the one at the smaller position has the earlier place. -/
theorem before_of_lt {one other : SyntaxError} (same : one.template = other.template)
    (oneBetween : Text.Boundary one.template one.position)
    (otherBetween : Text.Boundary other.template other.position)
    (less : one.position < other.position) : one.place.Before other.place := by
  -- Both texts in front are fronts of the one template.
  obtain ⟨front, back, split, size, found⟩ := exists_before oneBetween
  obtain ⟨longer, rest, otherSplit, otherSize, otherFound⟩ := exists_before otherBetween
  rw [place_of_before? found, place_of_before? otherFound]
  rw [same, otherSplit] at split
  -- One of the two fronts continues the other, and the sizes tell which.
  rcases List.append_eq_append_iff.mp split with ⟨more, rfl, _⟩ | ⟨more, rfl, _⟩
  · rw [Text.bytes_append] at size
    omega
  · refine Text.before_placeAfter_append front fun none => ?_
    rw [none, List.append_nil] at otherSize
    omega

end SyntaxError

/-- Every error of a template lies between two characters of it. -/
theorem Tree.boundary_of_parse {α : Type} {config : Config α} {template : String}
    {error : SyntaxError} (refused : Tree.parse template config = .error error) :
    error.template = template ∧ Text.Boundary error.template error.position := by
  -- What the error marks starts between two characters.
  obtain ⟨site, faulty, rfl⟩ := Tree.faulty_of_ofTokens refused
  exact ⟨site.template_error template, (Tree.marks_error faulty).start⟩

namespace SyntaxError

/-- The line and column of an error between two characters lead to its position, and the dashes
below the template are the characters of the lines above, one for each newline, and those in front
of the column. In one template, errors at different positions have different places, and those at
greater positions later ones. Every error that a template is refused with is one between two
characters of it, so that the end of the template and the number of bytes never stand in for its
place. -/
theorem place_exact {α : Type} (config : Config α) :
    (∀ error : SyntaxError, Text.Boundary error.template error.position →
      error.place.LiesAt error.template.toList error.position ∧
        (Text.lines error.message.toList).getLast? = some
          (List.replicate
            ((((Text.lines error.template.toList).take (error.place.line - 1)).map
              (·.length + 1)).sum + (error.place.column - 1)) '-' ++ ['^'])) ∧
    (∀ one other : SyntaxError, one.template = other.template →
      Text.Boundary one.template one.position → Text.Boundary other.template other.position →
        (one.place = other.place → one.position = other.position) ∧
          (one.position < other.position → one.place.Before other.place)) ∧
    ∀ template error, Tree.parse template config = .error error →
      error.template = template ∧ Text.Boundary template error.position ∧
        ∃ front, error.before? = some front ∧ error.place = Text.placeAfter front ∧
          error.width = front.length := by
  refine ⟨fun error between => ?_, fun one other same oneBetween otherBetween => ⟨?_, ?_⟩,
    fun template error refused => ?_⟩
  · -- All three are told by the text in front of the error.
    obtain ⟨front, back, split, size, found⟩ := exists_before between
    rw [getLast?_lines_message, width_of_before? found, place_of_before? found, split, ← size,
      ← Text.length_eq_placeAfter front back]
    exact ⟨Text.liesAt_placeAfter front back, rfl⟩
  · intro together
    -- Otherwise one of the two places would come before itself.
    by_contra apart
    rcases Nat.lt_or_gt_of_ne apart with less | greater
    · have before := before_of_lt same oneBetween otherBetween less
      exact other.place.not_before_self (together ▸ before)
    · have before := before_of_lt same.symm otherBetween oneBetween greater
      exact other.place.not_before_self (together ▸ before)
  · exact before_of_lt same oneBetween otherBetween
  · -- The text in front is there, so neither of the two defaults is taken.
    obtain ⟨rfl, between⟩ := Tree.boundary_of_parse refused
    obtain ⟨front, _, _, _, found⟩ := exists_before between
    exact ⟨rfl, between, front, found, place_of_before? found, width_of_before? found⟩

/-- A closing tag that closes nothing, behind two characters on the third line. -/
def stray : SyntaxError :=
  ⟨.unmatchedClosing, "é\n\nxß</b>", 7, 4⟩

/-- The tag is reached behind one line of a character of two bytes, an empty line, and two
characters. -/
theorem place_exact_stray :
    Tree.parse "é\n\nxß</b>" (Config.plain fun text _ => text) = .error stray ∧
      Text.Boundary stray.template stray.position ∧ stray.place = ⟨3, 3⟩ ∧
      stray.place.LiesAt stray.template.toList 7 ∧
      (Text.lines stray.message.toList).getLast? = some (List.replicate 5 '-' ++ ['^']) := by
  -- The error is the one that the template is refused with, so it lies between two characters.
  have refused : Tree.parse "é\n\nxß</b>" (Config.plain fun text _ => text) = .error stray := rfl
  have between := ((place_exact (Config.plain fun text _ => text)).2.2 _ stray refused).2.1
  have located := (place_exact (Config.plain fun text _ => text)).1 stray between
  have place : stray.place = ⟨3, 3⟩ := by decide
  have lines : Text.lines stray.template.toList = [['é'], [], ['x', 'ß', '<', '/', 'b', '>']] := by
    decide
  refine ⟨refused, between, place, located.1, ?_⟩
  rw [located.2, place, lines]
  rfl

end SyntaxError

end TagTemplate
