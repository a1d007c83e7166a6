import TagTemplate.Pattern.Reader
import TagTemplate.Pattern.Search

/-! Patterns: regular expressions with their written form, and what they claim in a text. -/

namespace TagTemplate

/-- A regular expression as written and as run. -/
structure Pattern where
  source : String
  regex : Regex
  program : Program
  program_eq : program = regex.program

namespace Pattern

/-- The pattern of an expression whose written form is known. -/
def ofRegex (source : String) (regex : Regex) : Pattern :=
  ⟨source, regex, regex.program, rfl⟩

/-- Reads a pattern from its written form. -/
def compile (source : String) : Except PatternError Pattern :=
  (Regex.ofText source.toList).map (ofRegex source)

/-- Whether the pattern names a part of its matches. -/
def hasName (pattern : Pattern) : Bool :=
  pattern.regex.hasName

end Pattern

/-- A stretch of text, claimed by a match or not. -/
inductive Piece where
  /-- Text that no match claims. -/
  | gap (text : List Char)
  /-- The text of a match, and its naming part if that took part in the match. -/
  | hit (text : List Char) (name : Option (List Char))
  deriving DecidableEq

namespace Piece

/-- The text of a piece. -/
def text : Piece → List Char
  | gap text => text
  | hit text _ => text

/-- The pieces with one more unclaimed character in front. -/
def addGap (c : Char) : List Piece → List Piece
  | gap text :: pieces => gap (c :: text) :: pieces
  | pieces => gap [c] :: pieces

/-- A character put in front comes first in the text of all pieces. -/
@[simp] theorem flatMap_text_addGap (c : Char) (pieces : List Piece) :
    (addGap c pieces).flatMap text = c :: pieces.flatMap text := by
  -- The character joins a gap in front, or makes one.
  cases pieces with
  | nil => simp [addGap, text]
  | cons piece rest => cases piece <;> simp [addGap, text]

/-- A character put in front leaves no piece empty. -/
theorem text_ne_nil_of_mem_addGap {c : Char} {pieces : List Piece} {piece : Piece}
    (filled : ∀ piece ∈ pieces, piece.text ≠ []) (mem : piece ∈ addGap c pieces) :
    piece.text ≠ [] := by
  -- The only piece that changes has the new character.
  cases pieces with
  | nil => simp_all [addGap, text]
  | cons first rest => cases first <;> simp_all [addGap, text] <;> grind [text]

end Piece

/-- Cuts a text into pieces, given the preferred match from each position. A match that takes
nothing claims nothing; after any other, the next may start where it ended. The first `inside`
characters belong to a match that was cut out before. -/
def carve (inside : Nat) : List Char → List (Option Hit) → List Piece
  | [], _ => []
  | c :: text, hits =>
    match inside, hits.head?.join with
    -- The character was cut out together with the start of its match.
    | inside + 1, _ => carve inside text hits.tail
    | 0, none => Piece.addGap c (carve 0 text hits.tail)
    | 0, some hit =>
      match hit.size with
      -- A match that takes nothing leaves the character to the gap.
      | 0 => Piece.addGap c (carve 0 text hits.tail)
      | size + 1 =>
        .hit (c :: text.take size) (hit.nameIn (c :: text)) :: carve size text hits.tail

/-- Nothing is lost: the pieces hold all text after what was cut out before. -/
theorem flatMap_text_carve (inside : Nat) (text : List Char) (hits : List (Option Hit)) :
    (carve inside text hits).flatMap Piece.text = text.drop inside := by
  -- The induction follows the cuts; a match takes its first character along.
  fun_induction carve inside text hits <;> simp_all [Piece.text]

/-- No piece is empty: a match that takes nothing is passed over. -/
theorem text_ne_nil_of_mem_carve {inside : Nat} {text : List Char} {hits : List (Option Hit)} :
    ∀ piece ∈ carve inside text hits, piece.text ≠ [] := by
  fun_induction carve inside text hits with
  | case1 => simp
  | case2 _ _ _ _ ih => exact ih
  | case3 _ _ _ _ ih => exact fun _ => Piece.text_ne_nil_of_mem_addGap ih
  | case4 _ _ _ _ _ _ ih => exact fun _ => Piece.text_ne_nil_of_mem_addGap ih
  | case5 _ _ _ _ _ _ _ ih =>
    -- A match of some size holds at least its first character.
    simp only [List.forall_mem_cons]
    exact ⟨by simp [Piece.text], ih⟩

/-- The name that a match gives to the text it is found in; `hits` holds the preferred match from
each position, and the first match found counts. -/
def firstName : List Char → List (Option Hit) → Option (List Char)
  | _, [] => none
  | text, some hit :: _ => hit.nameIn text
  | text, none :: hits => firstName text.tail hits

namespace Pattern

/-- A text cut into what the pattern claims, from left to right, and what it leaves. -/
def pieces (pattern : Pattern) (text : List Char) : List Piece :=
  carve 0 text (pattern.program.hits text)

/-- The pieces of a text hold all of it. -/
theorem flatMap_text_pieces (pattern : Pattern) (text : List Char) :
    (pattern.pieces text).flatMap Piece.text = text := by
  simp [pieces, flatMap_text_carve]

/-- The naming part of the first match in a text, if there is a match and the part belongs to it. -/
def nameIn? (pattern : Pattern) (text : List Char) : Option (List Char) :=
  firstName text (pattern.program.hits text)

end Pattern

end TagTemplate
