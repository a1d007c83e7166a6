import TagTemplate.Token

/-! Cutting a template into tokens. The first category claims what its pattern matches, and what it
leaves goes to the next one, each stretch as a text of its own. -/

namespace TagTemplate

/-- The kinds and texts of the tokens of a text. -/
def classify : List Category → List Char → List (TokenKind × List Char)
  | [], text => if text.isEmpty then [] else [(.text, text)]
  | category :: rest, text =>
    -- What this category claims is settled; only the gaps go on to the others.
    (category.pattern.pieces text).flatMap fun
      | .gap text => classify rest text
      | .hit text _ => [(category.kind, text)]

/-- Nothing is lost: the classified texts hold all of the text. -/
theorem flatMap_snd_classify (categories : List Category) (text : List Char) :
    (classify categories text).flatMap Prod.snd = text := by
  induction categories generalizing text with
  | nil => cases text <;> simp [classify]
  | cons category rest ih =>
    -- Each piece keeps its text, be it claimed here or handed on.
    simp only [classify, List.flatMap_assoc]
    conv => rhs; rw [← category.pattern.flatMap_text_pieces text]
    congr 1
    funext piece
    cases piece <;> simp [ih, Piece.text]

/-- No classified text is empty. -/
theorem snd_ne_nil_of_mem_classify {categories : List Category} {text : List Char}
    {entry : TokenKind × List Char} (mem : entry ∈ classify categories text) :
    entry.2 ≠ [] := by
  -- A match is not empty, and neither is a gap, so what is left at the end is not either.
  induction categories generalizing text with
  | nil => cases text <;> simp_all [classify]
  | cons category rest ih =>
    simp only [classify, List.mem_flatMap] at mem
    obtain ⟨piece, held, mem⟩ := mem
    have filled := text_ne_nil_of_mem_carve piece held
    cases piece with
    | gap text => exact ih mem
    | hit text name => simp_all [Piece.text]

/-- The tokens of consecutive texts, the first one at `position`. -/
def place (position : Nat) : List (TokenKind × List Char) → List Token
  | [] => []
  | (kind, text) :: rest =>
    -- The texts follow each other without a break, so each token starts where the last one stops.
    let token : Token := ⟨kind, String.ofList text, position⟩
    token :: place token.stop rest

/-- The tokens hold the texts that were placed, with their kinds. -/
theorem map_place (position : Nat) (texts : List (TokenKind × List Char)) :
    (place position texts).map (fun token => (token.kind, token.raw.toList)) = texts := by
  -- Only the positions are new, and they are dropped again.
  induction texts generalizing position with
  | nil => rfl
  | cons entry rest ih => simp [place, ih]

/-- The tokens of a template, in order. Whatever no category claims is literal text. -/
def tokenize (categories : List Category) (template : String) : List Token :=
  place 0 (classify categories template.toList)

end TagTemplate
