import Mathlib.Data.List.Chain
import TagTemplate.Proofs.Pattern.Pieces
import TagTemplate.Token.Lexer

/-! What the categories of a table claim, and which texts they cut as intended. -/

namespace TagTemplate

/-- The empty text is classified as nothing. -/
@[simp] theorem classify_nil (categories : List Category) : classify categories [] = [] := by
  cases categories <;> rfl

/-- The entries of a piece: a match is claimed, and a gap goes on to the rest of the table. -/
def Piece.entries (kind : TokenKind) (rest : List Category) : Piece → List (TokenKind × List Char)
  | .gap text => classify rest text
  | .hit text _ => [(kind, text)]

/-- A category turns each piece of a text into its entries. -/
theorem classify_cons (category : Category) (rest : List Category) (text : List Char) :
    classify (category :: rest) text =
      (category.pattern.pieces text).flatMap (Piece.entries category.kind rest) :=
  rfl

/-- An entry that is not literal text was claimed by a category of its kind, with a match that is
preferred where it starts. -/
theorem hitAt_of_mem_classify {categories : List Category} {text : List Char}
    {entry : TokenKind × List Char} (mem : entry ∈ classify categories text) :
    entry.1 = .text ∨ ∃ category ∈ categories, entry.1 = category.kind ∧
      ∃ before tail hit, category.pattern.program.hitAt before tail 0 = some hit ∧
        entry.2 = tail.take hit.size := by
  -- Each category cuts what the ones before it left, so the text varies along the table.
  induction categories generalizing text with
  | nil => cases text <;> simp_all [classify]
  | cons category rest ih =>
    rw [classify_cons, List.mem_flatMap] at mem
    obtain ⟨piece, held, mem⟩ := mem
    cases piece with
    | gap text =>
      -- What the first category leaves is claimed by a later one, if at all.
      rcases ih mem with literal | ⟨other, listed, found⟩
      · exact Or.inl literal
      · exact Or.inr ⟨other, List.mem_cons_of_mem _ listed, found⟩
    | hit text name =>
      obtain rfl := List.mem_singleton.mp mem
      rw [Pattern.pieces_eq] at held
      exact Or.inr ⟨category, List.mem_cons_self, rfl, Pattern.hitAt_of_mem_carve held⟩

/-- The tokens of a template have entries of the template as their kinds and texts. -/
theorem entry_mem_classify {categories : List Category} {template : String} {token : Token}
    (mem : token ∈ tokenize categories template) :
    (token.kind, token.raw.toList) ∈ classify categories template.toList := by
  rw [← map_place 0 (classify categories template.toList)]
  exact List.mem_map_of_mem mem

/-- Whether a table finds an entry as it stands: some category claims the text as a whole, and none
before that one can start a match in it. -/
def FoundBy : List Category → TokenKind × List Char → Prop
  | [], (kind, text) => kind = .text ∧ text ≠ []
  | category :: rest, (kind, text) =>
    (kind = category.kind ∧ category.pattern.Claims text) ∨
      (category.pattern.Misses text ∧ FoundBy rest (kind, text))

/-- Whether no two neighbours among entries are literal text. -/
def Alternating (entries : List (TokenKind × List Char)) : Prop :=
  entries.IsChain fun left right => ¬ (left.1 = .text ∧ right.1 = .text)

/-- An entry that is not literal text can be put in front. -/
theorem Alternating.cons_of_ne {entry : TokenKind × List Char}
    {entries : List (TokenKind × List Char)} (alternating : Alternating entries)
    (different : entry.1 ≠ .text) : Alternating (entry :: entries) :=
  List.isChain_cons.mpr ⟨fun _ _ both => different both.1, alternating⟩

/-- Chains can be joined by an element that may stand next to all others. -/
theorem isChain_append_cons {α : Type} {relation : α → α → Prop} {left right : List α} {middle : α}
    (front : left.IsChain relation) (back : right.IsChain relation)
    (before : ∀ element, relation element middle) (after : ∀ element, relation middle element) :
    (left ++ middle :: right).IsChain relation := by
  -- Only the joining element has new neighbours.
  have behind : (middle :: right).IsChain relation :=
    List.isChain_cons.mpr ⟨fun element _ => after element, back⟩
  refine List.isChain_append.mpr ⟨front, behind, ?_⟩
  rintro element _ _ ⟨_⟩
  exact before element

/-- Entries can be joined by one that is not literal text. -/
theorem Alternating.join {entry : TokenKind × List Char}
    {left right : List (TokenKind × List Char)} (front : Alternating left)
    (back : Alternating right) (different : entry.1 ≠ .text) :
    Alternating (left ++ entry :: right) :=
  isChain_append_cons front back (fun _ both => different both.2) (fun _ both => different both.1)

/-- An entry that a table finds holds some text. -/
theorem FoundBy.filled {categories : List Category} {entry : TokenKind × List Char}
    (found : FoundBy categories entry) : entry.2 ≠ [] := by
  -- Some category claims the text, or it is left at the end of the table.
  induction categories with
  | nil => exact found.2
  | cons category rest ih =>
    rcases found with ⟨_, claims⟩ | ⟨_, found⟩
    · exact claims.1
    · exact ih found

/-- Texts without a start of a match have none when they stand side by side. -/
theorem Pattern.Misses.append {pattern : Pattern} {left right : List Char}
    (missesLeft : pattern.Misses left) (missesRight : pattern.Misses right) :
    pattern.Misses (left ++ right) := by
  -- What stands behind the left text does not matter to it, not even the right text.
  intro before tail rest suffix filled
  obtain ⟨front, same⟩ := suffix
  rcases List.append_eq_append_iff.mp same with ⟨inner, whole, rfl⟩ | ⟨_, _, whole⟩
  · by_cases last : inner = []
    · subst last
      exact missesRight before right rest (List.suffix_refl _) filled
    · rw [List.append_assoc]
      exact missesLeft before inner (right ++ rest) ⟨front, whole.symm⟩ last
  · exact missesRight before tail rest ⟨_, whole.symm⟩ filled

/-- Entries without a start of a match have none in their joined text. -/
theorem Pattern.misses_flatMap {pattern : Pattern} {entries : List (TokenKind × List Char)}
    (misses : ∀ entry ∈ entries, pattern.Misses entry.2) :
    pattern.Misses (entries.flatMap Prod.snd) := by
  -- The texts stand side by side, so they are put together one by one.
  induction entries with
  | nil =>
    intro before tail rest suffix filled
    exact absurd (List.suffix_nil.mp suffix) filled
  | cons entry tail ih =>
    obtain ⟨first, later⟩ := List.forall_mem_cons.mp misses
    exact first.append (ih later)

/-- The joined text of entries becomes a gap, which the rest of the table turns into the entries. -/
theorem flatMap_entries_gap {kind : TokenKind} {rest : List Category}
    {gap : List (TokenKind × List Char)} (cut : classify rest (gap.flatMap Prod.snd) = gap)
    {pieces : List Piece} (separate : ∀ piece ∈ pieces.head?, ¬ piece.IsGap) :
    ((gap.flatMap Prod.snd).foldr Piece.addGap pieces).flatMap (Piece.entries kind rest) =
      gap ++ pieces.flatMap (Piece.entries kind rest) := by
  by_cases empty : gap.flatMap Prod.snd = []
  · -- Without text there is no gap, and the table makes no entries of nothing.
    rw [empty, classify_nil] at cut
    subst cut
    rfl
  · rw [Piece.foldr_addGap empty separate, List.flatMap_cons, Piece.entries, cut]

/-- A pattern cuts the entries of its category out of a text and leaves the others to the rest of
the table. The entries `gap` were passed already and still wait. -/
theorem flatMap_entries_piecesAfter {category : Category} {rest : List Category}
    (others : ∀ entries, (∀ entry ∈ entries, FoundBy rest entry) → Alternating entries →
      classify rest (entries.flatMap Prod.snd) = entries)
    (gap : List (TokenKind × List Char)) {entries : List (TokenKind × List Char)}
    (missed : ∀ entry ∈ gap, category.pattern.Misses entry.2)
    (waits : ∀ entry ∈ gap, FoundBy rest entry)
    (found : ∀ entry ∈ entries, FoundBy (category :: rest) entry)
    (alternating : Alternating (gap ++ entries)) (before : Option Char) :
    (category.pattern.piecesAfter before
        (gap.flatMap Prod.snd ++ entries.flatMap Prod.snd)).flatMap
      (Piece.entries category.kind rest) = gap ++ entries := by
  -- A claimed entry ends the gap before it, and any other one makes the gap longer.
  induction entries generalizing gap before with
  | nil =>
    have cut := others gap waits alternating.left_of_append
    rw [Pattern.piecesAfter_misses (Pattern.misses_flatMap missed), List.flatMap_nil,
      Pattern.piecesAfter_nil, flatMap_entries_gap cut (by simp), List.flatMap_nil]
  | cons entry tail ih =>
    obtain ⟨kind, text⟩ := entry
    obtain ⟨first, later⟩ := List.forall_mem_cons.mp found
    rw [List.flatMap_cons]
    rcases first with ⟨rfl, filled, claims⟩ | ⟨misses, finds⟩
    · -- The claimed text stands between the gap and the pieces of the entries behind it.
      have cut := others gap waits alternating.left_of_append
      have after := ih [] (by simp) (by simp) later alternating.right_of_append.tail
      obtain ⟨hit, preferred, size⟩ :=
        claims ((gap.flatMap Prod.snd).getLast?.or before) (tail.flatMap Prod.snd)
      rw [Pattern.piecesAfter_misses (Pattern.misses_flatMap missed),
        Pattern.piecesAfter_hit filled preferred size,
        flatMap_entries_gap cut (by simp [Piece.IsGap]), List.flatMap_cons, Piece.entries]
      simpa using after _
    · -- The pattern has no match here, so the text joins the gap.
      have longer := ih (gap ++ [(kind, text)])
        (List.forall_mem_append.mpr ⟨missed, by simpa using misses⟩)
        (List.forall_mem_append.mpr ⟨waits, by simpa using finds⟩)
        later (by simpa using alternating) before
      simpa using longer

/-- A table cuts the text of entries that it finds into these entries, as long as no two of them
are literal text side by side. -/
theorem classify_flatMap_snd {categories : List Category}
    {entries : List (TokenKind × List Char)} (found : ∀ entry ∈ entries, FoundBy categories entry)
    (alternating : Alternating entries) :
    classify categories (entries.flatMap Prod.snd) = entries := by
  induction categories generalizing entries with
  | nil =>
    -- All entries are literal text, so there is one at most.
    cases entries with
    | nil => rfl
    | cons first tail =>
      obtain ⟨kind, text⟩ := first
      obtain ⟨⟨rfl, filled⟩, later⟩ := List.forall_mem_cons.mp found
      cases tail with
      | nil => simp [classify, filled]
      | cons second tail =>
        rw [Alternating, List.isChain_cons_cons] at alternating
        exact absurd ⟨rfl, (later second List.mem_cons_self).1⟩ alternating.1
  | cons category rest ih =>
    -- Nothing has been passed at the start of the text.
    rw [classify_cons, Pattern.pieces_eq]
    exact flatMap_entries_piecesAfter (fun _ => ih) [] (by simp) (by simp) found alternating none

end TagTemplate
