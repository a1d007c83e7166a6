import TagTemplate.Proofs.Pattern.Cut
import TagTemplate.Proofs.Token.Plain

/-! Tokens of tables without conditions on positions are cut again as they stand. -/

namespace TagTemplate

/-- Whether no pattern of a table sets a condition on a position. -/
def Unconditional (categories : List Category) : Prop :=
  ∀ category ∈ categories, category.pattern.regex.conditional = false

instance (categories : List Category) : Decidable (Unconditional categories) :=
  inferInstanceAs (Decidable (∀ category ∈ categories, category.pattern.regex.conditional = false))

/-- Whether a table cuts an entry as it stands: some category claims all of its text, or none does,
and those before leave all of it. -/
def Stable : List Category → TokenKind × List Char → Prop
  | [], (kind, text) => kind = .text ∧ text ≠ []
  | category :: rest, (kind, text) =>
    (kind = category.kind ∧ ∃ name, category.pattern.pieces text = [.hit text name]) ∨
      (category.pattern.pieces text = [.gap text] ∧ Stable rest (kind, text))

/-- A stable entry is all that its text is cut into. -/
theorem Stable.classify {categories : List Category} {entry : TokenKind × List Char}
    (stable : Stable categories entry) : classify categories entry.2 = [entry] := by
  obtain ⟨kind, text⟩ := entry
  -- The categories before the one that claims the text leave all of it.
  induction categories with
  | nil =>
    obtain ⟨rfl, filled⟩ := stable
    simp [TagTemplate.classify, filled]
  | cons category rest ih =>
    rw [classify_cons]
    rcases stable with ⟨rfl, name, claimed⟩ | ⟨left, stable⟩
    · rw [claimed]
      rfl
    · rw [left, List.flatMap_singleton]
      exact ih stable

/-- The entries of a text are stable without conditions. -/
theorem stable_of_mem_classify {categories : List Category} (free : Unconditional categories)
    {text : List Char} {entry : TokenKind × List Char} (mem : entry ∈ classify categories text) :
    Stable categories entry := by
  -- A category leaves gaps to the rest of the table, so the text varies along the table.
  induction categories generalizing text with
  | nil =>
    by_cases empty : text = []
    · simp [empty] at mem
    · obtain rfl : entry = (.text, text) := by simpa [classify, empty] using mem
      exact ⟨rfl, empty⟩
  | cons category rest ih =>
    obtain ⟨first, others⟩ := List.forall_mem_cons.mp free
    have filled := snd_ne_nil_of_mem_classify mem
    rw [classify_cons, List.mem_flatMap] at mem
    obtain ⟨piece, held, mem⟩ := mem
    have repeats := Pattern.repeats_of_mem_pieces (Pattern.unconditional first) held
    cases piece with
    | hit word name =>
      -- A match is claimed in its own text as it was in the whole.
      obtain rfl := List.mem_singleton.mp mem
      exact Or.inl ⟨rfl, name, repeats⟩
    | gap gap =>
      -- The entry is cut out of the gap, in which the category claims nothing.
      have mem : entry ∈ classify rest gap := mem
      have inside := List.infix_of_mem_flatten (List.mem_map_of_mem mem (f := Prod.snd))
      rw [← List.flatMap_def, flatMap_snd_classify] at inside
      exact Or.inr ⟨repeats entry.2 inside filled, ih others mem⟩

/-- A stable entry is claimed as a whole by the first category that claims anything in it, or else
left by all of them. -/
theorem Stable.cases {categories : List Category} {kind : TokenKind} {text : List Char}
    (stable : Stable categories (kind, text)) :
    (∃ before category after name, categories = before ++ category :: after ∧
      kind = category.kind ∧ category.pattern.pieces text = [.hit text name] ∧
      ∀ earlier ∈ before, earlier.pattern.pieces text = [.gap text]) ∨
    (kind = .text ∧ ∀ category ∈ categories, category.pattern.pieces text = [.gap text]) := by
  -- The table is split where the first category claims the text.
  induction categories with
  | nil => exact Or.inr ⟨stable.1, by simp⟩
  | cons category rest ih =>
    rcases stable with ⟨same, name, claimed⟩ | ⟨left, stable⟩
    · exact Or.inl ⟨[], category, rest, name, rfl, same, claimed, by simp⟩
    · rcases ih stable with ⟨before, claiming, after, name, rfl, same, claimed, earlier⟩ |
        ⟨rfl, none⟩
      · exact Or.inl ⟨category :: before, claiming, after, name, rfl, same, claimed,
          List.forall_mem_cons.mpr ⟨left, earlier⟩⟩
      · exact Or.inr ⟨rfl, List.forall_mem_cons.mpr ⟨left, none⟩⟩

/-- Every token of a table without conditions on positions is all that the table cuts its text into.
It is claimed as a whole by the first category that claims anything in it, or else left by all of
them. The usual table has no conditions. -/
theorem tokenize_raw :
    Unconditional Markup.plain.categories ∧
      ∀ (categories : List Category), Unconditional categories →
        ∀ (template : String) (token : Token), token ∈ tokenize categories template →
          tokenize categories token.raw = [⟨token.kind, token.raw, 0⟩] ∧
            ((∃ before category after name, categories = before ++ category :: after ∧
                token.kind = category.kind ∧
                category.pattern.pieces token.raw.toList = [.hit token.raw.toList name] ∧
                ∀ earlier ∈ before,
                  earlier.pattern.pieces token.raw.toList = [.gap token.raw.toList]) ∨
              (token.kind = .text ∧ ∀ category ∈ categories,
                category.pattern.pieces token.raw.toList = [.gap token.raw.toList])) := by
  refine ⟨by decide, fun categories free template token mem => ?_⟩
  -- The token was placed from an entry, which its own text is cut into again.
  have stable := stable_of_mem_classify free (entry_mem_classify mem)
  refine ⟨?_, stable.cases⟩
  rw [tokenize, stable.classify]
  simp [place]

/-- The start of a closing tag that is left in front of an opening tag is left by itself too. -/
theorem tokenize_raw_leftover :
    Unconditional Markup.plain.categories ∧
      ⟨.text, "<a</", 0⟩ ∈ tokenize Markup.plain.categories "<a</<b>\x7bc" ∧
      tokenize Markup.plain.categories "<a</" = [⟨.text, "<a</", 0⟩] := by
  -- The closing tag is not finished, so no category claims it.
  have cut : tokenize Markup.plain.categories "<a</<b>\x7bc" =
      [⟨.text, "<a</", 0⟩, ⟨.opening, "<b>", 4⟩, ⟨.text, "\x7bc", 7⟩] := rfl
  have mem : ⟨.text, "<a</", 0⟩ ∈ tokenize Markup.plain.categories "<a</<b>\x7bc" := by simp [cut]
  exact ⟨tokenize_raw.1, mem, (tokenize_raw.2 _ tokenize_raw.1 _ _ mem).1⟩

end TagTemplate
