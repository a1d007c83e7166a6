import TagTemplate.Proofs.Markup.Source
import TagTemplate.Proofs.Token.Stable

/-! The name of a token, which is found by searching its text alone, is what the match captured that
claimed the token in its template. -/

namespace TagTemplate

/-- The match that claims a text: the row of its pattern in the table, and what it names. -/
structure Capture where
  row : Nat
  name : Option (List Char)
  deriving DecidableEq

/-- The kinds and texts of the tokens of a text, each with the match that claims it, if any does;
the table starts at a row. -/
def captures (row : Nat) : List Category → List Char →
    List ((TokenKind × List Char) × Option Capture)
  | [], text => if text.isEmpty then [] else [((.text, text), none)]
  | category :: rest, text =>
    -- What a match names is kept here, where `classify` keeps only its text.
    (category.pattern.pieces text).flatMap fun
      | .gap text => captures (row + 1) rest text
      | .hit text name => [((category.kind, text), some ⟨row, name⟩)]

/-- The matches do not change what a text is cut into. -/
theorem map_fst_captures (row : Nat) (categories : List Category) (text : List Char) :
    (captures row categories text).map Prod.fst = classify categories text := by
  -- The rows are counted along the table, so the first row varies with the rest.
  induction categories generalizing row text with
  | nil => cases text <;> rfl
  | cons category rest ih =>
    rw [captures, classify_cons, List.map_flatMap]
    congr 1
    funext piece
    cases piece with
    | gap text => exact ih (row + 1) text
    | hit text name => rfl

/-- A claimed text is that of a match of its row, which has its kind. -/
theorem exists_of_mem_captures {row : Nat} {categories : List Category} {text word : List Char}
    {kind : TokenKind} {capture : Capture}
    (mem : ((kind, word), some capture) ∈ captures row categories text) :
    ∃ index category gap, capture.row = row + index ∧ categories[index]? = some category ∧
      category.kind = kind ∧ .hit word capture.name ∈ category.pattern.pieces gap := by
  -- Each row cuts what the rows before it left, so the text varies along the table.
  induction categories generalizing row text with
  | nil => cases text <;> simp [captures] at mem
  | cons category rest ih =>
    rw [captures, List.mem_flatMap] at mem
    obtain ⟨piece, held, mem⟩ := mem
    cases piece with
    | gap gap =>
      obtain ⟨index, other, inner, same, listed, found⟩ := ih mem
      exact ⟨index + 1, other, inner, by omega, listed, found⟩
    | hit claimed name =>
      obtain ⟨⟨rfl, rfl⟩, rfl⟩ := by simpa using mem
      exact ⟨0, category, text, rfl, rfl, rfl, held⟩

/-- The tokens of a template, each with the match that claims it, if any does. -/
def tokenCaptures (categories : List Category) (template : String) :
    List (Token × Option Capture) :=
  (tokenize categories template).zip ((captures 0 categories template.toList).map Prod.snd)

/-- The tokens of a template are those that it is cut into. -/
theorem map_fst_tokenCaptures (categories : List Category) (template : String) :
    (tokenCaptures categories template).map Prod.fst = tokenize categories template := by
  -- Tokens and matches are listed along the same cut, so there are as many of both.
  have texts := congrArg List.length (map_place 0 (classify categories template.toList))
  have claims := congrArg List.length (map_fst_captures 0 categories template.toList)
  rw [List.length_map] at texts claims
  refine List.map_fst_zip ?_
  rw [tokenize, List.length_map, texts, claims]

/-- The match that claims a token claims its text. -/
theorem mem_captures_of_mem {categories : List Category} {template : String} {token : Token}
    {capture : Option Capture} (mem : (token, capture) ∈ tokenCaptures categories template) :
    ((token.kind, token.raw.toList), capture) ∈ captures 0 categories template.toList := by
  -- Without their positions the tokens are the entries that they were placed from.
  have texts := map_place 0 (classify categories template.toList)
  rw [← map_fst_captures 0] at texts
  have whole : (tokenCaptures categories template).map
      (Prod.map (fun token => (token.kind, token.raw.toList)) id) =
        captures 0 categories template.toList := by
    rw [tokenCaptures, tokenize, ← map_fst_captures 0, ← List.zip_map, texts, List.map_id,
      List.zip_map']
    simp
  rw [← whole]
  exact List.mem_map_of_mem mem

/-- A configuration of a written markup takes its names by its table. Wherever a markup does so and
none of its patterns sets a condition on positions, a token that is claimed by the first row of its
kind with a naming part is called what the match that claims it names. Where the naming part took no
part in that match, the token has its usual name. -/
theorem extract_tokenCaptures {α : Type} :
    (∀ (source : MarkupSource) (wrapText : String → Nat → α) (config : Config α),
      Config.ofSource source wrapText = .ok config →
        config.markup.names = .ofTable config.markup.categories) ∧
    ∀ markup : Markup, markup.names = .ofTable markup.categories →
      Unconditional markup.categories → ∀ template : String,
      (tokenCaptures markup.categories template).map Prod.fst =
          tokenize markup.categories template ∧
        ∀ token capture, (token, some capture) ∈ tokenCaptures markup.categories template →
          token.kind ≠ .text →
          markup.categories.findIdx? (·.takesNames token.kind) = some capture.row →
          markup.names.extract token.kind token.raw =
            (capture.name.map String.ofList).getD
              (NameExtractors.plain.extract token.kind token.raw) := by
  refine ⟨fun source wrapText config made => (Config.ofSource_ok made).2.2,
    fun markup names free template => ⟨map_fst_tokenCaptures _ _, ?_⟩⟩
  intro token capture mem known first
  obtain ⟨index, category, gap, row, listed, same, found⟩ :=
    exists_of_mem_captures (mem_captures_of_mem mem)
  rw [Nat.zero_add] at row
  -- The row that claims the token is the one that is asked for its name.
  have asked : markup.categories.find? (·.takesNames token.kind) = some category := by
    rw [List.find?_eq_bind_findIdx?_getElem?, first, row]
    exact listed
  -- Alone, the text of the match is matched in the same way, with the same part named.
  have free := Pattern.unconditional (free category (List.mem_of_getElem? listed))
  have again := Pattern.nameIn?_of_mem_pieces free found
  rw [names, NameExtractors.extract_ofTable known, namesBy]
  simp only [asked, again]

/-- Opening tags with as short a name as there can be in front of crosses, or without a name. -/
def Pattern.crossedOpening : Pattern :=
  .ofRegex "<(?<name>[a-z]+?)x*>|<!>" <|
    .alt
      (.sequence [.one (.single '<'), .name (.plus false (.one (.span 'a' 'z'))),
        .star true (.one (.single 'x')), .one (.single '>')])
      (.sequence [.one (.single '<'), .one (.single '!'), .one (.single '>')])

/-- The markup of crossed opening tags, which has no more than these and the usual closing tags. -/
def Markup.crossed : Markup :=
  ⟨.crossedOpening, .plainClosing, [],
    .ofTable [⟨.opening, .crossedOpening⟩, ⟨.closing, .plainClosing⟩]⟩

/-- Both alternatives claim a tag, the first one with the shortest name that lets it match, and the
second one without. -/
theorem extract_tokenCaptures_crossed :
    let config : Config String := ⟨.crossed, Markup.sameName, fun text _ => text, none⟩
    Config.ofSource ⟨some "<(?<name>[a-z]+?)x*>|<!>", none, some []⟩ (fun text _ => text) =
        .ok config ∧
      Unconditional config.markup.categories ∧
      (⟨.opening, "<bxx>", 1⟩, some ⟨0, some ['b']⟩) ∈
        tokenCaptures config.markup.categories "x<bxx><!>" ∧
      config.markup.names.extract .opening "<bxx>" = "b" ∧
      (⟨.opening, "<!>", 6⟩, some ⟨0, none⟩) ∈
        tokenCaptures config.markup.categories "x<bxx><!>" ∧
      config.markup.names.extract .opening "<!>" = "!" := by
  have made : Config.ofSource ⟨some "<(?<name>[a-z]+?)x*>|<!>", none, some []⟩
      (fun text _ => text) =
        .ok (⟨.crossed, Markup.sameName, fun text _ => text, none⟩ : Config String) := rfl
  have free : Unconditional Markup.crossed.categories := by decide
  -- The lazy name takes one letter, as the crosses behind it let the pattern match.
  have cut : tokenCaptures Markup.crossed.categories "x<bxx><!>" =
      [(⟨.text, "x", 0⟩, none), (⟨.opening, "<bxx>", 1⟩, some ⟨0, some ['b']⟩),
        (⟨.opening, "<!>", 6⟩, some ⟨0, none⟩)] := rfl
  have first : (⟨.opening, "<bxx>", 1⟩, some ⟨0, some ['b']⟩) ∈
      tokenCaptures Markup.crossed.categories "x<bxx><!>" := by simp [cut]
  have second : (⟨.opening, "<!>", 6⟩, some ⟨0, none⟩) ∈
      tokenCaptures Markup.crossed.categories "x<bxx><!>" := by simp [cut]
  have known : TokenKind.opening ≠ .text := by decide
  have row : Markup.crossed.categories.findIdx? (·.takesNames .opening) = some 0 := rfl
  obtain ⟨taken, claimed⟩ := extract_tokenCaptures (α := String)
  obtain ⟨_, named⟩ := claimed .crossed (taken _ _ _ made) free "x<bxx><!>"
  exact ⟨made, free, first, named _ _ first known row, second, named _ _ second known row⟩

end TagTemplate
