import TagTemplate.Config
import TagTemplate.Proofs.Failure

/-! What a written markup comes to: the table of its patterns, how names are taken by that table,
and which pattern is told if not all of them can be read. -/

namespace TagTemplate

/-- Whether a row of a table is of a kind and names a part of its matches. -/
def Category.takesNames (category : Category) (kind : TokenKind) : Bool :=
  category.kind = kind && category.pattern.hasName

/-- How names of a kind are taken by a table: by the first pattern of that kind that names a part of
its matches, where it does so, and otherwise as usual. -/
def namesBy (table : List Category) (kind : TokenKind) (raw : String) : String :=
  let usual := NameExtractors.plain.extract kind raw
  -- Only the first pattern with a naming part is asked, even if it does not match.
  match table.find? (·.takesNames kind) with
  | none => usual
  | some category => ((category.pattern.nameIn? raw.toList).map String.ofList).getD usual

namespace NameExtractors

/-- An extractor that is put in place takes the names of its kind, unless that is literal text. -/
theorem extract_set (names : NameExtractors) (kind other : TokenKind)
    (extractor : String → String) :
    (names.set kind extractor).extract other =
      if kind = other ∧ kind ≠ .text then extractor else names.extract other := by
  -- There are five kinds to be set and five to be asked for.
  cases kind <;> cases other <;> rfl

/-- The usual names of a kind are those between its own delimiters. -/
theorem usual_eq_extract {kind : TokenKind} (markup : kind ≠ .text) :
    usual kind = plain.extract kind := by
  cases kind with
  | text => exact absurd rfl markup
  | _ => rfl

/-- A row in front of a table has the last word on its kind. -/
theorem ofTable_cons (category : Category) (rest : List Category) :
    ofTable (category :: rest) =
      if category.pattern.hasName
      then (ofTable rest).set category.kind (byPattern category.pattern (usual category.kind))
      else ofTable rest := by
  -- The table is gone through backwards, so its first row comes last.
  simp only [ofTable, List.reverse_cons, List.foldl_append, List.foldl_cons, List.foldl_nil]

/-- Overwriting the extractors from the last row to the first one leaves, for each kind, what the
first row of that kind with a naming part says. -/
theorem extract_ofTable {kind : TokenKind} (markup : kind ≠ .text) (table : List Category)
    (raw : String) : (ofTable table).extract kind raw = namesBy table kind raw := by
  -- The row in front is the one with the last word, so it goes before what the rest says.
  induction table with
  | nil =>
    rw [namesBy, List.find?_nil]
    rfl
  | cons category rest ih =>
    rw [ofTable_cons, namesBy, List.find?_cons]
    by_cases named : category.pattern.hasName = true
    · by_cases same : category.kind = kind
      · subst same
        -- The row is the first one of its kind, so its pattern is asked.
        simp only [Category.takesNames, named, if_true, extract_set, ne_eq, markup, not_false_iff,
          and_self, decide_true, Bool.and_self, byPattern, usual_eq_extract markup]
        cases category.pattern.nameIn? raw.toList <;> rfl
      · -- A row of another kind, or without a naming part, leaves the kind to the rest.
        simpa [Category.takesNames, named, extract_set, same, namesBy] using ih
    · simpa [Category.takesNames, named, namesBy] using ih

end NameExtractors

namespace MarkupSource

/-- The patterns that are written, in the order in which they are read. -/
def rows (source : MarkupSource) : List CategorySource :=
  (source.opening.map (CategorySource.mk .opening)).toList ++
    ((source.closing.map (CategorySource.mk .closing)).toList ++ source.categories.getD [])

/-- Whether a pattern is the one that is written, or the usual one if none is written. -/
def Gives (written : Option String) (usual pattern : Pattern) : Prop :=
  match written with
  | some text => Pattern.compile text = .ok pattern
  | none => pattern = usual

/-- Whether categories are those that are written, in order, or the usual ones if there is no list
of them. -/
def GivesAll (written : Option (List CategorySource)) (categories : List Category) : Prop :=
  match written with
  | some rows => List.Forall₂ (fun row category =>
      category.kind = row.kind ∧ Pattern.compile row.pattern = .ok category.pattern) rows categories
  | none => categories = Markup.plainOthers

/-- Whether a table is that of a written markup: its opening and closing tags first, and then its
categories. -/
def Describes (source : MarkupSource) (table : List Category) : Prop :=
  ∃ opening closing others, table = ⟨.opening, opening⟩ :: ⟨.closing, closing⟩ :: others ∧
    Gives source.opening .plainOpening opening ∧ Gives source.closing .plainClosing closing ∧
    GivesAll source.categories others

end MarkupSource

namespace Markup

/-- A written pattern fails as its row does, and the usual one never. -/
theorem failure?_patternOr (usual : Pattern) (kind : TokenKind) (written : Option String) :
    failure? (patternOr usual kind written) =
      (written.map (CategorySource.mk kind)).toList.findSome? fun row =>
        failure? (compilePattern row.kind row.pattern) := by
  -- Without a written pattern there is no row that could fail.
  cases written with
  | none => rfl
  | some text => cases read : compilePattern kind text <;> simp [patternOr, read, failure?]

/-- Written categories fail as the first row does that fails, and the usual ones never. -/
theorem failure?_othersOr (written : Option (List CategorySource)) :
    failure? (othersOr written) =
      (written.getD []).findSome? fun row => failure? (compilePattern row.kind row.pattern) := by
  -- A list is read from its first row on.
  cases written with
  | none => rfl
  | some rows => simp [othersOr, failure?_mapM]

/-- A written markup fails as the first row does whose pattern cannot be read. -/
theorem failure?_ofSource (source : MarkupSource) :
    failure? (ofSource source) =
      source.rows.findSome? fun row => failure? (compilePattern row.kind row.pattern) := by
  -- The three parts are read in a row, and making the names of them cannot fail.
  have read : failure? (ofSource source) =
      (failure? (patternOr .plainOpening .opening source.opening)).or
        ((failure? (patternOr .plainClosing .closing source.closing)).or
          ((failure? (othersOr source.categories)).or none)) :=
    failure?_bind fun _ => failure?_bind fun _ => failure?_bind fun _ => rfl
  rw [read, Option.or_none, failure?_patternOr, failure?_patternOr, failure?_othersOr,
    MarkupSource.rows, List.findSome?_append, List.findSome?_append]

/-- A pattern is given exactly if it is read, or usual. -/
theorem patternOr_eq_ok_iff {usual pattern : Pattern} {kind : TokenKind} {written : Option String} :
    patternOr usual kind written = .ok pattern ↔ MarkupSource.Gives written usual pattern := by
  -- The kind only goes into the failure.
  cases written with
  | none => simp [patternOr, MarkupSource.Gives, eq_comm]
  | some text =>
    cases read : Pattern.compile text <;>
      simp [patternOr, compilePattern, Except.mapError, MarkupSource.Gives, read]

/-- Categories are given exactly if all of them are read, or usual. -/
theorem othersOr_eq_ok_iff {written : Option (List CategorySource)} {categories : List Category} :
    othersOr written = .ok categories ↔ MarkupSource.GivesAll written categories := by
  cases written with
  | none => simp [othersOr, MarkupSource.GivesAll, eq_comm]
  | some rows =>
    -- A row is given with its own kind, if its pattern is read.
    have row (row : CategorySource) (category : Category) :
        (compilePattern row.kind row.pattern).map (Category.mk row.kind) = .ok category ↔
          category.kind = row.kind ∧ Pattern.compile row.pattern = .ok category.pattern := by
      obtain ⟨kind, pattern⟩ := category
      cases read : Pattern.compile row.pattern <;>
        simp [compilePattern, Except.map, Except.mapError, read, eq_comm]
    simp only [othersOr, MarkupSource.GivesAll, mapM_eq_ok_iff, row]

/-- A markup that is read has the written table, by which it takes its names. -/
theorem ofSource_ok {source : MarkupSource} {markup : Markup}
    (read : ofSource source = .ok markup) :
    source.Describes markup.categories ∧ markup.names = .ofTable markup.categories := by
  obtain ⟨opening, first, read⟩ := exists_of_bind_eq_ok read
  obtain ⟨closing, second, read⟩ := exists_of_bind_eq_ok read
  obtain ⟨others, third, read⟩ := exists_of_bind_eq_ok read
  cases read
  exact ⟨⟨opening, closing, others, rfl, patternOr_eq_ok_iff.mp first,
    patternOr_eq_ok_iff.mp second, othersOr_eq_ok_iff.mp third⟩, rfl⟩

end Markup

namespace CategorySource

/-- A row does not fail exactly if its pattern can be read. -/
theorem failure?_eq_none_iff {row : CategorySource} :
    failure? (compilePattern row.kind row.pattern) = none ↔
      ∃ pattern, Pattern.compile row.pattern = .ok pattern := by
  cases read : Pattern.compile row.pattern <;>
    simp [compilePattern, Except.mapError, failure?, read]

/-- A row fails as its pattern does, which is told with the kind of the row. -/
theorem failure?_eq_some_iff {row : CategorySource} {failure : Failure} :
    failure? (compilePattern row.kind row.pattern) = some failure ↔
      ∃ error, Pattern.compile row.pattern = .error error ∧ failure = .pattern row.kind error := by
  cases read : Pattern.compile row.pattern <;>
    simp [compilePattern, Except.mapError, failure?, read, eq_comm]

end CategorySource

namespace Config

variable {α : Type}

/-- A written markup changes nothing but the markup of the usual configuration. -/
theorem ofSource_eq_map (source : MarkupSource) (wrapText : String → Nat → α) :
    ofSource source wrapText =
      (Markup.ofSource source).map fun markup => { plain wrapText with markup } := by
  -- All other parts of the configuration are set without the markup.
  rw [ofSource]
  cases Markup.ofSource source <;> rfl

/-- A configuration of a written markup has the written table, by which it takes its names, and is
the usual one in all else. -/
theorem ofSource_ok {source : MarkupSource} {wrapText : String → Nat → α} {config : Config α}
    (made : ofSource source wrapText = .ok config) :
    config = { plain wrapText with markup := config.markup } ∧
      source.Describes config.markup.categories ∧
      config.markup.names = .ofTable config.markup.categories := by
  rw [ofSource_eq_map] at made
  cases read : Markup.ofSource source with
  | error failure => simp [read, Except.map] at made
  | ok markup =>
    obtain rfl : { plain wrapText with markup } = config := by simpa [read, Except.map] using made
    exact ⟨rfl, Markup.ofSource_ok read⟩

/-- A written markup makes a configuration exactly if all of its patterns can be read. Otherwise the
first pattern that cannot be read, among those of opening tags, of closing tags and of the
categories in order, is told with its kind. The table of the configuration has the written patterns,
and the usual ones where none are written. The first pattern of a kind in this table that names a
part of its matches takes the names of that kind; they are the usual ones where it takes none. -/
theorem ofSource_describes (source : MarkupSource) (wrapText : String → Nat → α) :
    ((∃ config, ofSource source wrapText = .ok config) ↔
      ∀ row ∈ source.rows, ∃ pattern, Pattern.compile row.pattern = .ok pattern) ∧
    (∀ failure, ofSource source wrapText = .error failure ↔
      ∃ before row after error, source.rows = before ++ row :: after ∧
        (∀ earlier ∈ before, ∃ pattern, Pattern.compile earlier.pattern = .ok pattern) ∧
        Pattern.compile row.pattern = .error error ∧ failure = .pattern row.kind error) ∧
    ∀ config, ofSource source wrapText = .ok config →
      config = { plain wrapText with markup := config.markup } ∧
      source.Describes config.markup.categories ∧
      (∀ kind raw, kind ≠ .text →
        config.markup.names.extract kind raw = namesBy config.markup.categories kind raw) ∧
      ∀ raw, config.markup.names.extract .text raw = raw := by
  -- The configuration fails where its markup does, which is told by the rows.
  have fails : failure? (ofSource source wrapText) =
      source.rows.findSome? fun row => failure? (compilePattern row.kind row.pattern) := by
    rw [ofSource_eq_map, failure?_map, Markup.failure?_ofSource]
  refine ⟨?_, fun failure => ?_, fun config made => ?_⟩
  · -- There is a configuration exactly if no row fails.
    simp only [← failure?_eq_none_iff, fails, List.findSome?_eq_none_iff,
      CategorySource.failure?_eq_none_iff]
  · -- The first row that fails splits the rows into those before it, which are read, and the rest.
    rw [← failure?_eq_some_iff, fails, List.findSome?_eq_some_iff]
    simp only [CategorySource.failure?_eq_none_iff, CategorySource.failure?_eq_some_iff]
    constructor
    · rintro ⟨before, row, after, split, ⟨error, bad, told⟩, good⟩
      exact ⟨before, row, after, error, split, good, bad, told⟩
    · rintro ⟨before, row, after, error, split, good, bad, told⟩
      exact ⟨before, row, after, split, ⟨error, bad, told⟩, good⟩
  · obtain ⟨rest, describes, names⟩ := ofSource_ok made
    refine ⟨rest, describes, fun kind raw known => ?_, fun raw => rfl⟩
    rw [names, NameExtractors.extract_ofTable known]

/-- The opening tags as written have no naming part, so the first category of opening tags takes
their names. It is not the one that finds the tag, and the next one is not asked where it finds
nothing. -/
theorem ofSource_describes_later :
    ∃ config : Config String,
      ofSource ⟨some "<[a-z]+>", none, some [⟨.opening, "\\[(?<name>[a-z]+)\\]"⟩,
        ⟨.opening, "(?<name><)"⟩]⟩ (fun text _ => text) = .ok config ∧
      config.markup.names.extract .opening "<[ab]>" = "ab" ∧
      config.markup.names.extract .opening "<cd>" = "cd" := by
  -- The patterns as they are read.
  let letters : Regex := .plus true (.one (.span 'a' 'z'))
  let opening : Pattern :=
    .ofRegex "<[a-z]+>" (.sequence [.one (.single '<'), letters, .one (.single '>')])
  let others : List Category :=
    [⟨.opening, .ofRegex "\\[(?<name>[a-z]+)\\]"
        (.sequence [.one (.single '['), .name letters, .one (.single ']')])⟩,
      ⟨.opening, .ofRegex "(?<name><)" (.name (.one (.single '<')))⟩]
  let table : List Category := ⟨.opening, opening⟩ :: ⟨.closing, .plainClosing⟩ :: others
  let config : Config String :=
    ⟨⟨opening, .plainClosing, others, .ofTable table⟩, Markup.sameName, fun text _ => text, none⟩
  have made : ofSource ⟨some "<[a-z]+>", none, some [⟨.opening, "\\[(?<name>[a-z]+)\\]"⟩,
      ⟨.opening, "(?<name><)"⟩]⟩ (fun text _ => text) = .ok config := rfl
  obtain ⟨_, _, named, _⟩ := (ofSource_describes _ _).2.2 config made
  have known : TokenKind.opening ≠ .text := by decide
  exact ⟨config, made, (named .opening "<[ab]>" known).trans rfl,
    (named .opening "<cd>" known).trans rfl⟩

end Config

end TagTemplate
