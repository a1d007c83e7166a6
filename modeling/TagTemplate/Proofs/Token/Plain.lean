import TagTemplate.Proofs.Markup.Delimiters
import TagTemplate.Proofs.Pattern.Delimited
import TagTemplate.Proofs.Token.Classify

/-! The usual tags and placeholders: how they are written around their names, and that the table
tells them apart. -/

namespace TagTemplate

namespace Delimited

/-- A name written between the delimiters of a form. -/
def write (form : Delimited) (name : String) : String :=
  String.ofList (form.front ++ name.toList ++ form.back)

/-- The names that can be written in a form: those of some characters, all of them inner ones. -/
def Names (form : Delimited) (name : String) : Prop :=
  name ≠ "" ∧ ∀ c ∈ name.toList, form.inner.contains c = true

/-- Written names fit the form. -/
theorem fits_write {form : Delimited} {name : String} (names : form.Names name) :
    form.Fits (form.write name).toList :=
  -- The body of the text is the name, which the form allows.
  ⟨name.toList, by simp [write], by simpa using names.1, names.2⟩

/-- Texts of a form are the written names. -/
theorem exists_write {form : Delimited} {raw : String} (fits : form.Fits raw.toList) :
    ∃ name, raw = form.write name := by
  -- What stands between the delimiters is taken as the name.
  obtain ⟨body, same, _⟩ := fits
  exact ⟨String.ofList body, String.toList_injective (by simpa [write] using same)⟩

/-- Without its delimiters a written name is the name again. -/
theorem stripDelimiters_write (form : Delimited) (name : String) {front back : UInt64}
    (first : form.front.length = front.toNat) (last : form.back.length = back.toNat)
    (fits : front.toNat + back.toNat < UInt64.size) :
    stripDelimiters (form.write name) front back = name := by
  -- The delimiters are the texts around the name, with as many characters as are stripped.
  have written : form.write name =
      String.ofList form.front ++ name ++ String.ofList form.back := by
    rw [write, String.ofList_append, String.ofList_append, String.ofList_toList]
  rw [written]
  refine stripDelimiters_append ?_ ?_ fits
  · rw [String.length_ofList, first]
  · rw [String.length_ofList, last]

section Claims

variable {form : Delimited} {pattern : Pattern} {text : List Char}

/-- A pattern claims the texts of its form. -/
theorem claims (same : pattern.program.toList = form.code) (fits : form.Fits text) :
    pattern.Claims text := by
  constructor
  · -- The closing delimiter holds a character at least.
    obtain ⟨c, rest, opens, _⟩ := form.stops
    obtain ⟨body, rfl, _⟩ := fits
    simp [opens]
  · -- Whatever follows the text, the form itself stands at the front.
    intro before rest
    exact ⟨_, (form.takes same (text ++ rest) before _).mpr ⟨text, rest, rfl, fits, rfl⟩, rfl⟩

/-- A pattern misses a text if no text of its form starts in it. -/
theorem misses (same : pattern.program.toList = form.code)
    (apart : ∀ tail rest word back, tail <:+ text → tail ≠ [] → tail ++ rest = word ++ back →
      ¬ form.Fits word) : pattern.Misses text := by
  intro before tail rest suffix filled
  rw [Option.eq_none_iff_forall_ne_some]
  -- A match would take a text of the form, which starts in the given one.
  intro hit found
  obtain ⟨word, back, split, fits, _⟩ := (form.takes same (tail ++ rest) before hit).mp found
  exact apart tail rest word back suffix filled split fits

/-- A text of a form starts with the first character of the form. -/
theorem first_mem {first : Char} {front tail rest word back : List Char}
    (opens : form.front = first :: front) (fits : form.Fits word) (filled : tail ≠ [])
    (split : tail ++ rest = word ++ back) : first ∈ tail := by
  -- Both sides start with the same character.
  obtain ⟨body, rfl, _⟩ := fits
  obtain ⟨c, tail, rfl⟩ := List.exists_cons_of_ne_nil filled
  rw [opens] at split
  simp only [List.cons_append, List.cons.injEq] at split
  obtain ⟨rfl, _⟩ := split
  exact List.mem_cons_self

/-- A pattern misses a text without the first character of its form. -/
theorem misses_of_absent (same : pattern.program.toList = form.code) {first : Char}
    {front : List Char} (opens : form.front = first :: front) (absent : first ∉ text) :
    pattern.Misses text :=
  -- A text of the form would bring its first character along.
  misses same fun _ _ _ _ suffix filled split fits =>
    absent (suffix.mem (first_mem opens fits filled split))

/-- A pattern misses a text that has the first character of the form at the front only, if no text
of the form starts there. -/
theorem misses_of_head (same : pattern.program.toList = form.code) {c first : Char}
    {front : List Char} (opens : form.front = first :: front) (absent : first ∉ text)
    (apart : ∀ rest word back, c :: text ++ rest = word ++ back → ¬ form.Fits word) :
    pattern.Misses (c :: text) := by
  refine misses same fun tail rest word back suffix filled split fits => ?_
  -- Behind the front no text of the form starts, since its first character is missing.
  rcases List.suffix_cons_iff.mp suffix with rfl | inside
  · exact apart rest word back split fits
  · exact absent (inside.mem (first_mem opens fits filled split))

/-- Inner characters up to another one that does not start the closing delimiter fit in no way. -/
theorem not_fits_of_run {run rest word back : List Char} {c stop : Char} {others : List Char}
    (closes : form.back = stop :: others) (held : ∀ d ∈ run, form.inner.contains d = true)
    (outside : form.inner.contains c = false) (different : c ≠ stop)
    (split : form.front ++ run ++ c :: rest = word ++ back) : ¬ form.Fits word := by
  rintro ⟨body, rfl, _, inside⟩
  obtain ⟨d, others, opens, stops⟩ := form.stops
  rw [closes, List.cons.injEq] at opens
  obtain ⟨rfl, rfl⟩ := opens
  rw [closes] at split
  simp only [List.append_assoc, List.cons_append, List.append_cancel_left_eq] at split
  -- Both sides have the same longest run of inner characters, and then different ones.
  have runs := congrArg (List.takeWhile form.inner.contains) split
  rw [List.takeWhile_append_of_pos held, List.takeWhile_append_of_pos inside,
    List.takeWhile_cons_of_neg (by simp [outside]),
    List.takeWhile_cons_of_neg (by simp [stops]), List.append_nil, List.append_nil] at runs
  subst runs
  simp only [List.append_cancel_left_eq, List.cons.injEq] at split
  exact different split.1

end Claims

end Delimited

/-- The form in which the names of a kind are usually written; literal text has none. -/
def TokenKind.form? : TokenKind → Option Delimited
  | text => none
  | opening => some .opening
  | closing => some .closing
  | selfClosing => some .selfClosing
  | placeholder => some .placeholder

/-- The usual names are those that stand between the delimiters. -/
theorem NameExtractors.extract_write (kind : TokenKind) {form : Delimited}
    (usual : kind.form? = some form) (name : String) :
    plain.extract kind (form.write name) = name := by
  -- The counts of characters to strip are the lengths of the delimiters.
  cases kind with
  | text => cases usual
  | opening =>
    cases usual
    simp only [extract, plain]
    exact Delimited.stripDelimiters_write .opening name rfl rfl (by decide)
  | closing =>
    cases usual
    simp only [extract, plain]
    exact Delimited.stripDelimiters_write .closing name rfl rfl (by decide)
  | selfClosing =>
    cases usual
    simp only [extract, plain]
    exact Delimited.stripDelimiters_write .selfClosing name rfl rfl (by decide)
  | placeholder =>
    cases usual
    simp only [extract, plain]
    exact Delimited.stripDelimiters_write .placeholder name rfl rfl (by decide)

/-- Whether the text of a token is its name, written in the form of its kind. -/
def Token.Written (token : Token) : Prop :=
  ∀ form, token.kind.form? = some form →
    token.raw = form.write (NameExtractors.plain.extract token.kind token.raw)

namespace Markup

/-- Every category of the usual table has the form of its kind. -/
theorem code_of_mem_categories {category : Category} (mem : category ∈ plain.categories) :
    ∃ form, category.kind.form? = some form ∧ category.pattern.program.toList = form.code := by
  simp only [categories, plain, plainOthers, List.mem_cons, List.not_mem_nil, or_false] at mem
  -- The table has four rows.
  rcases mem with rfl | rfl | rfl | rfl
  · exact ⟨_, rfl, Delimited.code_opening⟩
  · exact ⟨_, rfl, Delimited.code_closing⟩
  · exact ⟨_, rfl, Delimited.code_selfClosing⟩
  · exact ⟨_, rfl, Delimited.code_placeholder⟩

/-- What the usual table claims for a kind fits the form of that kind. -/
theorem fits_of_mem_classify {text : List Char} {entry : TokenKind × List Char}
    {form : Delimited} (mem : entry ∈ classify plain.categories text)
    (usual : entry.1.form? = some form) : form.Fits entry.2 := by
  rcases hitAt_of_mem_classify mem with literal | ⟨category, listed, same, before, tail, hit, found⟩
  · -- Literal text has no form.
    simp [literal, TokenKind.form?] at usual
  · -- A match of the category takes a text of its form off the front.
    obtain ⟨other, usualOther, code⟩ := code_of_mem_categories listed
    obtain rfl : other = form := Option.some.inj (usualOther.symm.trans (same ▸ usual))
    obtain ⟨preferred, taken⟩ := found
    obtain ⟨word, rest, rfl, fits, rfl⟩ := (other.takes code tail before hit).mp preferred
    rw [List.take_left] at taken
    exact taken ▸ fits

/-- The tokens of the usual table are written in the form of their kind. -/
theorem written_of_mem_tokenize {template : String} {token : Token}
    (mem : token ∈ tokenize plain.categories template) : token.Written := by
  intro form usual
  -- The token was placed from an entry of its kind and text.
  have fits := fits_of_mem_classify (entry_mem_classify mem) usual
  obtain ⟨name, written⟩ := Delimited.exists_write fits
  rw [written, NameExtractors.extract_write _ usual]

/-- The usual table finds opening tags. -/
theorem found_opening {name : String} (names : Delimited.opening.Names name) :
    FoundBy plain.categories (.opening, (Delimited.opening.write name).toList) :=
  Or.inl ⟨rfl, Delimited.claims Delimited.code_opening (Delimited.fits_write names)⟩

/-- The usual table finds closing tags, in which no opening tag starts. -/
theorem found_closing {name : String} (names : Delimited.closing.Names name)
    (absent : '<' ∉ name.toList) :
    FoundBy plain.categories (.closing, (Delimited.closing.write name).toList) := by
  have written : (Delimited.closing.write name).toList = '<' :: '/' :: (name.toList ++ ['>']) := by
    simp [Delimited.write, Delimited.closing]
  have noOpening : Pattern.plainOpening.Misses (Delimited.closing.write name).toList := by
    rw [written]
    refine Delimited.misses_of_head Delimited.code_opening rfl (by simpa using absent) ?_
    intro rest word back split
    have split : Delimited.opening.front ++ [] ++ '/' :: (name.toList ++ ['>'] ++ rest) =
        word ++ back := split
    -- The slash stands where the name of an opening tag has its first character.
    exact Delimited.not_fits_of_run rfl (by simp) rfl (by decide) split
  exact Or.inr ⟨noOpening, Or.inl ⟨rfl, Delimited.claims Delimited.code_closing
    (Delimited.fits_write names)⟩⟩

/-- The usual table finds self-closing tags, in which no other tag starts. -/
theorem found_selfClosing {name : String} (names : Delimited.selfClosing.Names name)
    (absent : '<' ∉ name.toList) :
    FoundBy plain.categories (.selfClosing, (Delimited.selfClosing.write name).toList) := by
  have written : (Delimited.selfClosing.write name).toList =
      '<' :: (name.toList ++ ['/', '>']) := by
    simp [Delimited.write, Delimited.selfClosing]
  have noOpening : Pattern.plainOpening.Misses (Delimited.selfClosing.write name).toList := by
    rw [written]
    refine Delimited.misses_of_head Delimited.code_opening rfl (by simpa using absent) ?_
    intro rest word back split
    have split : Delimited.opening.front ++ name.toList ++ '/' :: '>' :: rest = word ++ back := by
      simpa [Delimited.opening] using split
    -- After the name there is a slash, where an opening tag would end.
    exact Delimited.not_fits_of_run rfl names.2 rfl (by decide) split
  have noClosing : Pattern.plainClosing.Misses (Delimited.selfClosing.write name).toList := by
    rw [written]
    refine Delimited.misses_of_head Delimited.code_closing rfl (by simpa using absent) ?_
    rintro rest word back split ⟨body, rfl, _⟩
    -- A name comes right after the bracket, where a closing tag has its slash.
    obtain ⟨c, chars, same⟩ := List.exists_cons_of_ne_nil
      (mt String.toList_eq_nil_iff.mp names.1)
    have inner := names.2 c (by simp [same])
    rw [same] at split
    simp only [Delimited.closing, List.cons_append, List.cons.injEq] at split
    rw [split.2.1] at inner
    simp [Delimited.selfClosing] at inner
  exact Or.inr ⟨noOpening, Or.inr ⟨noClosing, Or.inl ⟨rfl, Delimited.claims
    Delimited.code_selfClosing (Delimited.fits_write names)⟩⟩⟩

/-- The usual table misses no placeholder, in which no tag starts. -/
theorem found_placeholder {name : String} (names : Delimited.placeholder.Names name)
    (absent : '<' ∉ name.toList) :
    FoundBy plain.categories (.placeholder, (Delimited.placeholder.write name).toList) := by
  -- All three forms of tags start with a bracket, and there is none.
  have noTag : '<' ∉ (Delimited.placeholder.write name).toList := by
    simpa [Delimited.write, Delimited.placeholder] using absent
  exact Or.inr ⟨Delimited.misses_of_absent Delimited.code_opening rfl noTag,
    Or.inr ⟨Delimited.misses_of_absent Delimited.code_closing rfl noTag,
      Or.inr ⟨Delimited.misses_of_absent Delimited.code_selfClosing rfl noTag,
        Or.inl ⟨rfl, Delimited.claims Delimited.code_placeholder (Delimited.fits_write names)⟩⟩⟩⟩

/-- The usual table leaves text in which neither a tag nor a placeholder starts. -/
theorem found_text {text : List Char} (filled : text ≠ []) (noTag : '<' ∉ text)
    (noPlaceholder : '\x7b' ∉ text) : FoundBy plain.categories (.text, text) :=
  Or.inr ⟨Delimited.misses_of_absent Delimited.code_opening rfl noTag,
    Or.inr ⟨Delimited.misses_of_absent Delimited.code_closing rfl noTag,
      Or.inr ⟨Delimited.misses_of_absent Delimited.code_selfClosing rfl noTag,
        Or.inr ⟨Delimited.misses_of_absent Delimited.code_placeholder rfl noPlaceholder,
          rfl, filled⟩⟩⟩⟩

end Markup

end TagTemplate
