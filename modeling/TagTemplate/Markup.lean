import TagTemplate.Error
import TagTemplate.Token.Lexer

/-! The markup of templates: how tags and placeholders are found and what they are called. -/

namespace TagTemplate

/-- The text without `front` characters before and `back` characters after it; nothing of a text
that is too short. Counts are machine words, and so is their sum. -/
def stripDelimiters (raw : String) (front back : UInt64) : String :=
  let chars := raw.toList
  -- A sum that does not fit a word wraps around, and the difference to it wraps back.
  let both := (front + back).toNat
  if chars.length < both then ""
  else String.ofList ((chars.drop front.toNat).take (chars.length - both))

/-- How the name of a tag or placeholder is taken from its text. -/
structure NameExtractors where
  opening : String → String
  closing : String → String
  selfClosing : String → String
  placeholder : String → String

namespace NameExtractors

/-- The name of a token's text. Literal text is its own name. -/
def extract (names : NameExtractors) : TokenKind → String → String
  | .text => id
  | .opening => names.opening
  | .closing => names.closing
  | .selfClosing => names.selfClosing
  | .placeholder => names.placeholder

/-- Names between the usual delimiters. -/
def plain : NameExtractors where
  opening raw := stripDelimiters raw 1 1
  closing raw := stripDelimiters raw 2 1
  selfClosing raw := stripDelimiters raw 1 2
  placeholder raw := stripDelimiters raw 1 1

end NameExtractors

/-- The patterns and names of a markup. -/
structure Markup where
  /-- Finds opening tags, before anything else. -/
  opening : Pattern
  /-- Finds closing tags in what the opening tags leave. -/
  closing : Pattern
  /-- Finds the rest, in order. -/
  others : List Category
  names : NameExtractors

namespace Pattern

/-- A character other than two given ones. -/
def neither (left right : Char) : Regex :=
  .one (.compl (.union (.single left) (.single right)))

/-- The usual opening tags. -/
def plainOpening : Pattern :=
  ofRegex "<[^>/]+>" <|
    .sequence [.one (.single '<'), .plus true (neither '>' '/'), .one (.single '>')]

/-- The usual closing tags. -/
def plainClosing : Pattern :=
  ofRegex "</[^>/]+>" <|
    .sequence [.one (.single '<'), .one (.single '/'), .plus true (neither '>' '/'),
      .one (.single '>')]

/-- The usual self-closing tags. -/
def plainSelfClosing : Pattern :=
  ofRegex "<[^>/]+/>" <|
    .sequence [.one (.single '<'), .plus true (neither '>' '/'), .one (.single '/'),
      .one (.single '>')]

/-- The usual placeholders. -/
def plainPlaceholder : Pattern :=
  ofRegex "\\\x7B[^\x7B\x7D]+\\\x7D" <|
    .sequence [.one (.single '{'), .plus true (neither '{' '}'), .one (.single '}')]

/-- The usual opening tags read as written. -/
theorem ofText_plainOpening :
    Regex.ofText plainOpening.source.toList = .ok plainOpening.regex := rfl

/-- The usual closing tags read as written. -/
theorem ofText_plainClosing :
    Regex.ofText plainClosing.source.toList = .ok plainClosing.regex := rfl

/-- The usual self-closing tags read as written. -/
theorem ofText_plainSelfClosing :
    Regex.ofText plainSelfClosing.source.toList = .ok plainSelfClosing.regex := rfl

/-- The usual placeholders read as written. -/
theorem ofText_plainPlaceholder :
    Regex.ofText plainPlaceholder.source.toList = .ok plainPlaceholder.regex := rfl

end Pattern

namespace Markup

/-- The usual categories after opening and closing tags. -/
def plainOthers : List Category :=
  [⟨.selfClosing, .plainSelfClosing⟩, ⟨.placeholder, .plainPlaceholder⟩]

/-- The usual markup. -/
def plain : Markup :=
  ⟨.plainOpening, .plainClosing, plainOthers, .plain⟩

/-- The table by which templates are cut into tokens. -/
def categories (markup : Markup) : List Category :=
  ⟨.opening, markup.opening⟩ :: ⟨.closing, markup.closing⟩ :: markup.others

/-- Whether an opening and a closing tag have the same name. -/
def sameName (markup : Markup) (opening closing : String) : Bool :=
  markup.names.opening opening == markup.names.closing closing

end Markup

/-- A category as written. -/
structure CategorySource where
  kind : TokenKind
  pattern : String
  deriving DecidableEq

/-- A markup as written; what is left out keeps its usual form. -/
structure MarkupSource where
  opening : Option String := none
  closing : Option String := none
  categories : Option (List CategorySource) := none
  deriving DecidableEq

/-- Reads the pattern of a category. -/
def compilePattern (kind : TokenKind) (source : String) : Except Failure Pattern :=
  (Pattern.compile source).mapError (Failure.pattern kind)

namespace NameExtractors

/-- The extractors with the one of a kind replaced. Literal text has none. -/
def set (names : NameExtractors) (kind : TokenKind) (extractor : String → String) :
    NameExtractors :=
  match kind with
  | .text => names
  | .opening => { names with opening := extractor }
  | .closing => { names with closing := extractor }
  | .selfClosing => { names with selfClosing := extractor }
  | .placeholder => { names with placeholder := extractor }

/-- Takes names by the naming part of a pattern, and by another extractor where that part takes none
of the text. -/
def byPattern (pattern : Pattern) (other : String → String) (raw : String) : String :=
  match pattern.nameIn? raw.toList with
  | some name => String.ofList name
  | none => other raw

/-- Takes the names of a kind between the usual delimiters. -/
def usual : TokenKind → String → String
  | .closing => plain.closing
  | .selfClosing => plain.selfClosing
  | .placeholder => plain.placeholder
  -- An extractor for literal text is never put in place.
  | .opening | .text => plain.opening

/-- The extractors of a table: patterns that name a part of their matches take the names of their
kind. -/
def ofTable (table : List Category) : NameExtractors :=
  -- The rows are gone through backwards, so that the first one of a kind has the last word.
  table.reverse.foldl (fun names category =>
    if category.pattern.hasName
    then names.set category.kind (byPattern category.pattern (usual category.kind))
    else names) plain

end NameExtractors

namespace Markup

/-- The pattern that is written, or the usual one if none is. -/
def patternOr (usual : Pattern) (kind : TokenKind) : Option String → Except Failure Pattern
  | some text => compilePattern kind text
  | none => .ok usual

/-- The categories that are written, or the usual ones if there is no list of them. -/
def othersOr : Option (List CategorySource) → Except Failure (List Category)
  | some rows => rows.mapM fun row =>
      (compilePattern row.kind row.pattern).map (Category.mk row.kind)
  | none => .ok plainOthers

/-- Reads a markup from its written form; the first pattern that cannot be read decides the
failure. -/
def ofSource (source : MarkupSource) : Except Failure Markup := do
  let opening ← patternOr .plainOpening .opening source.opening
  let closing ← patternOr .plainClosing .closing source.closing
  let others ← othersOr source.categories
  -- The names may come from any row of the table, also from a later one of the same kind.
  let table : List Category := ⟨.opening, opening⟩ :: ⟨.closing, closing⟩ :: others
  return ⟨opening, closing, others, .ofTable table⟩

end Markup

end TagTemplate
