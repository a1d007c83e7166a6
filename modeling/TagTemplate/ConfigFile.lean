import TagTemplate.Files
import TagTemplate.Markup
import TagTemplate.Toml.Reader

/-! The configuration file of a project, which may hold the markup of its templates. -/

namespace TagTemplate.ConfigFile

/-- The places where the file may lie below the root of a project; the first one found counts. -/
def candidates : List String :=
  ["rrtt.toml", ".rrtt.toml", ".config/rrtt.toml"]

/-- The values of named fields: a table holds them by name, and an array in order. A time counts as
a table that holds none of them. -/
def fields? (names : List String) : Toml → Option (List (Option Toml))
  | .table _ entries => some (names.map fun name => entries.lookup name)
  | .array _ items => some (names.mapIdx fun index _ => items[index]?)
  | .scalar text => if Toml.isTime text.toList then some (names.map fun _ => none) else none
  | .string _ => none

/-- The text of a value, if there is a value. -/
def text? : Option Toml → Except String (Option String)
  | none => .ok none
  | some (.string text) => .ok (some text)
  | some _ => .error "a string is expected"

/-- The kind that a value names: by its label, or by one entry with nothing in it. -/
def kind (value : Toml) : Except String TokenKind :=
  -- A kind has no content, so what its entry holds must be empty.
  let label? := match value with
    | .string label => some label
    | .table _ [(label, .table _ [])] => some label
    | .table _ [(label, .array _ [])] => some label
    | _ => none
  match label?.bind TokenKind.ofLabel? with
  | some kind => .ok kind
  | none => .error "a kind of token is expected"

/-- The category that a value describes. -/
def category (value : Toml) : Except String CategorySource :=
  match fields? ["kind", "pattern"] value with
  | some [some label, some (.string pattern)] => return ⟨← kind label, pattern⟩
  | _ => .error "a category needs a kind and a pattern"

/-- The categories that a value describes, if there is a value. -/
def categories? : Option Toml → Except String (Option (List CategorySource))
  | none => .ok none
  | some (.array _ items) => return some (← items.mapM category)
  | some _ => .error "an array of categories is expected"

/-- The markup that a value describes, if there is a value. -/
def markup : Option Toml → Except String MarkupSource
  | none => .ok {}
  | some value =>
    match fields? ["opening_tag", "closing_tag", "categories"] value with
    | some [opening, closing, categories] =>
      return ⟨← text? opening, ← text? closing, ← categories? categories⟩
    | _ => .error "a table is expected for the syntax"

/-- Reads the markup from the text of the file. -/
def ofText (text : String) : Except Failure MarkupSource :=
  match Toml.ofText text with
  | .error error => .error (.configuration error.reason)
  | .ok document => (markup (document.entries.lookup "syntax")).mapError Failure.configuration

/-- The candidate that is a file below a root. -/
def locate (files : Files) (root : Option String) : Option String :=
  candidates.find? fun candidate => files.isFile (Files.join root candidate)

/-- Reads the markup from the file of a project, if there is one. -/
def load (files : Files) (root : Option String) : Except Failure (Option MarkupSource) :=
  match locate files root with
  | none => .ok none
  | some candidate =>
    match files.readText? (Files.join root candidate) with
    | none => .error .file
    | some text => (ofText text).map some

end TagTemplate.ConfigFile
