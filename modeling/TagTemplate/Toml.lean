import TagTemplate.Entries

/-! TOML documents as trees of tables, and the rules by which their lines add up to one. -/

namespace TagTemplate

/-- How a table came to be, which decides what may be added to it. -/
inductive TableOrigin where
  /-- It has a header of its own. -/
  | header
  /-- It stands in the path of another table's header. -/
  | path
  /-- It stands in the path of a dotted key. -/
  | dotted
  /-- It is written between braces and complete. -/
  | inline
  deriving DecidableEq

/-- A TOML value. -/
inductive Toml where
  | string (value : String)
  /-- A number, a truth value or a time, as written. -/
  | scalar (text : String)
  /-- An array; one made of headers may grow. -/
  | array (byHeaders : Bool) (items : List Toml)
  | table (origin : TableOrigin) (entries : List (String × Toml))
  deriving Inhabited

/-- Why a text is not a TOML document. -/
inductive TomlError where
  | unfinished
  | unexpected (c : Char)
  | repeatedKey (key : String)
  | notExtensible (key : String)
  | invalidScalar (text : String)
  | invalidEscape
  | tooDeep
  deriving DecidableEq

/-- The reason in words. -/
def TomlError.reason : TomlError → String
  | unfinished => "the document ends too early"
  | unexpected c => s!"the character '{c}' is out of place"
  | repeatedKey key => s!"the key '{key}' is used twice"
  | notExtensible key => s!"nothing can be added to '{key}'"
  | invalidScalar text => s!"the value '{text}' is not valid"
  | invalidEscape => "an escape is not valid"
  | tooDeep => "the document is nested too deeply"

namespace Toml

/-- The entries of a table under construction, with its origin. -/
structure Table where
  origin : TableOrigin
  entries : List (String × Toml)

/-- The value of a table. -/
def Table.value (target : Table) : Toml :=
  .table target.origin target.entries

/-- Changes the table at the end of a path, which is made up of tables and of arrays made of
headers, whose last table counts. Tables that are missing are made; `dotted` says whether the path
belongs to a dotted key, which must not enter a table with a header of its own. -/
def Table.change (change : Table → Except TomlError Table) (dotted : Bool) :
    (path : List String) → Table → Except TomlError Table
  | [], target => change target
  | key :: path, target => do
    -- Complete tables are closed to all paths, and tables with a header to dotted keys.
    let enter (origin : TableOrigin) (entries : List (String × Toml)) :
        Except TomlError Toml :=
      if origin = .inline || (dotted && origin = .header) then .error (.notExtensible key)
      else (Table.change change dotted path ⟨origin, entries⟩).map Table.value
    let value ← match target.entries.lookup key with
      | none => enter (if dotted then .dotted else .path) []
      | some (.table origin entries) => enter origin entries
      | some (.array true items) =>
        match items.getLast? with
        | some (.table origin entries) => do
          let last ← (Table.change change dotted path ⟨origin, entries⟩).map Table.value
          .ok (.array true (items.dropLast ++ [last]))
        | _ => .error (.notExtensible key)
      | some _ => .error (.notExtensible key)
    return { target with entries := Entries.put key value target.entries }

/-- Adds a value under a key that must be new, at the end of a dotted path. Only tables made by
dotted keys can be added to by dotted keys. -/
def Table.add (path : List String) (key : String) (value : Toml) (target : Table) :
    Except TomlError Table :=
  let put (target : Table) : Except TomlError Table :=
    -- The last table of a dotted path must stem from dotted keys, and that of a plain key must not.
    if (target.origin == .dotted) == path.isEmpty then .error (.notExtensible key)
    else if (target.entries.lookup key).isSome then .error (.repeatedKey key)
    else .ok { target with entries := Entries.put key value target.entries }
  target.change put (!path.isEmpty) path

/-- Opens the table of a header. It must be new, or stand in the path of earlier headers only. -/
def Table.openHeader (key : String) (target : Table) : Except TomlError Table :=
  match target.entries.lookup key with
  | none => .ok { target with entries := Entries.put key (.table .header []) target.entries }
  | some (.table .path entries) =>
    .ok { target with entries := Entries.put key (.table .header entries) target.entries }
  | some _ => .error (.repeatedKey key)

/-- Opens the next table of an array made of headers. -/
def Table.openItem (key : String) (target : Table) : Except TomlError Table :=
  match target.entries.lookup key with
  | none =>
    .ok { target with entries := Entries.put key (.array true [.table .header []]) target.entries }
  | some (.array true items) =>
    let items := items ++ [.table .header []]
    .ok { target with entries := Entries.put key (.array true items) target.entries }
  | some _ => .error (.repeatedKey key)

end Toml

end TagTemplate
