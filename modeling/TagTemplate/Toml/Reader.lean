import TagTemplate.Toml
import TagTemplate.Toml.Scalar

/-! Reading TOML documents. -/

namespace TagTemplate

namespace Toml

/-- The error at the front of a text. -/
def misplaced {α : Type} : List Char → Except TomlError α
  | [] => .error .unfinished
  | c :: _ => .error (.unexpected c)

/-- Whether a character may not be written as it is: a control character other than a tab. -/
def isControl (c : Char) : Bool :=
  (c < ' ' && c != '\t') || c == '\x7F'

/-- The text after blanks within a line. -/
def skipBlank (text : List Char) : List Char :=
  text.dropWhile fun c => c == ' ' || c == '\t'

/-- The text from the end of the line on, where a comment may stand before it. -/
def skipComment : List Char → Except TomlError (List Char)
  | '#' :: text =>
    -- Line ends are control characters too, so the comment stops there or at a fault.
    let rest := text.dropWhile (!isControl ·)
    match rest with
    | [] => .ok []
    | '\n' :: _ => .ok rest
    | '\r' :: '\n' :: _ => .ok rest
    | c :: _ => .error (.unexpected c)
  | text => .ok text

/-- The text after the end of a line, which only blanks and a comment may stand before. -/
def endLine (text : List Char) : Except TomlError (List Char) := do
  match ← skipComment (skipBlank text) with
  | [] => return []
  | '\n' :: rest => return rest
  | '\r' :: '\n' :: rest => return rest
  | rest => misplaced rest

/-- The text after blanks, comments and line ends. -/
def skipLines : (fuel : Nat) → List Char → Except TomlError (List Char)
  | 0, text => .ok text
  | fuel + 1, text => do
    match ← skipComment (skipBlank text) with
    | '\n' :: rest => skipLines fuel rest
    | '\r' :: '\n' :: rest => skipLines fuel rest
    | rest => return rest

/-- Reads a character code of some hexadecimal digits. -/
def readCode (count : Nat) (text : List Char) : Except TomlError (Char × List Char) :=
  let digits := text.take count
  match Text.hexValue? digits with
  | some code =>
    if digits.length = count && code.isValidChar then .ok (Char.ofNat code, text.drop count)
    else .error .invalidEscape
  | none => .error .invalidEscape

/-- Reads an escape after its backslash. -/
def readEscape : List Char → Except TomlError (Char × List Char)
  | 'b' :: rest => .ok ('\x08', rest)
  | 't' :: rest => .ok ('\t', rest)
  | 'n' :: rest => .ok ('\n', rest)
  | 'f' :: rest => .ok ('\x0C', rest)
  | 'r' :: rest => .ok ('\r', rest)
  | 'e' :: rest => .ok ('\x1B', rest)
  | '"' :: rest => .ok ('"', rest)
  | '\\' :: rest => .ok ('\\', rest)
  | 'x' :: rest => readCode 2 rest
  | 'u' :: rest => readCode 4 rest
  | 'U' :: rest => readCode 8 rest
  | [] => .error .unfinished
  | _ => .error .invalidEscape

/-- Reads a string of one line after its opening quote; only one in double quotes has escapes. -/
def readLineText (quote : Char) : (fuel : Nat) → List Char →
    Except TomlError (List Char × List Char)
  | 0, _ => .error .unfinished
  | _, [] => .error .unfinished
  | fuel + 1, c :: rest => do
    if c == quote then return ([], rest)
    if isControl c then .error (.unexpected c)
    let (c, rest) ← if c == '\\' && quote == '"' then readEscape rest else .ok (c, rest)
    let (text, rest) ← readLineText quote fuel rest
    return (c :: text, rest)

/-- The text after a backslash at the end of a line: all blanks and line ends that follow are left
out. -/
def skipLineBreak? (text : List Char) : Option (List Char) :=
  let isBreak (c : Char) := c == '\n' || c == '\r'
  match skipBlank text with
  | '\n' :: rest => some (rest.dropWhile fun c => c == ' ' || c == '\t' || isBreak c)
  | '\r' :: '\n' :: rest => some (rest.dropWhile fun c => c == ' ' || c == '\t' || isBreak c)
  | _ => none

/-- Reads a string of several lines after its opening quotes. Three quotes end it, and one or two
more before the end belong to it. -/
def readLongText (quote : Char) : (fuel : Nat) → List Char →
    Except TomlError (List Char × List Char)
  | 0, _ => .error .unfinished
  | _, [] => .error .unfinished
  | fuel + 1, c :: rest => do
    if c == quote then
      let count := (rest.takeWhile (· == quote)).length + 1
      -- Fewer than three quotes belong to the text.
      if 3 ≤ count then
        let kept := min (count - 3) 2
        return (List.replicate kept quote, rest.drop (kept + 2))
    if c == '\\' && quote == '"' then
      if let some rest := skipLineBreak? rest then return ← readLongText quote fuel rest
    if isControl c && c != '\n' && !(c == '\r' && rest.head? == some '\n') then
      .error (.unexpected c)
    let (c, rest) ← if c == '\\' && quote == '"' then readEscape rest else .ok (c, rest)
    let (text, rest) ← readLongText quote fuel rest
    return (c :: text, rest)

/-- The text after a line end at the front. -/
def skipFirstBreak : List Char → List Char
  | '\n' :: rest => rest
  | '\r' :: '\n' :: rest => rest
  | text => text

/-- Reads a string of any form, if one stands at the front. -/
def readString? : List Char → Option (Except TomlError (List Char × List Char))
  | '"' :: '"' :: '"' :: rest => some (readLongText '"' (rest.length + 1) (skipFirstBreak rest))
  | '\'' :: '\'' :: '\'' :: rest =>
    some (readLongText '\'' (rest.length + 1) (skipFirstBreak rest))
  | '"' :: rest => some (readLineText '"' (rest.length + 1) rest)
  | '\'' :: rest => some (readLineText '\'' (rest.length + 1) rest)
  | _ => none

/-- Reads one part of a key. -/
def readKeyPart (text : List Char) : Except TomlError (String × List Char) := do
  let isBare (c : Char) := c.isAlphanum || c == '_' || c == '-'
  match text with
  | '"' :: rest =>
    let (key, rest) ← readLineText '"' (rest.length + 1) rest
    return (String.ofList key, rest)
  | '\'' :: rest =>
    let (key, rest) ← readLineText '\'' (rest.length + 1) rest
    return (String.ofList key, rest)
  | _ =>
    let key := text.takeWhile isBare
    if key.isEmpty then misplaced text
    return (String.ofList key, text.dropWhile isBare)

/-- Reads a key of one or more parts with dots between them: the path, and the last part. -/
def readKey : (fuel : Nat) → List Char →
    Except TomlError (List String × String × List Char)
  | 0, _ => .error .unfinished
  | fuel + 1, text => do
    let (part, rest) ← readKeyPart (skipBlank text)
    match skipBlank rest with
    | '.' :: rest =>
      let (path, key, rest) ← readKey fuel rest
      return (part :: path, key, rest)
    | rest => return ([], part, rest)

/-- Reads a number, a truth value or a time. A blank may stand between a date and a time of day. -/
def readScalar (text : List Char) : Except TomlError (Toml × List Char) :=
  let isPart (c : Char) :=
    c.isAlphanum || c == '+' || c == '-' || c == '_' || c == '.' || c == ':'
  let first := text.takeWhile isPart
  let rest := text.dropWhile isPart
  -- A blank goes on with the value only between a date and a digit.
  let (written, rest) := match rest with
    | ' ' :: c :: after =>
      if c.isDigit && afterDate? first == some [] then
        (first ++ ' ' :: (c :: after).takeWhile isPart, (c :: after).dropWhile isPart)
      else (first, rest)
    | _ => (first, rest)
  if written.isEmpty then misplaced text
  else if isScalar written then .ok (.scalar (String.ofList written), rest)
  else .error (.invalidScalar (String.ofList written))

/-- How many arrays and tables may stand inside each other within one value. -/
def depthLimit : Nat := 80

mutual

/-- Reads a value, inside at most `depth` more arrays and tables. -/
def readValue : (fuel depth : Nat) → List Char → Except TomlError (Toml × List Char)
  | 0, _, _ => .error .unfinished
  | fuel + 1, depth, text => do
    if let some read := readString? text then
      let (value, rest) ← read
      return (.string (String.ofList value), rest)
    match text with
    | '[' :: rest =>
      let depth + 1 := depth | .error .tooDeep
      let (items, rest) ← readItems fuel depth rest
      return (.array false items, rest)
    | '{' :: rest =>
      let depth + 1 := depth | .error .tooDeep
      -- While its entries are read the table behaves like one with a header.
      let (target, rest) ← readEntries fuel depth ⟨.header, []⟩ rest
      return (.table .inline target.entries, rest)
    | _ => readScalar text

/-- Reads the items of an array up to its closing bracket. -/
def readItems : (fuel depth : Nat) → List Char → Except TomlError (List Toml × List Char)
  | 0, _, _ => .error .unfinished
  | fuel + 1, depth, text => do
    let text ← skipLines text.length text
    -- The array may be empty, or a comma may stand after its last item.
    if let ']' :: rest := text then return ([], rest)
    let (item, rest) ← readValue fuel depth text
    match ← skipLines rest.length rest with
    | ',' :: rest =>
      let (items, rest) ← readItems fuel depth rest
      return (item :: items, rest)
    | ']' :: rest => return ([item], rest)
    | rest => misplaced rest

/-- Reads the entries of a table up to its closing brace. -/
def readEntries : (fuel depth : Nat) → Table → List Char →
    Except TomlError (Table × List Char)
  | 0, _, _, _ => .error .unfinished
  | fuel + 1, depth, target, text => do
    let text ← skipLines text.length text
    if let '}' :: rest := text then return (target, rest)
    let (path, key, rest) ← readKey (text.length + 1) text
    let '=' :: rest := rest | misplaced rest
    let (value, rest) ← readValue fuel depth (skipBlank rest)
    let target ← target.add path key value
    match ← skipLines rest.length rest with
    | ',' :: rest => readEntries fuel depth target rest
    | '}' :: rest => return (target, rest)
    | rest => misplaced rest

end

/-- Reads a header after its opening brackets: the path of the table and its key. -/
def readHeader (text : List Char) : Except TomlError (List String × String × List Char) := do
  let (path, key, rest) ← readKey (text.length + 1) text
  let ']' :: rest := rest | misplaced rest
  return (path, key, rest)

/-- Reads the lines of a document into its root table; `section` is the path of the table whose
entries are being read. -/
def readLines : (fuel : Nat) → (root : Table) → (current : List String) → List Char →
    Except TomlError Table
  | 0, root, _, _ => .ok root
  | fuel + 1, root, current, text => do
    let text ← skipLines text.length text
    match text with
    | [] => return root
    -- Two brackets open the next table of an array, one bracket a single table.
    | '[' :: '[' :: rest =>
      let (path, key, rest) ← readHeader rest
      let ']' :: rest := rest | misplaced rest
      let root ← root.change (Table.openItem key) false path
      readLines fuel root (path ++ [key]) (← endLine rest)
    | '[' :: rest =>
      let (path, key, rest) ← readHeader rest
      let root ← root.change (Table.openHeader key) false path
      readLines fuel root (path ++ [key]) (← endLine rest)
    | _ =>
      let (path, key, rest) ← readKey (text.length + 1) text
      let '=' :: rest := rest | misplaced rest
      let (value, rest) ← readValue (2 * rest.length + 2) depthLimit (skipBlank rest)
      let root ← root.change (Table.add path key value) false current
      readLines fuel root current (← endLine rest)

/-- Reads a document; a byte order mark may stand before it. -/
def ofText (text : String) : Except TomlError Table :=
  let chars := match text.toList with
    | '\uFEFF' :: rest => rest
    | chars => chars
  readLines (chars.length + 1) ⟨.header, []⟩ [] chars

end Toml

end TagTemplate
