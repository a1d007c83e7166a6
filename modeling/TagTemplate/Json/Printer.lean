import TagTemplate.Json
import TagTemplate.Number.Shortest

/-! Writing JSON text. -/

namespace TagTemplate

namespace Json

/-- A hexadecimal code of at least `width` digits. -/
def hex (width code : Nat) : List Char :=
  let digits := Nat.toDigits 16 code
  List.replicate (width - digits.length) '0' ++ digits

/-- A character inside a string. -/
def quoteChar (c : Char) : List Char :=
  match c with
  | '"' => ['\\', '"']
  | '\\' => ['\\', '\\']
  | '\x08' => ['\\', 'b']
  | '\x0C' => ['\\', 'f']
  | '\n' => ['\\', 'n']
  | '\r' => ['\\', 'r']
  | '\t' => ['\\', 't']
  | c => if c < ' ' then '\\' :: 'u' :: hex 4 c.toNat else [c]

/-- A text in quotes. -/
def quote (text : String) : String :=
  String.ofList ('"' :: text.toList.flatMap quoteChar ++ ['"'])

/-- A number of double precision: positional from five places after the point to sixteen before it,
and always with a point or an exponent. -/
def floatText (value : Binary64) : String :=
  let sign := if value.isNegative then "-" else ""
  if value.isNaN || value.isInfinite then "null"
  else if value.isZero then sign ++ "0.0"
  else
    -- Of two shortest forms at the same distance the even one is written.
    let decimal := value.shortest .even
    sign ++ if -5 < decimal.point ∧ decimal.point ≤ 16 then decimal.positional 1
      else decimal.scientific

mutual

/-- The value on one line without blanks. -/
def compact : Json → String
  | null => "null"
  | bool value => toString value
  | int value => toString value
  | float value => floatText value
  | string value => quote value
  | array items => "[" ++ ",".intercalate (compactItems items) ++ "]"
  | object members => "\x7B" ++ ",".intercalate (compactMembers members) ++ "\x7D"

/-- The items of an array, each on one line. -/
def compactItems : List Json → List String
  | [] => []
  | item :: rest => compact item :: compactItems rest

/-- The members of an object, each on one line. -/
def compactMembers : List (String × Json) → List String
  | [] => []
  | (name, value) :: rest => (quote name ++ ":" ++ compact value) :: compactMembers rest

end

/-- Lines between brackets, one item a line, indented below the line they start on. -/
def block (indent : String) (opening closing : String) (items : List String) : String :=
  if items.isEmpty then opening ++ closing
  else opening ++ "\n" ++ (",\n").intercalate (items.map ((indent ++ "  ") ++ ·)) ++ "\n" ++
    indent ++ closing

mutual

/-- The value with each item and member on a line of its own. -/
def pretty (indent : String) : Json → String
  | null => "null"
  | bool value => toString value
  | int value => toString value
  | float value => floatText value
  | string value => quote value
  | array items => block indent "[" "]" (prettyItems (indent ++ "  ") items)
  | object members => block indent "\x7B" "\x7D" (prettyMembers (indent ++ "  ") members)

/-- The items of an array, over several lines. -/
def prettyItems (indent : String) : List Json → List String
  | [] => []
  | item :: rest => pretty indent item :: prettyItems indent rest

/-- The members of an object, over several lines. -/
def prettyMembers (indent : String) : List (String × Json) → List String
  | [] => []
  | (name, value) :: rest =>
    (quote name ++ ": " ++ pretty indent value) :: prettyMembers indent rest

end

end Json

end TagTemplate
