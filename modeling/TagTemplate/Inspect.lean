import TagTemplate.Json.Printer
import TagTemplate.Template
import TagTemplate.Unicode.Visible

/-! Values shown in full, for those who look for a fault. -/

namespace TagTemplate.Inspect

/-- A character inside quotes. -/
def char (c : Char) : List Char :=
  match c with
  | '"' => ['\\', '"']
  | '\\' => ['\\', '\\']
  | '\x00' => ['\\', '0']
  | '\t' => ['\\', 't']
  | '\r' => ['\\', 'r']
  | '\n' => ['\\', 'n']
  | c =>
    if Unicode.isVisible c then [c]
    else '\\' :: 'u' :: '{' :: Nat.toDigits 16 c.toNat ++ ['}']

/-- A text in quotes. -/
def text (content : String) : String :=
  String.ofList ('"' :: content.toList.flatMap char ++ ['"'])

/-- Items between brackets. -/
def list (items : List String) : String :=
  "[" ++ ", ".intercalate items ++ "]"

/-- A constructor with its arguments. -/
def applied (name : String) (arguments : List String) : String :=
  name ++ "(" ++ ", ".intercalate arguments ++ ")"

/-- A record with its fields. -/
def record (name : String) (fields : List (String × String)) : String :=
  let fields := fields.map fun (field, value) => field ++ ": " ++ value
  name ++ " \x7B " ++ ", ".intercalate fields ++ " \x7D"

/-- A record whose last fields are not shown. -/
def openRecord (name : String) (fields : List (String × String)) : String :=
  let fields := fields.map fun (field, value) => field ++ ": " ++ value
  name ++ " \x7B " ++ ", ".intercalate (fields ++ [".."]) ++ " \x7D"

/-- The kind of a token. -/
def kind : TokenKind → String
  | .text => "String"
  | .opening => "OpeningTag"
  | .closing => "ClosingTag"
  | .selfClosing => "SelfClosingTag"
  | .placeholder => "TextPlaceholder"

/-- A category with its pattern. -/
def category (category : Category) : String :=
  record "Category" [("kind", kind category.kind),
    ("pattern", applied "Regex" [text category.pattern.source])]

/-- A configuration without its functions. -/
def config {α : Type} (config : Config α) : String :=
  openRecord "Config"
    [("opening_tag", text config.markup.opening.source),
      ("closing_tag", text config.markup.closing.source),
      ("additional_categories", list (config.markup.others.map category)),
      ("missing_reference_handler", toString config.missing.isSome)]

/-- Name extractors, of which nothing can be shown. -/
def extractors (_ : NameExtractors) : String :=
  openRecord "NameExtractors" []

mutual

/-- A node with all that is in it. -/
def node : Node → String
  | .text content => applied "Text" [text content]
  | .placeholder name => record "Placeholder" [("name", text name)]
  | .leaf name => record "SelfClosingTag" [("name", text name)]
  | .element name opening children =>
    applied "Element" [record "Element"
      [("name", text name), ("raw_opening", text opening), ("children", list (nodes children))]]

/-- Some nodes with all that is in them. -/
def nodes : List Node → List String
  | [] => []
  | first :: rest => node first :: nodes rest

end

/-- A template with its tree and configuration. -/
def template {α : Type} (template : Template α) : String :=
  record "Template"
    [("tree", record "Tree" [("children", list (nodes template.tree.children))]),
      ("config", config template.config)]

/-- A number of double precision: positional from four places after the point to sixteen before it,
and always with a point or an exponent. -/
def float (value : Binary64) : String :=
  let sign := if value.isNegative then "-" else ""
  if value.isNaN then "NaN"
  else if value.isInfinite then sign ++ "inf"
  else if value.isZero then sign ++ "0.0"
  else
    -- Of two shortest forms at the same distance the larger one is shown.
    let decimal := value.shortest .up
    sign ++ if -4 < decimal.point ∧ decimal.point ≤ 16 then decimal.positional 1
      else decimal.scientific

/-- A number with its kind. -/
def number : Number → String
  | .int value => applied "Int" [toString value.toInt]
  | .float value => applied "Float" [float value]

/-- A renderer, of which only the kind can be shown. -/
def renderer {α : Type} : Renderer α → String
  | .element _ => "Renderer::Element(..)"
  | .leaf _ => "Renderer::Leaf(..)"

mutual

/-- A JSON value with the kinds of all its parts. -/
def json : Json → String
  | .null => "Null"
  | .bool value => applied "Bool" [toString value]
  | .int value => applied "Number" [toString value]
  | .float value => applied "Number" [Json.floatText value]
  | .string value => applied "String" [text value]
  | .array items => "Array " ++ list (jsonItems items)
  | .object members => "Object \x7B" ++ ", ".intercalate (jsonMembers members) ++ "\x7D"

/-- The items of an array. -/
def jsonItems : List Json → List String
  | [] => []
  | item :: rest => json item :: jsonItems rest

/-- The members of an object. -/
def jsonMembers : List (String × Json) → List String
  | [] => []
  | (name, value) :: rest => (text name ++ ": " ++ json value) :: jsonMembers rest

end

/-- The value stored under a name, if there is one. -/
def stored : Option (Value Json) → String
  | none => "None"
  | some value => applied "Some" [match value with
    | .text content => applied "Text" [text content]
    | .number value => applied "Number" [number value]
    | .renderer held => applied "Renderer" [renderer held]
    | .ready value => applied "Opaque" [json value]]

/-- What a name stands for in a template. -/
def resolved : Option (Value Json) → String
  | none => "Absent"
  | some (.text content) => applied "Text" [text content]
  | some (.number value) => applied "Number" [number value]
  | some (.renderer held) => applied "Callable" [renderer held]
  | some (.ready value) => applied "Opaque" [json value]

end TagTemplate.Inspect
