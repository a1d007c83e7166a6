import TagTemplate.Pattern

/-! Tokens: stretches of a template with the part they play in its markup. -/

namespace TagTemplate

/-- The part that a stretch of a template plays. -/
inductive TokenKind where
  /-- Literal text. -/
  | text
  /-- A tag that opens an element. -/
  | opening
  /-- A tag that closes an element. -/
  | closing
  /-- A tag that stands for a whole element. -/
  | selfClosing
  /-- A place for a value. -/
  | placeholder
  deriving DecidableEq

namespace TokenKind

/-- The written name of a kind. -/
def label : TokenKind → String
  | text => "string"
  | opening => "opening_tag"
  | closing => "closing_tag"
  | selfClosing => "self_closing_tag"
  | placeholder => "text_placeholder"

/-- All kinds. -/
def all : List TokenKind :=
  [text, opening, closing, selfClosing, placeholder]

/-- The kind of a written name. -/
def ofLabel? (label : String) : Option TokenKind :=
  all.find? (·.label == label)

end TokenKind

/-- A stretch of a template. -/
structure Token where
  kind : TokenKind
  /-- The text of the token, delimiters included. -/
  raw : String
  /-- The number of bytes of the template before the token. -/
  position : Nat
  deriving DecidableEq

/-- The number of bytes of the template up to the end of the token. -/
def Token.stop (token : Token) : Nat :=
  token.position + token.raw.utf8ByteSize

/-- One row of the table by which a template is cut into tokens. -/
structure Category where
  kind : TokenKind
  pattern : Pattern

end TagTemplate
