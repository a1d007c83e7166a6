import TagTemplate.Pattern.Error
import TagTemplate.Text.Bytes
import TagTemplate.Token

/-! What can go wrong, and how it is told. -/

namespace TagTemplate

/-- The structural faults of a template. -/
inductive SyntaxFault where
  /-- A closing tag stands where no element is open. -/
  | unmatchedClosing
  /-- A closing tag does not pair with the innermost open element. -/
  | mismatchedClosing
  /-- The template ends inside an element. -/
  | unclosed
  deriving DecidableEq

/-- The fault in words. -/
def SyntaxFault.reason : SyntaxFault → String
  | unmatchedClosing => "nothing to close by closing tag"
  | mismatchedClosing => "closing tag doesn't match opening tag"
  | unclosed => "expected closing tag"

/-- A structural fault at a stretch of a template, given in bytes. -/
structure SyntaxError where
  fault : SyntaxFault
  template : String
  position : Nat
  length : Nat
  deriving DecidableEq

namespace SyntaxError

/-- The text of the template before the fault, if the fault stands between two characters. -/
def before? (error : SyntaxError) : Option (List Char) :=
  Text.takeBytes? error.position error.template.toList

/-- The line and column of the fault; the end of the template stands in for a place that is not
there. -/
def place (error : SyntaxError) : Text.Place :=
  Text.placeAfter (error.before?.getD error.template.toList)

/-- The number of characters before the fault; bytes are counted for a place that is not there. -/
def width (error : SyntaxError) : Nat :=
  (error.before?.map List.length).getD error.position

/-- The fault, the template, and a line that points at the fault. -/
def message (error : SyntaxError) : String :=
  error.fault.reason ++ "\n" ++ error.template ++ "\n" ++
    String.ofList (List.replicate error.width '-') ++ "^"

end SyntaxError

/-- Any failure between reading files and printing a result. -/
inductive Failure where
  /-- The template is not well formed. -/
  | template (error : SyntaxError)
  /-- A file cannot be read. -/
  | file
  /-- The configuration file cannot be understood. -/
  | configuration (reason : String)
  /-- A pattern of the configuration cannot be understood. -/
  | pattern (kind : TokenKind) (reason : PatternError)
  /-- The context is not an object of names and values. -/
  | context (reason : String)
  deriving DecidableEq

/-- A failure as a report: a code, advice, and labelled stretches of the template in bytes. -/
structure Diagnostic where
  code : String
  help : Option String
  labels : List (Nat × Nat × String)
  deriving DecidableEq

namespace SyntaxError

/-- The report of a structural fault. -/
def diagnostic (error : SyntaxError) : Diagnostic :=
  ⟨"rrtt::template_syntax", none, [(error.position, error.length, "here")]⟩

end SyntaxError

namespace Failure

/-- The failure in words. -/
def message : Failure → String
  | template error => error.message
  | file => "the file cannot be read"
  | configuration reason => "failed to parse config file: " ++ reason
  | pattern kind reason => "invalid pattern for \x60" ++ kind.label ++ "\x60: " ++ reason.reason
  | context reason => "invalid context: " ++ reason

/-- The report of a failure. -/
def diagnostic : Failure → Diagnostic
  | template error => error.diagnostic
  | file => ⟨"rrtt::io_error", none, []⟩
  | configuration _ =>
    ⟨"rrtt::config_parse",
      some "check that rrtt.toml is valid TOML with an optional [syntax] section", []⟩
  | pattern _ _ =>
    ⟨"rrtt::invalid_pattern",
      some "patterns use the \x60regex\x60 crate syntax, see https://docs.rs/regex", []⟩
  | context _ =>
    ⟨"rrtt::invalid_context",
      some "the context must be a JSON object mapping names to values", []⟩

end Failure

end TagTemplate
