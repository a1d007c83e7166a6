import TagTemplate.Command.Arguments
import TagTemplate.ConfigFile
import TagTemplate.Json.Printer
import TagTemplate.Json.Reader
import TagTemplate.Json.Rendering

/-! The command line: what a request gives for the files it reads. -/

namespace TagTemplate.Command

/-- What a command leaves behind. -/
structure Outcome where
  exit : Nat
  output : String
  /-- What is told beside the output. -/
  report : String
  /-- The code of the failure that is told. -/
  code : Option String
  deriving DecidableEq

/-- What keeps a command from its output. -/
inductive Trouble where
  | failure (failure : Failure)
  /-- The file of the context cannot be read. -/
  | contextFile

/-- The text between colour marks, if colours are wanted. -/
def colored (color : Bool) (mark : String) (text : String) : String :=
  if color then "\x1B[" ++ mark ++ "m" ++ text ++ "\x1B[39m" else text

/-- Reads the text of a template. -/
def readTemplate (files : Files) (root : Option String) (template : String) :
    Except Failure String :=
  match files.readText? (Files.join root template) with
  | some text => .ok text
  | none => .error .file

/-- Reads the configuration of a project. -/
def loadConfig (files : Files) (root : Option String) (keyed : Bool) :
    Except Failure (Config Json) := do
  -- Without a file the markup is the usual one.
  let source ← ConfigFile.load files root
  Config.ofSource (source.getD {}) (Json.ofTextRun keyed)

/-- Reads and compiles a template. -/
def compileFile (files : Files) (root : Option String) (template : String) (keyed : Bool) :
    Except Failure (Template Json) := do
  -- A template that cannot be read is told before any fault of the configuration.
  let source ← readTemplate files root template
  let config ← loadConfig files root keyed
  (Template.compile source config).mapError Failure.template

/-- Reads the context of a rendering; without a file it is empty. -/
def readContext (files : Files) (root : Option String) :
    Option String → Except Trouble (Context Json)
  | none => .ok .empty
  | some path => do
    let some text := files.readText? (Files.join root path) | .error .contextFile
    let json ← (Json.ofText text).mapError fun error => .failure (.context error.reason)
    json.context.mapError Trouble.failure

/-- The output of `render`. -/
def render (files : Files) (root : Option String) (template : String) (context : Option String)
    (keyed : Bool) : Except Trouble String := do
  let template ← (compileFile files root template keyed).mapError Trouble.failure
  let context ← readContext files root context
  let output := template.render (context.withTags template.tree)
  return (Json.array output).pretty "" ++ "\n"

/-- The output of `check`. -/
def check (files : Files) (root : Option String) (template : String) (color : Bool) :
    Except Failure String := do
  let ⟨tree, _⟩ ← compileFile files root template false
  return colored color "32" "ok:" ++ " " ++ template ++ " is valid (" ++
    toString tree.children.length ++ " nodes, depth " ++ toString tree.depth ++ ").\n"

/-- A token as a JSON object. -/
def tokenJson (token : Token) : Json :=
  .object [("kind", .string token.kind.label), ("raw", .string token.raw),
    ("position", .int token.position)]

/-- The output of `tokens`. -/
def tokens (files : Files) (root : Option String) (template : String) : Except Failure String := do
  let source ← readTemplate files root template
  let config ← loadConfig files root false
  let tokens := tokenize config.markup.categories source
  return (Json.array (tokens.map tokenJson)).pretty "" ++ "\n"

/-- A failure as it is told. -/
def failureReport (failure : Failure) : String :=
  let ⟨code, help, _⟩ := failure.diagnostic
  let advice := match help with
    | some help => "help: " ++ help ++ "\n"
    | none => ""
  code ++ "\n" ++ failure.message ++ "\n" ++ advice

/-- The outcome of an action that gave its output or ran into trouble. -/
def outcome (log : String) (color : Bool) (faultExit : Nat) : Except Trouble String → Outcome
  | .ok output => ⟨0, output, log, none⟩
  | .error .contextFile =>
    ⟨2, "", log ++ colored color "31" "error:" ++ " the context file cannot be read\n", none⟩
  | .error (.failure failure) =>
    -- Only a template that is not well formed can exit in a way of its own.
    let exit := match failure with
      | .template _ => faultExit
      | _ => 2
    ⟨exit, "", log ++ failureReport failure, some failure.diagnostic.code⟩

/-- The text for those who ask for help. -/
def usage : String :=
  "\n".intercalate [
    "Compile tag-and-placeholder templates into JSON element trees.",
    "",
    "Usage: rrtt [OPTIONS] [COMMAND]",
    "",
    "Commands:",
    "  render  Render a template and print the output as JSON",
    "  check   Compile a template and report syntax errors",
    "  tokens  Print the tokens of a template as JSON",
    "",
    "Options:",
    "  -p, --path <PATH>  Path to the project root directory",
    "  -v, --verbose      Enable verbose output",
    "      --no-color     Disable colored output",
    "  -h, --help         Print help",
    "  -V, --version      Print version",
    ""]

/-- What a request gives; `color` says whether the surroundings allow colours. -/
def Request.outcome (files : Files) (color : Bool) : Request → Outcome
  | .version => ⟨0, "rrtt_cli 0.3.0\n", "", none⟩
  | .help => ⟨0, usage, "", none⟩
  | .invalid reason => ⟨2, "", "error: " ++ reason ++ "\n", none⟩
  | .run _ none => ⟨1, "", "No subcommand specified. Run \x60rrtt --help\x60 for usage.\n", none⟩
  | .run settings (some action) =>
    let color := color && !settings.noColor
    let root := settings.path
    let log (template : String) :=
      if settings.verbose then "reading template " ++ Files.join root template ++ "\n" else ""
    match action with
    | .render template context keyed =>
      Command.outcome (log template) color 2 (render files root template context keyed)
    | .check template =>
      Command.outcome (log template) color 1
        ((check files root template color).mapError Trouble.failure)
    | .tokens template =>
      Command.outcome (log template) color 2
        ((tokens files root template).mapError Trouble.failure)

/-- The paths that a request may look at. -/
def Request.paths : Request → List String
  | .run settings (some action) =>
    let root := settings.path
    let (template, context) := match action with
      | .render template context _ => (template, context)
      | .check template => (template, none)
      | .tokens template => (template, none)
    (template :: ConfigFile.candidates ++ context.toList).map (Files.join root)
  | _ => []

end TagTemplate.Command
