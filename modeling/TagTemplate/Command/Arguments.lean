/-! The arguments of the command line. -/

namespace TagTemplate.Command

/-- Settings that hold for every action. -/
structure Settings where
  /-- The root of the project, if it is not the working directory. -/
  path : Option String
  verbose : Bool
  noColor : Bool
  deriving DecidableEq

/-- What the command is to do with a template. -/
inductive Action where
  | render (template : String) (context : Option String) (keyed : Bool)
  | check (template : String)
  | tokens (template : String)
  deriving DecidableEq

/-- What the arguments ask for. -/
inductive Request where
  | run (settings : Settings) (action : Option Action)
  | version
  | help
  | invalid (reason : String)
  deriving DecidableEq

/-- The place in the arguments: before the name of an action, or after it. -/
inductive Stage where
  | general
  | render
  | check
  | tokens
  deriving DecidableEq

/-- The options. -/
inductive Flag where
  | path
  | verbose
  | noColor
  | help
  | version
  | context
  | keyed
  deriving DecidableEq

namespace Flag

/-- Whether an option is followed by a value. -/
def takesValue (flag : Flag) : Bool :=
  flag = path || flag = context

/-- The option of a long name. -/
def ofName? (stage : Stage) (name : String) : Option Flag :=
  match name, stage with
  | "path", _ => some path
  | "verbose", _ => some verbose
  | "no-color", _ => some noColor
  | "help", _ => some help
  | "version", .general => some version
  | "context", .render => some context
  | "keyed", .render => some keyed
  | _, _ => none

/-- The option of a letter. -/
def ofLetter? (stage : Stage) (letter : Char) : Option Flag :=
  match letter, stage with
  | 'p', _ => some path
  | 'v', _ => some verbose
  | 'h', _ => some help
  | 'V', .general => some version
  | 'c', .render => some context
  | _, _ => none

end Flag

/-- The options and the template given so far at one stage. -/
structure Given where
  options : List (Flag × String) := []
  template : Option String := none

namespace Given

/-- The value of an option. -/
def value? (given : Given) (flag : Flag) : Option String :=
  given.options.lookup flag

/-- Whether an option is given. -/
def has (given : Given) (flag : Flag) : Bool :=
  (given.value? flag).isSome

/-- Adds an option. Help and version are granted at once; any other option may be given once. -/
def add (given : Given) (flag : Flag) (value : String) : Except Request Given :=
  match flag with
  | .help => .error .help
  | .version => .error .version
  | _ =>
    -- Each stage counts for itself, so an option may be repeated after the action.
    if given.has flag then .error (.invalid "an option is given twice")
    else if flag.takesValue && value.isEmpty then .error (.invalid "an option has an empty value")
    else .ok { given with options := (flag, value) :: given.options }

/-- Adds an option whose value is the next argument. -/
def addNext (given : Given) (flag : Flag) : List String → Except Request (Given × List String)
  | [] => .error (.invalid "an option lacks its value")
  | value :: rest =>
    -- What looks like an option is none's value.
    if value.startsWith "-" && value != "-" then .error (.invalid "an option lacks its value")
    else return (← given.add flag value, rest)

/-- Reads the letters of short options. -/
def addLetters (stage : Stage) (rest : List String) :
    Given → List Char → Except Request (Given × List String)
  | given, [] => .ok (given, rest)
  | given, letter :: letters =>
    match Flag.ofLetter? stage letter with
    | none => .error (.invalid "an option is not known")
    | some flag =>
      if flag.takesValue then
        -- The value is the rest of the argument, or the next one if nothing is left.
        match letters with
        | [] => given.addNext flag rest
        | '=' :: value => return (← given.add flag (String.ofList value), rest)
        | value => return (← given.add flag (String.ofList value), rest)
      else
        match given.add flag "" with
        | .ok given => addLetters stage rest given letters
        | .error request => .error request

/-- Reads a long option without its hyphens. -/
def addLong (stage : Stage) (given : Given) (option : String) (rest : List String) :
    Except Request (Given × List String) :=
  let name := String.ofList (option.toList.takeWhile (· != '='))
  let value? := match option.toList.dropWhile (· != '=') with
    | [] => none
    | _ :: value => some (String.ofList value)
  match Flag.ofName? stage name, value? with
  | none, _ => .error (.invalid "an option is not known")
  | some flag, some value =>
    if flag.takesValue then return (← given.add flag value, rest)
    else .error (.invalid "an option takes no value")
  | some flag, none =>
    if flag.takesValue then given.addNext flag rest else return (← given.add flag "", rest)

/-- Adds the template. -/
def addTemplate (given : Given) (template : String) : Except Request Given :=
  if given.template.isSome then .error (.invalid "there is more than one template")
  else if template.isEmpty then .error (.invalid "the template has no name")
  else .ok { given with template := some template }

end Given

/-- The settings given at two stages; the later one counts where both give a path. -/
def settings (outer inner : Given) : Settings where
  path := inner.value? .path <|> outer.value? .path
  verbose := outer.has .verbose || inner.has .verbose
  noColor := outer.has .noColor || inner.has .noColor

/-- The request of all arguments together. -/
def finish (stage : Stage) (outer given : Given) : Request :=
  let action? := match stage, given.template with
    | .render, some template => some (.render template (given.value? .context) (given.has .keyed))
    | .check, some template => some (.check template)
    | .tokens, some template => some (.tokens template)
    | _, _ => none
  if stage ≠ .general && action?.isNone then .invalid "there is no template"
  else .run (settings outer given) action?

/-- The stage that follows the name of an action. -/
def Stage.ofName? : String → Option Stage
  | "render" => some .render
  | "check" => some .check
  | "tokens" => some .tokens
  | _ => none

/-- The request for help on an action. -/
def helpRequest (names : List String) : Request :=
  match names with
  | [] => .help
  | [name] =>
    if (Stage.ofName? name).isSome || name == "help" then .help
    else .invalid "the action is not known"
  | _ => .invalid "there are too many arguments"

/-- Reads arguments; each option takes one argument or two. -/
def readArguments : (fuel : Nat) → Stage → (outer given : Given) → List String →
    Except Request Request
  | 0, stage, outer, given, _ => .ok (finish stage outer given)
  | _, stage, outer, given, [] => .ok (finish stage outer given)
  | fuel + 1, stage, outer, given, argument :: rest => do
    match argument.toList with
    | ['-', '-'] =>
      if stage = .general then
        if rest.isEmpty then return finish stage outer given
        else .error (.invalid "there are too many arguments")
      -- After two hyphens nothing is an option any more.
      let given ← rest.foldlM Given.addTemplate given
      return finish stage outer given
    | '-' :: '-' :: option =>
      let (given, rest) ← Given.addLong stage given (String.ofList option) rest
      readArguments fuel stage outer given rest
    | '-' :: letter :: letters =>
      let (given, rest) ← Given.addLetters stage rest given (letter :: letters)
      readArguments fuel stage outer given rest
    | _ =>
      if stage ≠ .general then
        let given ← given.addTemplate argument
        readArguments fuel stage outer given rest
      -- Before the action a plain word names it.
      else if argument == "help" then return helpRequest rest
      else
        match Stage.ofName? argument with
        | some next => readArguments fuel next given {} rest
        | none => .error (.invalid "the action is not known")

/-- What the arguments ask for. -/
def Request.ofArguments (arguments : List String) : Request :=
  match readArguments (arguments.length + 1) .general {} {} arguments with
  | .ok request => request
  | .error request => request

end TagTemplate.Command
