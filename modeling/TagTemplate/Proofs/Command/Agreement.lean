import TagTemplate.Command
import TagTemplate.Proofs.Markup.Source

/-! The commands go through the same steps with a template, so they agree on what goes wrong
there. -/

namespace TagTemplate

/-- Whether a failure is told of the form of a template, after everything else was read. -/
def Failure.isTemplate : Failure → Bool
  | template _ => true
  | _ => false

namespace Command

/-- The text of a template, and the markup that the project of the template has for it. -/
def prepared (files : Files) (root : Option String) (template : String) :
    Except Failure (String × Markup) := do
  let source ← readTemplate files root template
  let written ← ConfigFile.load files root
  return (source, ← Markup.ofSource (written.getD {}))

/-- The tree of a template in the markup of its project. -/
def reading (files : Files) (root : Option String) (template : String) : Except Failure Tree := do
  let (source, markup) ← prepared files root template
  (Tree.parse source { Config.plain (fun text _ => text) with markup }).mapError Failure.template

/-- The code that a command exits with after some trouble. -/
def Trouble.exit (faultExit : Nat) : Trouble → Nat
  | .failure told => if told.isTemplate then faultExit else 2
  | .contextFile => 2

/-- The code of the failure that is told, if trouble has one. -/
def Trouble.code : Trouble → Option String
  | .failure told => some told.diagnostic.code
  | .contextFile => none

section Stages

variable (files : Files) (root : Option String) (template : String)

/-- The text of a configuration file is not told as a template that is not well formed. -/
theorem ofText_ne_template (text : String) (error : SyntaxError) :
    ConfigFile.ofText text ≠ .error (.template error) := by
  -- What is wrong with the file is told as a fault of the configuration, whether it is no TOML or
  -- no markup.
  unfold ConfigFile.ofText
  split
  · nofun
  · cases ConfigFile.markup _ <;> nofun

/-- A configuration file is not told as a template that is not well formed. -/
theorem load_ne_template (error : SyntaxError) :
    ConfigFile.load files root ≠ .error (.template error) := by
  -- There may be no file, or one that cannot be read; otherwise its text is at fault.
  unfold ConfigFile.load
  split
  · nofun
  · split
    · nofun
    · rw [ne_eq, ← failure?_eq_some_iff, failure?_map, failure?_eq_some_iff]
      exact ofText_ne_template _ error

/-- A written markup is not told as a template that is not well formed. -/
theorem ofSource_ne_template (source : MarkupSource) (error : SyntaxError) :
    Markup.ofSource source ≠ .error (.template error) := by
  intro failed
  rw [← failure?_eq_some_iff, Markup.failure?_ofSource] at failed
  obtain ⟨row, _, told⟩ := List.exists_of_findSome?_eq_some failed
  -- The row that fails is told as a pattern.
  obtain ⟨_, _, pattern⟩ := CategorySource.failure?_eq_some_iff.mp told
  cases pattern

/-- Nothing before a template is parsed is told as a template that is not well formed. -/
theorem prepared_ne_template (error : SyntaxError) :
    prepared files root template ≠ .error (.template error) := by
  -- Each of the three steps has failures of its own.
  have text : readTemplate files root template ≠ .error (.template error) := by
    unfold readTemplate
    split <;> nofun
  exact bind_ne_error text fun _ => bind_ne_error (load_ne_template files root error) fun _ =>
    bind_ne_error (ofSource_ne_template _ error) nofun

/-- What goes wrong before a template is parsed is what goes wrong at all, except for the form of
the template. -/
theorem failure?_prepared :
    failure? (prepared files root template) =
      (failure? (reading files root template)).filter fun failure => !failure.isTemplate := by
  unfold reading
  cases before : prepared files root template with
  | error failure =>
    -- The failure is told first, so it is no matter of form.
    cases failure with
    | template error => exact absurd before (prepared_ne_template files root template error)
    | _ => rfl
  | ok both =>
    obtain ⟨source, markup⟩ := both
    -- All is read, and parsing fails with nothing but the form.
    change none = (failure? ((Tree.parse source _).mapError Failure.template)).filter _
    rw [failure?_mapError]
    cases failure? (Tree.parse source _) <;> rfl

/-- Compiling a template goes wrong where reading its tree does, however text is wrapped. -/
theorem failure?_compileFile (keyed : Bool) :
    failure? (compileFile files root template keyed) = failure? (reading files root template) := by
  -- The steps are the same up to the configuration, of which a tree takes only the markup.
  have steps : compileFile files root template keyed = prepared files root template >>=
      fun (source, markup) => (Template.compile source
        { Config.plain (Json.ofTextRun keyed) with markup }).mapError Failure.template := by
    simp [compileFile, prepared, loadConfig, Config.ofSource, bind_assoc]
  rw [steps, reading]
  cases prepared files root template with
  | error failure => rfl
  | ok both =>
    obtain ⟨source, markup⟩ := both
    change failure? (Except.mapError _ _) = failure? (Except.mapError _ _)
    rw [failure?_mapError, failure?_mapError, Template.compile, failure?_map]
    rfl

/-- Checking a template goes wrong where reading its tree does. -/
theorem failure?_check (color : Bool) :
    failure? (check files root template color) = failure? (reading files root template) := by
  -- Whatever is printed behind the compiled template cannot fail.
  have told : failure? (check files root template color) =
      (failure? (compileFile files root template false)).or none := failure?_bind fun _ => rfl
  rw [told, Option.or_none, failure?_compileFile]

/-- Printing the tokens of a template goes wrong where reading its tree does, but for the form of
the template. -/
theorem failure?_tokens :
    failure? (tokens files root template) =
      (failure? (reading files root template)).filter fun failure => !failure.isTemplate := by
  -- The template is cut as soon as the markup is known, so it is never parsed.
  have steps : tokens files root template = prepared files root template >>=
      fun (source, markup) => return (Json.array
        ((tokenize markup.categories source).map tokenJson)).pretty "" ++ "\n" := by
    simp [tokens, prepared, loadConfig, Config.ofSource]
  have told : failure? (tokens files root template) =
      (failure? (prepared files root template)).or none := by
    rw [steps]
    exact failure?_bind fun _ => rfl
  rw [told, Option.or_none, failure?_prepared]

/-- Rendering a template goes wrong where reading its tree does, and then where reading the context
does. -/
theorem failure?_render (context : Option String) (keyed : Bool) :
    failure? (render files root template context keyed) =
      ((failure? (reading files root template)).map Trouble.failure).or
        (failure? (readContext files root context)) := by
  -- The template is compiled before the context is looked at.
  rw [← failure?_compileFile files root template keyed, ← failure?_mapError]
  refine failure?_bind fun template => ?_
  -- Nothing goes wrong with the output itself.
  rw [← Option.or_none (o := failure? (readContext files root context))]
  exact failure?_bind fun _ => rfl

/-- A context is read exactly if its file can be read and holds a JSON object. -/
theorem failure?_readContext_eq_none_iff (path : String) :
    failure? (readContext files root (some path)) = none ↔
      ∃ text members, files.readText? (Files.join root path) = some text ∧
        Json.ofText text = .ok (.object members) := by
  unfold readContext
  -- The file, its text and the kind of its value can each be at fault.
  cases held : files.readText? (Files.join root path) with
  | none => simp [failure?, held]
  | some text =>
    cases parsed : Json.ofText text with
    | error error => simp [failure?, held, parsed, bind, Except.bind, Except.mapError]
    | ok json =>
      cases json <;>
        simp [failure?, held, parsed, bind, Except.bind, Except.mapError, Json.context]

end Stages

/-- Whether an outcome exits and tells as some trouble does, or as none. -/
structure Outcome.Follows (outcome : Outcome) (faultExit : Nat) (trouble : Option Trouble) :
    Prop where
  exit : outcome.exit = (trouble.map (Trouble.exit faultExit)).getD 0
  code : outcome.code = trouble.bind Trouble.code
  /-- Output is given only by what exits with zero. -/
  output : outcome.exit = 0 ∨ outcome.output = ""

/-- An outcome follows the trouble that it is made of. -/
theorem follows_outcome (log : String) (color : Bool) (faultExit : Nat)
    (result : Except Trouble String) :
    (outcome log color faultExit result).Follows faultExit (failure? result) := by
  cases result with
  | ok output => exact ⟨rfl, rfl, .inl rfl⟩
  | error trouble =>
    cases trouble with
    | contextFile => exact ⟨rfl, rfl, .inr rfl⟩
    | failure told =>
      -- The form of a template has an exit of its own, so the kinds of failures are told apart.
      cases told <;> exact ⟨rfl, rfl, .inr rfl⟩

/-- An outcome exits with zero exactly if there is no trouble. -/
theorem Outcome.Follows.exit_eq_zero_iff {outcome : Outcome} {faultExit : Nat}
    {trouble : Option Trouble} (follows : outcome.Follows faultExit trouble)
    (set : faultExit ≠ 0) : outcome.exit = 0 ↔ trouble = none := by
  -- No trouble has zero as its code, if that of a template is none.
  rw [follows.exit]
  cases trouble with
  | none => simp
  | some trouble =>
    cases trouble with
    | contextFile => simp [Trouble.exit]
    | failure told => cases told <;> simp [Trouble.exit, Failure.isTemplate, set]

namespace Outcome.Follows

variable {read : Except Failure Tree} {checked rendered printed : Outcome}

/-- A rendering without a context fails where a check fails, and tells the same. -/
theorem render_agrees (render : rendered.Follows 2 ((failure? read).map .failure))
    (check : checked.Follows 1 ((failure? read).map .failure)) :
    (rendered.exit = 0 ↔ checked.exit = 0) ∧
      (rendered.exit = 0 ∨ rendered.exit = 2 ∧ rendered.code = checked.code) := by
  constructor
  · -- Both follow the same failure, which decides whether they exit with zero.
    rw [render.exit_eq_zero_iff (by decide), check.exit_eq_zero_iff (by decide)]
  · -- The code that is told does not depend on the code of the exit.
    rw [render.exit, render.code, check.code]
    cases failure? read with
    | none => exact .inl rfl
    | some failure => exact .inr ⟨by simp [Trouble.exit], rfl⟩

/-- Tokens are printed unless a check fails for another reason than the form of the template, and
then the same is told. -/
theorem tokens_agree
    (tokens : printed.Follows 2
      (((failure? read).filter fun failure => !failure.isTemplate).map .failure))
    (check : checked.Follows 1 ((failure? read).map .failure)) :
    (printed.exit = 0 ↔ (∃ tree, read = .ok tree) ∨ ∃ error, read = .error (.template error)) ∧
      (printed.exit = 0 ∨ printed.exit = 2 ∧ printed.code = checked.code) := by
  -- The form of the template is filtered out, so it is treated like a template that was read.
  rw [tokens.exit_eq_zero_iff (by decide), tokens.exit, tokens.code, check.code]
  cases read with
  | ok tree => exact ⟨by simp [failure?], .inl rfl⟩
  | error failure =>
    cases failure with
    | template error => exact ⟨by simp [failure?, Failure.isTemplate, Option.filter], .inl rfl⟩
    | _ => exact ⟨by simp [failure?, Failure.isTemplate, Option.filter], .inr ⟨rfl, rfl⟩⟩

end Outcome.Follows

section Agreement

variable (files : Files) (color : Bool) (settings : Settings) (template : String)

/-- A check follows what goes wrong on the way to the tree. -/
theorem follows_check :
    (Request.outcome files color (.run settings (some (.check template)))).Follows 1
      ((failure? (reading files settings.path template)).map .failure) := by
  -- The action of a request is the outcome of its command, for any colours.
  rw [← failure?_check files settings.path template (color && !settings.noColor),
    ← failure?_mapError]
  exact follows_outcome _ _ _ _

/-- The tokens follow what goes wrong on the way to the tree, but for the form of the template. -/
theorem follows_tokens :
    (Request.outcome files color (.run settings (some (.tokens template)))).Follows 2
      (((failure? (reading files settings.path template)).filter
        fun failure => !failure.isTemplate).map .failure) := by
  -- As for a check, with the code for all failures as that of a template.
  rw [← failure?_tokens, ← failure?_mapError]
  exact follows_outcome _ _ _ _

/-- A rendering follows what goes wrong on the way to the tree, and then to the context. -/
theorem follows_render (context : Option String) (keyed : Bool) :
    (Request.outcome files color (.run settings (some (.render template context keyed)))).Follows 2
      (((failure? (reading files settings.path template)).map .failure).or
        (failure? (readContext files settings.path context))) := by
  -- A rendering tells of the context file in its own way, so its trouble is taken as it is.
  rw [← failure?_render files settings.path template context keyed]
  exact follows_outcome _ _ _ _

/-- A rendering without a context follows what goes wrong on the way to the tree. -/
theorem follows_render_none (keyed : Bool) :
    (Request.outcome files color (.run settings (some (.render template none keyed)))).Follows 2
      ((failure? (reading files settings.path template)).map .failure) := by
  -- Without a context there is none to be read.
  have follows := follows_render files color settings template none keyed
  rwa [show failure? (readContext files settings.path none) = none from rfl, Option.or_none]
    at follows

/-- Where the tree cannot be read the context makes no difference. -/
theorem outcome_render_of_error {failure : Failure}
    (failed : reading files settings.path template = .error failure) (context : Option String)
    (keyed : Bool) :
    Request.outcome files color (.run settings (some (.render template context keyed))) =
      Request.outcome files color (.run settings (some (.render template none keyed))) := by
  have stopped (context : Option String) :
      render files settings.path template context keyed = .error (.failure failure) := by
    -- What goes wrong with the tree comes first, whatever would go wrong with the context.
    rw [← failure?_eq_some_iff, failure?_render, failed]
    rfl
  simp only [Request.outcome, stopped]

/-- Output is given only by what exits with zero. -/
theorem exit_eq_zero_or_output_eq (request : Request) :
    (request.outcome files color).exit = 0 ∨ (request.outcome files color).output = "" := by
  -- Only a command gives output of its own, and all commands make their outcomes in the same way.
  cases request with
  | version | help => exact .inl rfl
  | invalid reason => exact .inr rfl
  | run settings action =>
    cases action with
    | none => exact .inr rfl
    | some action => cases action <;> exact (follows_outcome _ _ _ _).output

/-- All actions depend on the same reading of the template, of the configuration of its project and
of its tree. A check exits with one for a template that is not well formed, with two for any other
failure, and tells its code. A rendering without a context succeeds exactly if the check does and
otherwise exits with two and tells the same code, with indices or without. The tokens are printed
also for a template that is not well formed, and otherwise fail in the same way. A context has to be
a file that is a JSON object, but it makes no difference where the tree cannot be read. There is no
output without success. -/
theorem actions_agree :
    let run (action : Action) := Request.outcome files color (.run settings (some action))
    let read := reading files settings.path template
    let checked := run (.check template)
    let printed := run (.tokens template)
    (checked.exit = match read with
      | .ok _ => 0
      | .error (.template _) => 1
      | .error _ => 2) ∧
    (checked.code = match read with
      | .ok _ => none
      | .error failure => some failure.diagnostic.code) ∧
    (∀ keyed, let rendered := run (.render template none keyed)
      (rendered.exit = 0 ↔ checked.exit = 0) ∧
      (rendered.exit = 0 ∨ rendered.exit = 2 ∧ rendered.code = checked.code)) ∧
    ((printed.exit = 0 ↔ (∃ tree, read = .ok tree) ∨ ∃ error, read = .error (.template error)) ∧
      (printed.exit = 0 ∨ printed.exit = 2 ∧ printed.code = checked.code)) ∧
    (∀ path keyed, let rendered := run (.render template (some path) keyed)
      (rendered.exit = 0 ↔ (∃ tree, read = .ok tree) ∧
        ∃ text members, files.readText? (Files.join settings.path path) = some text ∧
          Json.ofText text = .ok (.object members)) ∧
      ((∃ tree, read = .ok tree) ∨ rendered = run (.render template none keyed))) ∧
    ∀ request, (Request.outcome files color request).exit = 0 ∨
      (Request.outcome files color request).output = "" := by
  intro run read checked printed
  -- Each action follows what goes wrong with the tree, from which all of the rest is read off.
  have check : checked.Follows 1 ((failure? read).map .failure) :=
    follows_check files color settings template
  have tokens : printed.Follows 2 (((failure? read).filter _).map .failure) :=
    follows_tokens files color settings template
  have bare (keyed : Bool) :
      (run (.render template none keyed)).Follows 2 ((failure? read).map .failure) :=
    follows_render_none files color settings template keyed
  refine ⟨?_, ?_, fun keyed => (bare keyed).render_agrees check, tokens.tokens_agree check,
    fun path keyed => ⟨?_, ?_⟩, exit_eq_zero_or_output_eq files color⟩
  · -- The form of a template exits with one, any other failure with two.
    simp only [check.exit, read]
    cases reading files settings.path template with
    | ok tree => rfl
    | error failure => cases failure <;> rfl
  · simp only [check.code, read]
    cases reading files settings.path template <;> rfl
  · -- Nothing goes wrong on the way to the tree, and then nothing on the way to the context.
    have render := follows_render files color settings template (some path) keyed
    rw [render.exit_eq_zero_iff (by decide), Option.or_eq_none_iff, Option.map_eq_none_iff,
      failure?_eq_none_iff, failure?_readContext_eq_none_iff]
  · -- A tree that cannot be read is told before the context, so its file makes no difference.
    cases got : reading files settings.path template with
    | ok tree => exact .inl ⟨tree, got⟩
    | error failure =>
      exact .inr (outcome_render_of_error files color settings template got (some path) keyed)

/-- An element that is never closed is no fault of tokens, and it is told before the file of a
context is missed. -/
example :
    let files : Files := fun path => if path = "t" then some (.file "<b>".toUTF8) else none
    let run (action : Action) :=
      Request.outcome files false (.run ⟨none, false, false⟩ (some action))
    (run (.check "t")).exit = 1 ∧ (run (.tokens "t")).exit = 0 ∧
      (run (.render "t" (some "c") true)).code = some "rrtt::template_syntax" := by
  decide

end Agreement

end Command

end TagTemplate
