import CookbookRules.CommandLine.Arguments
import CookbookRules.Config
import CookbookRules.RuleFile.Validation
import CookbookRules.Rule.Listing

/-!
# Running a command line

What the program writes and how it ends. The configuration of the project and the flags together say
which rules are loaded and selected. Errors of the configuration and of the rule files end the program
with a message; a failure that is neither ends it as it is.
-/

namespace CookbookRules.CommandLine

/-- How a run ends: with an exit code, or with a failure that the program does not report, among them that
the value of a flag is used that was dropped. The exit of a module is such a failure too, and not the exit code
of the program. -/
inductive Ending
  | exit (code : Nat)
  | config (failure : Config.Failure)
  | file (failure : RuleFile.FileFailure)
  | dropped (flag : Flag)

/-- The wording for a flag whose value was dropped: a list stands where a path or a text should. -/
def droppedMessage : Flag → String
  | .root => "'list' object has no attribute 'resolve'"
  | .tags => "'list' object has no attribute 'split'"
  | _ => "expected str, bytes or os.PathLike object, not list"

/-- What a run writes, and how it ends. -/
structure Outcome where
  output : String
  errors : String
  ending : Ending

/-- Notes as they are written: warnings always, details if they are asked for. -/
def noteLines (verbose : Bool) (notes : List Note) : String :=
  let shown := notes.filter fun note => verbose || note.level = .warning
  Level.paragraph (shown.map Note.line)

/-- The values before the first that was dropped. -/
def firstGiven {α : Type} : List (Given α) → List α
  | some value :: rest => value :: firstGiven rest
  | _ => []

/-- Whether a value was dropped. -/
def anyDropped {α : Type} (values : List (Given α)) : Bool := values.any Option.isNone

/-- Why there are no rules to work on. -/
inductive Trouble
  | config (failure : Config.Failure)
  | load (failure : RuleFile.LoadFailure)
  | dropped (flag : Flag)

/-- The configuration of the project. A configuration file that was asked for, but whose path was dropped,
is the one of the project, which then has to be there. -/
def projectConfig (env : Environment) (settings : Settings) : Except Trouble (Config × List Note) := do
  let some root := settings.root | throw (.dropped .root)
  let loaded ← (Config.load env root settings.config.join).mapError .config
  if settings.config = some none then
    let path := Config.pathOf env root none
    let there ← (env.files.exists? path).mapError fun fault => .config (.read fault)
    if !there then throw (.config (.invalid (.notFound path.toString)))
  pure loaded

/-- The configuration of the project, completed by the flags up to the first value that was dropped. -/
def effectiveConfig (env : Environment) (settings : Settings) : Except Trouble (Config × List Note) := do
  let (config, notes) ← projectConfig env settings
  pure
    (⟨config.rulePaths ++ firstGiven settings.included, config.tags ++ firstGiven settings.tags,
      config.includeBundled && !settings.noBundled⟩, notes)

/-- Loads the rules of a configuration. Where a path was dropped, those before it are still looked up. -/
def loadRules (env : Environment) (settings : Settings) (config : Config) :
    Registry × Except Trouble Unit :=
  let paths := config.effectivePaths env
  if anyDropped settings.included then
    let (notes, resolved) := RuleFile.resolve env.files RuleFile.ruleFileEndings paths
    let trouble :=
      match resolved with
      | .error fault => .load (.path fault)
      | .ok _ => .dropped .included
    ({ Registry.empty with notes := notes }, .error trouble)
  else
    let (registry, loaded) := RuleFile.loadRegistry env paths
    (registry, loaded.mapError .load)

/-- The rules that are selected. An expression that was dropped matters as soon as a rule meets all those
before it. -/
def selectRules (settings : Settings) (config : Config) (rules : List Rule) :
    Except Trouble (List Rule) :=
  let selected := Rule.select config.tags rules
  if anyDropped settings.tags && !selected.isEmpty then .error (.dropped .tags) else .ok selected

/-- The end of a run without rules to work on, after its notes. -/
def failed (log : String) : Trouble → Outcome
  | .config (.invalid fault) => ⟨"", s!"{log}Configuration error: {fault.message}\n", .exit 2⟩
  | .config other => ⟨"", log, .config other⟩
  | .load (.path (.nothing path)) =>
    ⟨"", s!"{log}Rule load error: {RuleFile.pathMessage path}\n", .exit 2⟩
  | .load (.path (.unreadable fault)) => ⟨"", log, .file (.path fault)⟩
  | .load (.file (.error e)) => ⟨"", s!"{log}Rule load error: {e.text}\n", .exit 2⟩
  | .load (.file other) => ⟨"", log, .file other⟩
  | .dropped flag => ⟨"", log, .dropped flag⟩

/-- The text of a listing in a form. -/
def listing (form : ListingForm) (rules : List Rule) : String :=
  match form with
  | .text => Listing.text rules
  | .json => Listing.json rules

/-- Lists the rules that are loaded and selected. -/
def runRules (env : Environment) (settings : Settings) : Outcome :=
  let log := noteLines settings.verbose
  match effectiveConfig env settings with
  | .error trouble => failed "" trouble
  | .ok (config, notes) =>
    match loadRules env settings config with
    | (tried, .error trouble) => failed (log (notes ++ tried.notes)) trouble
    | (registry, .ok ()) =>
      let rules := registry.rules
      let warned := notes ++ (RuleFile.noteDuplicates registry).notes
      match selectRules settings config rules with
      | .error trouble => failed (log warned) trouble
      | .ok selected =>
        ⟨listing settings.form selected ++ "\n",
          log (warned ++ [.selected selected.length rules.length]), .exit 0⟩

/-- Reports the problems of rule files. -/
def runValidate (env : Environment) (settings : Settings) : Outcome :=
  let (notes, result) := RuleFile.validate env settings.paths
  let log := noteLines settings.verbose notes
  match result with
  | .error failure => ⟨"", log, .file failure⟩
  | .ok [] => ⟨"Rule files are valid.\n", log, .exit 0⟩
  | .ok problems =>
    let report := Problem.report problems
    ⟨"", s!"{log}{report}\n\n{problems.length} error(s) found\n", .exit 1⟩

/-- Opens the rule shell, whose input is at its end at once. -/
def runShell (env : Environment) (settings : Settings) : Outcome :=
  let log := noteLines settings.verbose
  match effectiveConfig env settings with
  | .error trouble => failed "" trouble
  | .ok (config, notes) =>
    match loadRules env settings config with
    | (tried, .error trouble) => failed (log (notes ++ tried.notes)) trouble
    | (registry, .ok ()) =>
      let before := log (notes ++ registry.notes ++ [.shellOpened registry.rules.length])
      let after := log registry.duplicateNotes
      ⟨">>> ", before ++ shellBanner ++ "\n" ++ after, .exit 0⟩

/-- Runs a command line that was read. -/
def runRequest (env : Environment) (request : Request) : Outcome :=
  match request.command with
  | .rules => runRules env request.settings
  | .validateRules => runValidate env request.settings
  | .shell => runShell env request.settings

/-- What is written where a command line ends before anything is run. -/
def stopped : Stop → Outcome
  | .fault level fault =>
    ⟨"", s!"{level.usage}{level.program}: error: {fault.message}\n", .exit 2⟩
  | .help level => ⟨level.help, "", .exit 0⟩
  | .version => ⟨versionLine, "", .exit 0⟩

/-- Runs a command line. -/
def run (env : Environment) (words : List String) : Outcome :=
  match readArguments words with
  | .ok request => runRequest env request
  | .error stop => stopped stop

end CookbookRules.CommandLine
