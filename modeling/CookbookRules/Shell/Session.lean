import CookbookRules.Rule.Listing
import CookbookRules.Shell.Command

/-!
# Sessions of the rule shell

A session runs commands on one registry and keeps the builders of the rules declared in it. Each command
is recorded when it is completed, with the codes and the current rule of that moment, so the commands of
a body are recorded before the declaration around them. A body that fails abandons its declaration; an
interrupt leaves the declaration as it is, neither listed nor abandoned. A load can open the shell on its
rules; what is declared there is answered with them.
-/

namespace CookbookRules.Shell

/-- A command that was completed. -/
structure Step where
  result : Except Failure Answer
  codes : List String
  current : Option String

/-- A registry, the rules of the builders so far, and the commands completed so far. -/
structure Session where
  registry : Registry
  builders : List RuleId
  steps : List Step

namespace Session

/-- A session on a registry. -/
def start (registry : Registry) : Session := ⟨registry, [], []⟩

/-- A session on the rules that were loaded, with the note that it was opened. -/
def opened (registry : Registry) : Session :=
  start (registry.note (.shellOpened registry.rules.length))

/-- A session with a changed registry. -/
def withRegistry (registry : Registry) (s : Session) : Session := { s with registry := registry }

/-- Records the result of a command. -/
def record (result : Except Failure Answer) (s : Session) : Session :=
  let current := s.registry.currentRule?.map (·.code)
  { s with steps := s.steps ++ [⟨result, s.registry.codes, current⟩] }

/-- The rule of a builder. -/
def builder? (index : Int) (s : Session) : Option Rule :=
  (item? s.builders index).bind s.registry.rule?

/-- The answer that a rule was declared, with the builder at the end of the list. -/
def declaredAnswer (rule : Rule) (s : Session) : Session × Except Failure Answer :=
  (s, .ok (.declared (s.builders.length - 1) (builderForm rule)))

/-- Declares a rule that has no body. -/
def declare (rule : Rule) (s : Session) : Session × Except Failure Answer :=
  let (id, registry) := s.registry.declare rule
  declaredAnswer rule { s with registry := registry, builders := s.builders ++ [id] }

/-- Declares a rule whose body fails at once. -/
def declareFailing (rule : Rule) (failure : Failure) (s : Session) :
    Session × Except Failure Answer :=
  let (declaration, registry) := s.registry.begin rule
  (s.withRegistry (registry.abandon declaration), .error failure)

/-- Declares a rule whose body is a value: nothing, a function, or something that cannot be called. -/
def declareGiven (rule : Rule) (body : Value) (s : Session) : Session × Except Failure Answer :=
  match body with
  | .none | .function _ (.returns _) | .function _ .echo => s.declare rule
  | .function _ (.fails message) => s.declareFailing rule (.raised message)
  | other => s.declareFailing rule (.bodyNotCallable other.longTypeName)

/-- Ends a declaration whose body has run. -/
def finish (declaration : Declaration) (index : Nat) (rule : Rule) (failure : Option Failure)
    (s : Session) : Session × Except Failure Answer :=
  match failure with
  | none =>
    (s.withRegistry (s.registry.complete declaration), .ok (.declared index (builderForm rule)))
  | some failure =>
    if failure.isInterrupt then (s, .error failure)
    else (s.withRegistry (s.registry.abandon declaration), .error failure)

/-- Changes the rule that a target names. -/
def change (target : Target) (f : Rule → Except Rule.Fault Rule) (answer : Answer) (s : Session) :
    Session × Except Failure Answer :=
  let changed :=
    match target with
    | .current => (s.registry.modifyCurrent f).mapError Failure.rule
    | .builder index =>
      match item? s.builders index with
      | some id => (s.registry.modify id f).mapError Failure.rule
      | none => .error .noSuchIndex
  match changed with
  | .ok registry => (s.withRegistry registry, .ok answer)
  | .error failure => (s, .error failure)

/-- Answers about the rule of a builder. -/
def askBuilder (index : Int) (answer : Rule → Answer) (s : Session) :
    Session × Except Failure Answer :=
  match s.builder? index with
  | some rule => (s, .ok (answer rule))
  | none => (s, .error .noSuchIndex)

/-- Runs the matcher of a listed rule. -/
def runMatcher (env : Environment) (index : Int) (kind artifact : Value) (rules : List Rule) :
    Except Failure Finding := do
  match item? rules index with
  | none => throw .noSuchIndex
  | some rule => do
    let kind ← (Rule.kindOf kind).mapError .rule
    (rule.run env.files kind artifact).mapError .matcher

/-- The first rule with a code. -/
def findAnswer (code : Value) (registry : Registry) : Answer :=
  match code.asText?.bind registry.find? with
  | some (index, rule) => .place index rule.name
  | none => .nothing

/-- Compiles an entry that was not checked before and declares its rule. -/
def compileEntry (env : Environment) (entry : Value) (source : String) (s : Session) :
    Session × Except Failure Answer :=
  match RuleFile.compileEntry env.catalog source entry with
  | .ok rule => (s.withRegistry (s.registry.declare rule).2, .ok (.text (builderForm rule)))
  | .error fault => (s.withRegistry (fault.leave s.registry), .error (.entry fault))

/-- Takes over a registry and the number of rules that were declared on it. -/
def counted {α : Type} (failure : α → Failure) (outcome : Registry × Except α Nat) (s : Session) :
    Session × Except Failure Answer :=
  (s.withRegistry outcome.1, (outcome.2.map Answer.count).mapError failure)

mutual

/-- Carries out a command. -/
def perform (env : Environment) (s : Session) : Command → Session × Except Failure Answer
  | .rule heading =>
    match Rule.create heading.code heading.name heading.source heading.line with
    | .ok rule => s.declare rule
    | .error fault => (s, .error (.rule fault))
  | .ruleWith heading body =>
    match Rule.create heading.code heading.name heading.source heading.line with
    | .error fault => (s, .error (.rule fault))
    | .ok rule =>
      let (declaration, registry) := s.registry.begin rule
      let inside := { s with registry := registry, builders := s.builders ++ [declaration.id] }
      let (after, failure) := performBody env inside body
      after.finish declaration s.builders.length rule failure
  | .ruleGiven heading body =>
    match Rule.create heading.code heading.name heading.source heading.line with
    | .ok rule => s.declareGiven rule body
    | .error fault => (s, .error (.rule fault))
  | .raise message => (s, .error (.raised message))
  | .interrupt => (s, .error .interrupted)
  | .tags target tags =>
    s.change target (·.addTags tags) (if target = .current then .nothing else .chained)
  | .matcher target kind callback =>
    let answer := ((Matcher.ofValue? callback).map Answer.callback).getD .nothing
    s.change target (·.setMatcher kind callback) answer
  | .builderForm index => s.askBuilder index fun rule => .text (builderForm rule)
  | .showBuilder index => s.askBuilder index .rule
  | .showRules => (s, .ok (.rules s.registry.rules))
  | .find code => (s, .ok (findAnswer code s.registry))
  | .duplicates => (s, .ok (.texts s.registry.duplicateCodes))
  | .count => (s, .ok (.count s.registry.rules.length))
  | .names => (s, .ok (.texts (s.registry.rules.map (·.name))))
  | .clearCopy => (s, .ok .nothing)
  | .runMatcher index kind artifact =>
    (s, (runMatcher env index kind artifact s.registry.rules).map .finding)
  | .select expressions =>
    (s, .ok (.texts ((Rule.select expressions s.registry.rules).map (·.code))))
  | .listingText => (s, .ok (.text (Listing.text s.registry.rules)))
  | .listingJson => (s, .ok (.text (Listing.json s.registry.rules)))
  | .loadFile path =>
    s.counted .file (RuleFile.loadFile env (Path.ofString path) s.registry)
  | .compileDocument document source =>
    s.counted .document (RuleFile.compileDocument env.catalog document source s.registry)
  | .compileEntry entry source => s.compileEntry env entry source
  | .catching command => perform env s command

/-- Carries out the commands of a body, each recorded, up to the first whose failure is not caught. -/
def performBody (env : Environment) (s : Session) : List Command → Session × Option Failure
  | [] => (s, none)
  | command :: rest =>
    let (after, result) := perform env s command
    let recorded := after.record result
    match result with
    | .ok _ => performBody env recorded rest
    | .error failure =>
      if command.catches then performBody env recorded rest else (recorded, some failure)

end

/-- Runs the commands of a program, each recorded; failures do not end it. -/
def run (env : Environment) (s : Session) (program : List Command) : Session :=
  program.foldl (fun s command => let (after, result) := s.perform env command; after.record result) s

end Session

/-! ## Loading -/

/-- The session in which a load ends: that of the shell, if there are commands for it. -/
def sessionOn (env : Environment) (loaded : Registry) : Option (List Command) → Session
  | some commands => (Session.opened loaded).run env commands
  | none => Session.start loaded

/-- Loads the rules of paths. The shell is open on them, if there are commands for it, before codes that are
declared more than once are warned of and the rules are answered. -/
def loadRules (env : Environment) (paths : List Path) (commands : Option (List Command)) :
    Session × Except RuleFile.LoadFailure (List Rule) :=
  match RuleFile.loadRegistry env paths with
  | (tried, .error failure) => (Session.start tried, .error failure)
  | (loaded, .ok ()) =>
    let ended := sessionOn env loaded commands
    let warned := RuleFile.noteDuplicates ended.registry
    (ended.withRegistry warned, .ok warned.rules)

end CookbookRules.Shell
