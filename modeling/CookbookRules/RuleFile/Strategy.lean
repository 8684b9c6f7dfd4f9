import CookbookRules.Files.WindowsPath
import CookbookRules.Rule.Matcher

/-!
# Strategies

The four ways in which a rule file can describe a matcher, each with the kinds it serves and the keys it
takes, and how a description becomes a matcher. A description need not have been checked before: what is
missing or of the wrong type is a fault of its shape, and only what the file's author can have meant is a
fault of the strategy.
-/

namespace CookbookRules.RuleFile

/-- A way to describe a matcher. -/
inductive Strategy
  | callable
  | missingFile
  | fileExists
  | glob
  deriving DecidableEq, Repr

namespace Strategy

/-- All strategies, by name in ascending order. -/
def all : List Strategy := [.callable, .fileExists, .glob, .missingFile]

/-- The name of a strategy in rule files. -/
def name : Strategy → String
  | callable => "callable"
  | missingFile => "missing_file"
  | fileExists => "file_exists"
  | glob => "glob"

/-- The strategy of a name. -/
def ofName? (name : String) : Option Strategy :=
  all.find? (·.name == name)

/-- Whether a strategy makes matchers of a kind: looking at files needs a whole cookbook. -/
def supports : Strategy → Kind → Bool
  | callable, _ => true
  | _, kind => kind = .cookbook

/-- The key that a description must have beside the strategy. -/
def requiredKey : Strategy → String
  | callable => "target"
  | missingFile | fileExists => "path"
  | glob => "pattern"

/-- The keys that a description may have beside the strategy. -/
def allowedKeys : Strategy → List String
  | callable => ["target", "options"]
  | other => [other.requiredKey]

end Strategy

/-- Why a strategy cannot be carried out. -/
inductive StrategyFault
  | badTarget (given : String)
  | importFailed (name : String) (fault : ImportFault)
  | noSuchMember (name path : String)
  | notCallable (given : String)
  | notRelative (key given : String)
  | leavesCookbook (key given : String)
  deriving DecidableEq, Repr

/-- The wording of a failed import. -/
def importMessage (name : String) (fault : ImportFault) : String :=
  let cannot := s!"cannot import module {Text.quoted name}: "
  let failed := s!"importing {Text.quoted name} failed: "
  match fault with
  | .absent missing => cannot ++ s!"No module named {Text.quoted missing}"
  | .notPackage missing parent =>
    cannot ++ s!"No module named {Text.quoted missing}; {Text.quoted parent} is not a package"
  | .relative given =>
    failed ++ "TypeError: the 'package' argument is required to perform a relative import for " ++
      Text.quoted given
  | .unimportable message => cannot ++ message
  | .raised what => failed ++ what.typeName ++ ": " ++ what.message

/-- The wording of a fault. -/
def StrategyFault.message : StrategyFault → String
  | badTarget given => s!"target must look like 'package.module:function', got {given}"
  | importFailed name fault => importMessage name fault
  | noSuchMember name path => s!"module {Text.quoted name} has no attribute {Text.quoted path}"
  | notCallable given => s!"target {given} is not callable"
  | notRelative key given => s!"{key} must be relative to the cookbook, got {given}"
  | leavesCookbook key given => s!"{key} must not contain '..' segments, got {given}"

/-- What is wrong with the shape of a value that a description or an entry was expected in. -/
inductive ShapeFault
  | noKey (given : String)
  | notIndexable (value : Value)
  | noAttribute (typeName name : String)
  | unhashable (typeName : String)
  | notText
  | notPath (fault : Matcher.Fault)
  | optionsNotMapping (typeName : String)

/-- The wording for a value that has no keys. -/
def notIndexableMessage : Value → String
  | .list _ => "list indices must be integers or slices, not str"
  | .tuple _ => "tuple indices must be integers or slices, not str"
  | .bytes _ => "byte indices must be integers or slices, not str"
  | .text _ | .brokenText _ | .kind _ => "string indices must be integers, not 'str'"
  | v => s!"'{v.longTypeName}' object is not subscriptable"

/-- The wording of a fault; a missing key is only quoted. -/
def ShapeFault.message : ShapeFault → String
  | noKey given => given
  | notIndexable value => notIndexableMessage value
  | noAttribute typeName name => s!"'{typeName}' object has no attribute '{name}'"
  | unhashable typeName => s!"unhashable type: '{typeName}'"
  | notText => "a bytes-like object is required, not 'str'"
  | notPath fault => fault.message
  | optionsNotMapping typeName =>
    s!"functools.partial() argument after ** must be a mapping, not {typeName}"

/-- Why a description gives no matcher. An escape is what the code of a target raises. -/
inductive DescriptionFault
  | strategy (fault : StrategyFault)
  | shape (fault : ShapeFault)
  | escape (escape : Escape)

/-- The value under a key of a mapping that must have it. -/
def require (key : String) (v : Value) : Except ShapeFault Value :=
  match v with
  | .map .. =>
    match v.get? key with
    | some value => .ok value
    | none => .error (.noKey (Text.quoted key))
  | other => .error (.notIndexable other)

/-! ## Targets -/

/-- The two parts of a target around its first colon, if there are two. -/
def splitTarget? (target : String) : Option (String × String) :=
  let cs := target.toList
  let name := cs.takeWhile (· != ':')
  let path := (cs.dropWhile (· != ':')).drop 1
  if name.isEmpty || path.isEmpty then none else some (String.ofList name, String.ofList path)

/-- What a target names. An error of its module is a fault of the strategy; only an exit, or what the look-up
of a name raises, is handed on. -/
def findTarget (catalog : Catalog) (target given : String) : Except DescriptionFault Entity :=
  match splitTarget? target with
  | none => .error (.strategy (.badTarget given))
  | some (name, path) =>
    match catalog.importModule name with
    | .error (.fault fault) => .error (.strategy (.importFailed name fault))
    | .error (.exit what) => .error (.escape (.exit what))
    | .ok entity =>
      match entity.follow (Text.pieces '.' path) with
      | .ok (some found) => .ok found
      | .ok none => .error (.strategy (.noSuchMember name path))
      | .error escape => .error (.escape escape)

/-- The function that a target names. -/
def findFunction (catalog : Catalog) (target given : String) : Except DescriptionFault Callable := do
  match (← findTarget catalog target given).asCallable? with
  | some function => pure function
  | none => throw (.strategy (.notCallable given))

/-- The text of a target. -/
def targetText : Value → Except ShapeFault String
  | .bytes _ => .error .notText
  | v =>
    match v.asText? with
    | some s => .ok s
    | none => .error (.noAttribute v.longTypeName "partition")

/-- The options of a description; what counts as false is no options. -/
def optionEntries (description : Value) : Except ShapeFault (List (Value × Value)) :=
  match description.get? "options" with
  | none => .ok []
  | some options =>
    if options.isTruthy then
      match options.entries? with
      | some entries => .ok entries
      | none => .error (.optionsNotMapping options.longTypeName)
    else .ok []

/-! ## Paths inside a cookbook -/

/-- Accepts a path that cannot lead out of a cookbook, in whichever of the two ways it is read. -/
def insideCookbook (key : String) (given : Value) : Except DescriptionFault String := do
  let text ← (Matcher.pathText given).mapError fun fault => .shape (.notPath fault)
  let path := Path.ofString text
  let windows := WindowsPath.ofString text
  if path.isAbsolute || windows.isAnchored then
    throw (.strategy (.notRelative key given.form))
  if path.parts.contains ".." || windows.parts.contains ".." then
    throw (.strategy (.leavesCookbook key given.form))
  pure text

/-! ## Matchers -/

/-- The matcher that a strategy makes of a description. -/
def Strategy.build (catalog : Catalog) (description : Value) (strategy : Strategy) :
    Except DescriptionFault Matcher := do
  let key := strategy.requiredKey
  let given ← (require key description).mapError .shape
  match strategy with
  | .callable => do
    let target ← (targetText given).mapError .shape
    let function ← findFunction catalog target given.form
    let options ← (optionEntries description).mapError .shape
    pure (.callable target function options)
  | .missingFile => Matcher.missingFile <$> insideCookbook key given
  | .fileExists => Matcher.fileExists <$> insideCookbook key given
  | .glob => Matcher.glob <$> insideCookbook key given

/-- The strategy that a description asks for. -/
def strategyOf (description : Value) : Except ShapeFault Strategy := do
  let name ← require "strategy" description
  if let some part := name.unhashable? then throw (.unhashable part.longTypeName)
  match name.asText?.bind Strategy.ofName? with
  | some strategy => pure strategy
  | none => throw (.noKey name.form)

/-- The matcher that a description stands for. -/
def buildMatcher (catalog : Catalog) (description : Value) : Except DescriptionFault Matcher := do
  let strategy ← (strategyOf description).mapError .shape
  strategy.build catalog description

end CookbookRules.RuleFile
