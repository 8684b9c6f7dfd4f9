import CookbookRules.Environment
import CookbookRules.Note
import CookbookRules.Value.Printer
import CookbookRules.Yaml.Document

/-!
# Configuration

A project can have a configuration file: rule paths, tag expressions, and whether the bundled rules are
used. Rule paths are seen from the file's directory, or from a home directory where they begin with a
tilde. Without a file the defaults hold, unless the file was asked for by name.
-/

namespace CookbookRules

/-- What rules to load and which of them to select. -/
structure Config where
  rulePaths : List Path
  tags : List String
  includeBundled : Bool
  deriving DecidableEq, Repr

namespace Config

/-- The name of a project's configuration file. -/
def fileName : String := "cookcritic.yaml"

/-- The configuration of a project without a file. -/
def default : Config := ⟨[], [], true⟩

/-- The rule paths to load, the bundled ones first. -/
def effectivePaths (env : Environment) (config : Config) : List Path :=
  if config.includeBundled then env.bundled :: config.rulePaths else config.rulePaths

/-- What is wrong with a configuration. -/
inductive Fault
  | notFound (path : String)
  | malformed (path : String)
  | notMapping (path : String)
  | unknownKeys (path : String) (keys : List Value)
  | bundledNotBool
  | notTexts (key : String)

/-- The wording of a fault. -/
def Fault.message : Fault → String
  | notFound path => s!"Config file not found: {path}"
  | malformed path => s!"Invalid YAML config file at {path}: {Yaml.malformedWording}"
  | notMapping path => s!"Config file at {path} must be a YAML mapping"
  | unknownKeys path keys =>
    let form := Value.listForm (Value.sortByText keys)
    s!"Unknown config keys in {path}: {form}"
  | bundledNotBool => "include_bundled must be a boolean"
  | notTexts key => s!"{key} must be a list of non-empty strings"

/-- Why a configuration cannot be loaded: it is wrong, or it cannot be read or found at all. -/
inductive Failure
  | invalid (fault : Fault)
  | read (fault : ReadFault)
  | scalar (fault : Yaml.ScalarFault)
  | noHome
  | notWritable

/-- The wording of a failure. -/
def Failure.message : Failure → String
  | invalid fault => fault.message
  | read fault => fault.message
  | scalar fault => fault.message
  | noHome => "Could not determine home directory."
  | notWritable => Value.notWritableMessage

/-- The keys of a configuration. -/
def allowedKeys : List String := ["rule_paths", "tags", "include_bundled"]

/-- The text of an item that is a text with a character that is not blank, without the blanks around it. -/
def filledText? (item : Value) : Option String :=
  match item.asText? with
  | some s => if Text.allBlank s then none else some (Text.trim s)
  | none => none

/-- The texts under a key; nothing is none. -/
def texts (document : Value) (key : String) : Except Fault (List String) :=
  match (document.get? key).getD (.list []) with
  | .none => .ok []
  | .list items =>
    match items.mapM filledText? with
    | some all => .ok all
    | none => .error (.notTexts key)
  | _ => .error (.notTexts key)

/-- The home directory that a component with a leading tilde names. What begins with a tilde is none. -/
def homeOf (env : Environment) (component : String) : Option String :=
  let named :=
    if component = "~" then some env.home
    else env.users.lookup (String.ofList (component.toList.drop 1))
  named.filter fun home => !home.startsWith "~"

/-- Replaces a tilde at the beginning of a relative path by the home directory. -/
def expandHome (env : Environment) (path : Path) : Except Failure Path :=
  match path.anchor, path.parts with
  | .relative, first :: rest =>
    if !first.startsWith "~" then .ok path
    else if first.contains '\x00' then .error (.read .nullInPath)
    else
      match homeOf env first with
      | some home => .ok ((Path.ofString home).descend rest)
      | none => .error .noHome
  | _, _ => .ok path

/-- The path of an entry, seen from a directory. -/
def resolveEntry (env : Environment) (base : Path) (entry : String) : Except Failure Path :=
  base.join <$> expandHome env (Path.ofString entry)

/-- Whether the bundled rules are used. -/
def bundledSwitch (document : Value) : Except Fault Bool :=
  match document.get? "include_bundled" with
  | none => .ok true
  | some (.bool b) => .ok b
  | some _ => .error .bundledNotBool

/-- The configuration that a document of a file stands for. -/
def ofDocument (env : Environment) (path : Path) (document : Value) : Except Failure Config := do
  let document := if document matches .none then .map .plain [] else document
  if !document.isMap then throw (.invalid (.notMapping path.toString))
  let unknown := document.keysOutside allowedKeys
  if !unknown.isEmpty then
    throw
      (if unknown.all Value.isWritable then .invalid (.unknownKeys path.toString unknown)
        else .notWritable)
  let includeBundled ← (bundledSwitch document).mapError .invalid
  let entries ← (texts document "rule_paths").mapError .invalid
  let rulePaths ← entries.mapM (resolveEntry env path.parent)
  let tags ← (texts document "tags").mapError .invalid
  pure ⟨rulePaths, tags, includeBundled⟩

/-- The document of a file. -/
def readDocument (env : Environment) (path : Path) : Except Failure Value := do
  let text ← (env.files.read path).mapError .read
  match Yaml.read false text with
  | .ok document => pure document
  | .error (.scalar fault) => throw (.scalar fault)
  | .error _ => throw (.invalid (.malformed path.toString))

/-- The configuration file of a project, or the one asked for. -/
def pathOf (env : Environment) (root : Path) (asked : Option Path) : Path :=
  match asked with
  | some path => Path.resolve env.files.here path
  | none => (Path.resolve env.files.here root).descend [fileName]

/-- Loads the configuration of a project, with a note if it has a file. The root is looked at even where
a file is asked for by name. -/
def load (env : Environment) (root : Path) (asked : Option Path) :
    Except Failure (Config × List Note) := do
  if (root :: asked.toList).any Path.hasNull then throw (.read .nullInPath)
  let path := pathOf env root asked
  if ← (env.files.exists? path).mapError .read then
    let config ← ofDocument env path (← readDocument env path)
    pure (config, [.configLoaded path.toString])
  else if asked.isSome then throw (.invalid (.notFound path.toString))
  else pure (default, [])

end Config

end CookbookRules
