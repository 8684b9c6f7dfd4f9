import CookbookRules.Environment
import CookbookRules.RuleFile.Discovery
import CookbookRules.RuleFile.LoadError
import CookbookRules.Yaml.Document

/-!
# Loading rule files

Files are loaded in the order of their paths into one registry, and the first that fails ends the load.
A file is read, its text is parsed, its document is checked and its rules are declared; each step has
errors of its own.
-/

namespace CookbookRules.RuleFile

/-- Why loading a file fails: with a load error, or with a fault that no load error tells of. -/
inductive FileFailure
  | error (e : LoadError)
  | scalar (fault : Yaml.ScalarFault)
  | shape (fault : ShapeFault)
  | path (fault : ReadFault)
  | notWritable
  | raised (what : Raised)
  | exit (what : Raised)

/-- The wording of a failure. -/
def FileFailure.message : FileFailure → String
  | error e => e.text
  | scalar fault => fault.message
  | shape fault => fault.message
  | path fault => fault.message
  | notWritable => Value.notWritableMessage
  | raised what | exit what => what.message

/-- Why loading fails: a path cannot be resolved, or a file fails. -/
inductive LoadFailure
  | path (fault : ResolveFault)
  | file (failure : FileFailure)

/-- Reads the document of a file. -/
def readDocument (files : Files) (path : Path) : Except FileFailure Value :=
  let source := path.toString
  match files.read path with
  | .error .nullInPath => .error (.path .nullInPath)
  | .error fault => .error (.error ⟨source, .unreadable fault⟩)
  | .ok text =>
    match Yaml.read true text with
    | .ok document => .ok document
    | .error (.scalar fault) => .error (.scalar fault)
    | .error fault =>
      .error (.error ⟨source, .malformed ((fault.line? text.toList).map Int.ofNat)⟩)

/-- What a document fault means for the file. -/
def DocumentFault.failure (source : String) : DocumentFault → FileFailure
  | .schema violation => .error ⟨source, .refused violation⟩
  | .notWritable => .notWritable
  | .entry (.matcher code kind fault line) => .error ⟨source, .strategy code kind fault line⟩
  | .entry (.rule fault) => .error ⟨source, .rule fault⟩
  | .entry (.shape fault) => .shape fault
  | .entry (.raised what) => .raised what
  | .entry (.exit _ what) => .exit what

/-- Loads a file; the answer is the number of its rules. -/
def loadFile (env : Environment) (path : Path) (registry : Registry) :
    Registry × Except FileFailure Nat :=
  match readDocument env.files path with
  | .error failure => (registry, .error failure)
  | .ok document =>
    let source := path.toString
    match compileDocument env.catalog document source registry with
    | (declared, .ok count) => (declared.note (.fileLoaded count source), .ok count)
    | (declared, .error fault) => (declared, .error (fault.failure source))

/-- Loads files one after the other. -/
def loadFiles (env : Environment) : List Path → Registry → Registry × Except FileFailure Unit
  | [], registry => (registry, .ok ())
  | path :: rest, registry =>
    match loadFile env path registry with
    | (loaded, .ok _) => loadFiles env rest loaded
    | (loaded, .error failure) => (loaded, .error failure)

/-- Loads the files of all paths into a new registry. The registry of a failed load is answered too, for
its notes. -/
def loadRegistry (env : Environment) (paths : List Path) : Registry × Except LoadFailure Unit :=
  let (notes, resolved) := resolve env.files ruleFileEndings paths
  let fresh : Registry := { Registry.empty with notes := notes }
  match resolved with
  | .error fault => (fresh, .error (.path fault))
  | .ok files =>
    match loadFiles env files fresh with
    | (loaded, .error failure) => (loaded, .error (.file failure))
    | (loaded, .ok ()) =>
      (loaded.note (.allLoaded loaded.listed.length files.length), .ok ())

/-- Takes the warnings on codes that are declared more than once. -/
def noteDuplicates (registry : Registry) : Registry :=
  { registry with notes := registry.notes ++ registry.duplicateNotes }

end CookbookRules.RuleFile
