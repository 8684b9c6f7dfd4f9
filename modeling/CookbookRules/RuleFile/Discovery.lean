import CookbookRules.Files.Glob
import CookbookRules.Note
import CookbookRules.Text.Lowercase

/-!
# Finding rule files

The rule files that a list of paths stands for. A file stands for itself, whatever its name; a directory
stands for the rule files at any depth below it in the order of their paths, without those that are
hidden. To find them, everything below the directory is looked up.
-/

namespace CookbookRules.RuleFile

/-- The endings of rule files. -/
def ruleFileEndings : List String := [".yaml", ".yml"]

/-- Whether a name begins with a dot. -/
def isHidden (name : String) : Bool := name.startsWith "."

/-- Whether components lead to a rule file that is not hidden. -/
def isRuleFile (endings : List String) (parts : List String) : Bool :=
  !parts.any isHidden &&
    parts.getLast?.any fun name => endings.contains (Text.lower (Path.suffixOf name))

/-- The rule files of the tree at a directory in the order of their paths. -/
def ruleFiles (endings : List String) (directory : Path) (tree : FileTree) : List Path :=
  let found := tree.inside.filter (isRuleFile endings)
  (found.map directory.descend).mergeSort fun p q => p.toString ≤ q.toString

/-- The rule files below a directory; below anything else there are none. -/
def expand (files : Files) (endings : List String) (directory : Path) :
    Except ReadFault (List Path) := do
  pure ((← Glob.everything.search files directory).elim [] (ruleFiles endings directory))

/-- What a path stands for. -/
inductive Resolved
  | directory (found : List Path)
  | file
  | nothing

/-- Looks a path up. -/
def lookUp (files : Files) (endings : List String) (path : Path) : Except ReadFault Resolved := do
  match ← files.look path with
  | some (.directory _) => .directory <$> expand files endings path
  | some (.file _) => pure .file
  | none => pure .nothing

/-- Why a path cannot be resolved: it stands for nothing, or it or something below it cannot be looked up. -/
inductive ResolveFault
  | nothing (path : Path)
  | unreadable (fault : ReadFault)
  deriving DecidableEq, Repr

/-- The files of all paths, with a note for each directory; the first path that stands for nothing or that
cannot be looked up with all below it is the error. -/
def resolve (files : Files) (endings : List String) :
    List Path → List Note × Except ResolveFault (List Path)
  | [] => ([], .ok [])
  | path :: rest =>
    let (notes, found) := resolve files endings rest
    match lookUp files endings path with
    | .ok (.directory inside) =>
      (.expanded path.toString inside.length :: notes, (inside ++ ·) <$> found)
    | .ok .file => (notes, (path :: ·) <$> found)
    | .ok .nothing => ([], .error (.nothing path))
    | .error fault => ([], .error (.unreadable fault))

/-- The wording for a path that stands for nothing. -/
def pathMessage (path : Path) : String :=
  s!"Rule path is neither a file nor a directory: {path}"

end CookbookRules.RuleFile
