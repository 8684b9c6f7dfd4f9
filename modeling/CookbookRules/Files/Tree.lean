import CookbookRules.Files.Path
import CookbookRules.Text.Utf8

/-!
# File trees

The files that a run can see, as a value: directories with named entries, files with bytes. A path is
followed component by component, so a double dot leads out of a directory that is really there. Names and
paths have a greatest length; a longer one cannot even be looked up. There are no links, and all that is
there may be read. A tree can be of any depth: that a walk ends early in one that is very deep, since calls
cannot be nested without bound, is left out.
-/

namespace CookbookRules

/-- A file or a directory with its entries. -/
inductive FileTree
  | file (bytes : List UInt8)
  | directory (entries : List (String × FileTree))

/-- Why a file cannot be read as text. -/
inductive ReadFault
  | missing (path : String)
  | notDirectory (path : String)
  | isDirectory (path : String)
  | notText (fault : Text.Utf8.Fault)
  | nameTooLong (path : String)
  | nullInPath
  deriving DecidableEq, Repr

/-- The wording of a fault. -/
def ReadFault.message : ReadFault → String
  | .missing path => s!"[Errno 2] No such file or directory: {Text.quoted path}"
  | .notDirectory path => s!"[Errno 20] Not a directory: {Text.quoted path}"
  | .isDirectory path => s!"[Errno 21] Is a directory: {Text.quoted path}"
  | .notText fault => fault.message
  | .nameTooLong path => s!"[Errno 36] File name too long: {Text.quoted path}"
  | .nullInPath => "embedded null byte"

namespace FileTree

/-- Why a path leads nowhere. -/
inductive Lost
  | missing
  | notDirectory
  | nameTooLong
  deriving DecidableEq, Repr

/-- Whether a tree is a directory. -/
def isDirectory : FileTree → Bool
  | file _ => false
  | directory _ => true

/-- The entries of a directory; a file has none. -/
def entries : FileTree → List (String × FileTree)
  | file _ => []
  | directory entries => entries

/-- Whether a name has more bytes than the name of a file can have. -/
def isLongName (name : String) : Bool := 255 < name.utf8ByteSize

/-- Follows components from the first tree of a stack; the others are the directories above it. -/
def follow : List FileTree → List String → Except Lost FileTree
  | [], _ => .error .missing
  | here :: _, [] => .ok here
  | file _ :: _, _ :: _ => .error .notDirectory
  | directory entries :: above, part :: parts =>
    if part = ".." then
      match above with
      | [] => follow [directory entries] parts
      | up :: rest => follow (up :: rest) parts
    else if isLongName part then .error .nameTooLong
    else
      match entries.find? (·.1 == part) with
      | some (_, next) => follow (next :: directory entries :: above) parts
      | none => .error .missing

mutual

/-- The files of a tree with the components that lead to them. -/
def files : FileTree → List (List String)
  | file _ => [[]]
  | directory entries => entryFiles entries

/-- The files of a directory's entries. -/
def entryFiles : List (String × FileTree) → List (List String)
  | [] => []
  | (name, tree) :: rest => (files tree).map (name :: ·) ++ entryFiles rest

end

/-- The files below a directory, as components seen from it; below a file there are none. -/
def inside (tree : FileTree) : List (List String) := entryFiles tree.entries

mutual

/-- The directories of a tree, itself first, each with the components that lead to it. -/
def directories : FileTree → List (List String × FileTree)
  | file _ => []
  | directory entries => ([], directory entries) :: entryDirectories entries

/-- The directories among a directory's entries and below them. -/
def entryDirectories : List (String × FileTree) → List (List String × FileTree)
  | [] => []
  | (name, tree) :: rest =>
    (directories tree).map (fun (names, inner) => (name :: names, inner)) ++ entryDirectories rest

end

/-- Puts a tree where components lead; directories on the way are made, what stood there is replaced. -/
def place (tree : FileTree) : List String → FileTree → FileTree
  | [], _ => tree
  | part :: parts, here =>
    let old := ((here.entries.find? (·.1 == part)).map (·.2)).getD (directory [])
    let new := (part, place tree parts old)
    if here.entries.any (·.1 == part) then
      directory (here.entries.map fun entry => if entry.1 == part then new else entry)
    else directory (here.entries ++ [new])

end FileTree

/-- A tree of all files and the directory that relative paths start from. -/
structure Files where
  root : FileTree
  here : Path

namespace Files

/-- Whether a path has more bytes than a path can have. -/
def isLongPath (p : Path) : Bool := 4095 < p.toString.utf8ByteSize

/-- What a path leads to. -/
def find (files : Files) (p : Path) : Except FileTree.Lost FileTree :=
  if isLongPath p then .error .nameTooLong
  else FileTree.follow [files.root] (files.here.join p).parts

/-- What a path leads to, if it leads anywhere. Only a name that is too long cannot be looked up. -/
def look (files : Files) (p : Path) : Except ReadFault (Option FileTree) :=
  if p.hasNull then .ok none
  else
    match files.find p with
    | .ok tree => .ok (some tree)
    | .error .nameTooLong => .error (.nameTooLong p.toString)
    | .error _ => .ok none

/-- Looks a path up only to see whether it can be. -/
def visit (files : Files) (p : Path) : Except ReadFault Unit :=
  (fun _ => ()) <$> files.look p

/-- Whether a path leads anywhere. -/
def exists? (files : Files) (p : Path) : Except ReadFault Bool :=
  (·.isSome) <$> files.look p

/-- The text of a file, its line ends read as line feeds. -/
def read (files : Files) (p : Path) : Except ReadFault String :=
  let name := p.toString
  if p.hasNull then .error .nullInPath
  else
    match files.find p with
    | .error .missing => .error (.missing name)
    | .error .notDirectory => .error (.notDirectory name)
    | .error .nameTooLong => .error (.nameTooLong name)
    | .ok (.directory _) => .error (.isDirectory name)
    | .ok (.file bytes) =>
      match Text.Utf8.decode bytes with
      | .ok cs => .ok (String.ofList (Text.Utf8.normalizeBreaks cs))
      | .error fault => .error (.notText fault)

end Files

end CookbookRules
