import CookbookRules.Catalog.Samples
import CookbookRules.CommandLine.Run
import CookbookRules.RuleFile.Bundled

/-!
# The program

Looks at the files that a command line and the configuration name, runs the command line on them, and
writes what it answers.
-/

namespace CookbookRules.Program

/-- Reads a file or a directory with everything below it. Of files that are no rule files, only their
being there counts. -/
partial def readTree (name : String) (named : Bool) : IO (Option FileTree) := do
  let path ← try pure (some (← IO.FS.realPath name)) catch _ => pure none
  match path with
  | none => pure none
  | some path =>
    if ← path.isDir then
      let entries ← path.readDir
      let trees ← entries.toList.filterMapM fun entry => do
        let tree ← readTree entry.path.toString false
        pure (tree.map fun tree => (entry.fileName, tree))
      pure (some (.directory trees))
    else if named || RuleFile.isRuleFile RuleFile.ruleFileEndings [path.fileName.getD ""] then
      pure (some (.file (← IO.FS.readBinFile path).toList))
    else pure (some (.file []))

/-- Adds what paths lead to. -/
def addPaths (here : Path) (tree : FileTree) (paths : List Path) : IO FileTree :=
  paths.foldlM
    (fun tree path => do
      let place := Path.resolve here path
      match ← readTree place.toString true with
      | some found => pure (FileTree.place found place.parts tree)
      | none => pure tree)
    tree

/-- The users of the machine with their home directories. -/
def readUsers : IO (List (String × String)) := do
  let text ← try IO.FS.readFile "/etc/passwd" catch _ => pure ""
  pure ((Text.pieces '\n' text).filterMap fun line =>
    match Text.pieces ':' line with
    | name :: _ :: _ :: _ :: _ :: home :: _ => some (name, homeText home)
    | _ => none)

/-- The surroundings of a run that sees only the bundled rule files. -/
def bareEnvironment : IO Environment := do
  let here ← IO.currentDir
  let bundled := (Path.ofString (← IO.appDir).toString).descend ["bundled"]
  let home ← IO.getEnv "HOME"
  let file : FileTree := .file RuleFile.bundledText.toUTF8.toList
  let tree := FileTree.place file (bundled.descend [RuleFile.bundledName]).parts (.directory [])
  pure
    ⟨⟨tree, Path.ofString here.toString⟩, Catalog.samples, bundled, homeText (home.getD "/"), ← readUsers⟩

/-- The surroundings of a run that sees some paths too. -/
def withPaths (env : Environment) (paths : List Path) : IO Environment := do
  let tree ← addPaths env.files.here env.files.root paths
  pure { env with files := { env.files with root := tree } }

/-- The surroundings that a command line needs: first its own paths, then those of the configuration. -/
def environmentFor (words : List String) : IO Environment := do
  let bare ← bareEnvironment
  match CommandLine.readArguments words with
  | .error _ => pure bare
  | .ok request => do
    let settings := request.settings
    let root := settings.root.getD (Path.ofString ".")
    let config := Config.pathOf bare root settings.config.join
    let included := CommandLine.firstGiven settings.included
    let first ← withPaths bare (config :: included ++ settings.paths)
    match CommandLine.effectiveConfig first settings with
    | .ok (found, _) => withPaths first found.rulePaths
    | .error _ => pure first

/-- Writes the outcome of a run and answers its exit code. -/
def report (outcome : CommandLine.Outcome) : IO UInt32 := do
  IO.print outcome.output
  IO.eprint outcome.errors
  match outcome.ending with
  | .exit code => pure (UInt32.ofNat code)
  | .config failure => do
    IO.eprintln failure.message
    pure 1
  | .file failure => do
    IO.eprintln failure.message
    pure 1
  | .dropped flag => do
    IO.eprintln (CommandLine.droppedMessage flag)
    pure 1

end CookbookRules.Program

/-- Runs the program on its command line. -/
def main (words : List String) : IO UInt32 := do
  let env ← CookbookRules.Program.environmentFor words
  CookbookRules.Program.report (CookbookRules.CommandLine.run env words)
