import CookbookRules.Problem
import CookbookRules.RuleFile.Load

/-!
# Validating rule files

Validation goes on where a load stops: it reports every path that stands for nothing, every file that
fails, and every rule whose code an earlier file or rule has already used.
-/

namespace CookbookRules.RuleFile

/-- Where a code was declared first. -/
structure FirstUse where
  code : String
  path : String
  line : Option Int
  deriving DecidableEq, Repr

/-- The problem of a path that stands for nothing. -/
def pathProblem (path : Path) : Problem :=
  ⟨"RULE001", path.toString, "rule path not found", none, "", "", ""⟩

/-- The problem of a rule whose code was used before. -/
def repeatedProblem (path : String) (rule : Rule) (first : FirstUse) : Problem :=
  ⟨"RULE006", path, "duplicate rule code", rule.line, "code", rule.code,
    s!"first declared at {locationOf first.path first.line}"⟩

/-- The files of all paths, and a problem for each path that stands for nothing. -/
def gather (files : Files) : List Path → Except ReadFault (List Path × List Problem)
  | [] => .ok ([], [])
  | path :: rest => do
    let resolved ← lookUp files ruleFileEndings path
    let (found, problems) ← gather files rest
    match resolved with
    | .directory inside => pure (inside ++ found, problems)
    | .file => pure (path :: found, problems)
    | .nothing => pure (found, pathProblem path :: problems)

/-- Compares the rules of a file with the codes used so far. -/
def reviewRules (path : String) : List Rule → List FirstUse → List FirstUse × List Problem
  | [], seen => (seen, [])
  | rule :: rest, seen =>
    match seen.find? (·.code == rule.code) with
    | none => reviewRules path rest (seen ++ [⟨rule.code, path, rule.line⟩])
    | some first =>
      let (after, problems) := reviewRules path rest seen
      (after, repeatedProblem path rule first :: problems)

/-- Reviews files one after the other, with the notes of their loads. A load error is reported and the
next file follows. -/
def reviewFiles (env : Environment) :
    List Path → List FirstUse → List Note × Except FileFailure (List Problem)
  | [], _ => ([], .ok [])
  | path :: rest, seen =>
    match loadFile env path .empty with
    | (tried, .error (.error e)) =>
      let (notes, problems) := reviewFiles env rest seen
      (tried.notes ++ notes, (Problem.ofLoadError e :: ·) <$> problems)
    | (tried, .error failure) => (tried.notes, .error failure)
    | (loaded, .ok _) =>
      let (after, repeated) := reviewRules path.toString loaded.rules seen
      let (notes, problems) := reviewFiles env rest after
      (loaded.notes ++ notes, (repeated ++ ·) <$> problems)

/-- All problems of the rule files of all paths, in the order of a report, with the notes of the
loads. -/
def validate (env : Environment) (paths : List Path) :
    List Note × Except FileFailure (List Problem) :=
  match gather env.files paths with
  | .error fault => ([], .error (.path fault))
  | .ok (files, missing) =>
    let (notes, problems) := reviewFiles env files []
    (notes, problems.map fun found => Problem.sort (missing ++ found))

end CookbookRules.RuleFile
