import CookbookRules.Proofs.Problem.Order
import CookbookRules.Proofs.RuleFile.Agreement
import CookbookRules.Proofs.RuleFile.Discovery

/-!
# What a report holds

A report tells, each once, of the listed paths that stand for nothing, of the files that fail with a load
error, and of the rules whose code an earlier rule has. Its problems stand in the order in which they are
written down.
-/

namespace CookbookRules.RuleFile

open Outcome

variable {env : Environment} {files : Files} {paths found : List Path} {problems missing : List Problem}

/-! ## Paths -/

/-- The files that a path stands for: a directory for the rule files below it, a file for itself. -/
def standsFor (files : Files) (path : Path) : List Path :=
  match files.look path with
  | .ok (some (.directory entries)) => ruleFiles ruleFileEndings path (.directory entries)
  | .ok (some (.file _)) => [path]
  | _ => []

/-- Whether a path is neither a file nor a directory. -/
def isNothing (files : Files) (path : Path) : Bool :=
  match files.look path with
  | .ok none => true
  | _ => false

/-- Paths are gathered if nothing at any of them is too long to be looked up: the files are those that they
stand for, and the problems those of the paths that stand for nothing. -/
theorem gather_eq_ok_iff :
    gather files paths = .ok (found, missing) ↔
      (∀ path ∈ paths, ∀ other, ¬ files.MeetsTooLong path other) ∧
        found = paths.flatMap (standsFor files) ∧
        missing = (paths.filter (isNothing files)).map pathProblem := by
  induction paths generalizing found missing with
  | nil =>
      rw [gather, Except.ok.injEq, Prod.mk.injEq, eq_comm, @eq_comm _ _ missing]
      simp
  | cons path rest ih =>
      -- What the path adds in front of both results leaves the rest to the induction.
      have step (more : List Path) (problem : List Problem) :
          (gather files rest >>= fun pair => pure (more ++ pair.1, problem ++ pair.2)) =
              .ok (found, missing) ↔
            (∀ path ∈ rest, ∀ other, ¬ files.MeetsTooLong path other) ∧
              found = more ++ rest.flatMap (standsFor files) ∧
              missing = problem ++ (rest.filter (isNothing files)).map pathProblem := by
        rw [bind_eq_ok]
        constructor
        · rintro ⟨pair, gathered, ended⟩
          cases ended
          obtain ⟨each, files, problems⟩ := ih.1 gathered
          exact ⟨each, by rw [files], by rw [problems]⟩
        · rintro ⟨each, rfl, rfl⟩
          exact ⟨_, ih.2 ⟨each, rfl, rfl⟩, rfl⟩
      have finds := finds_lookUp files ruleFileEndings path
      rw [gather, List.forall_mem_cons, List.flatMap_cons, List.filter_cons, standsFor, isNothing]
      cases looked : lookUp files ruleFileEndings path with
      | error fault =>
          rw [looked] at finds
          cases finds with
          | tooLong meets => exact iff_of_false (by simp) fun each => each.1.1 _ meets
      | ok resolved =>
          rw [looked] at finds
          cases finds with
          | nothing absent =>
              simpa [absent, not_meetsTooLong_of_nothing absent] using step [] [pathProblem path]
          | file there => simpa [there, not_meetsTooLong_of_file there] using step [path] []
          | directory there short =>
              simpa [there, short] using step (ruleFiles ruleFileEndings path (.directory _)) []

/-! ## Codes -/

/-- The problem of the use at an index, if an earlier one has its code: the first that has it is named. -/
def repeatAt? (uses : List (String × Rule)) (index : Nat) : Option Problem :=
  match uses[index]? with
  | none => none
  | some (path, rule) =>
    ((uses.take index).find? (·.2.code == rule.code)).map fun first =>
      { code := "RULE006"
        path := path
        message := "duplicate rule code"
        line := rule.line
        field := "code"
        ruleCode := rule.code
        hint := s!"first declared at {locationOf first.1 first.2.line}" }

/-- What is noted as the first use of a code is the first use that has it. -/
theorem find?_noteUse (uses : List (String × Rule)) (seen : List FirstUse) (code : String) :
    (uses.foldl FirstUse.noteUse seen).find? (·.code == code) =
      (seen.find? (·.code == code)).or
        ((uses.find? (·.2.code == code)).map fun use => ⟨use.2.code, use.1, use.2.line⟩) := by
  induction uses generalizing seen with
  | nil => simp
  | cons use rest ih =>
      rw [List.foldl_cons, ih, FirstUse.noteUse, List.find?_cons]
      by_cases same : use.2.code = code
      · subst same
        cases known : seen.find? (·.code == use.2.code) with
        | some first => rw [known, Option.some_or, Option.some_or]
        | none => simp [known]
      · have other : (use.2.code == code) = false := beq_false_of_ne same
        rw [other]
        cases seen.find? (·.code == use.2.code) with
        | some first => rfl
        | none => simp [other]

/-- The problems of repeated codes are those of the uses, each looked at among all of them. -/
theorem repeats_eq (uses : List (String × Rule)) :
    repeats uses [] = (List.range uses.length).filterMap (repeatAt? uses) := by
  -- The uses in front are those that have been noted.
  have behind (rest before : List (String × Rule)) :
      repeats rest (before.foldl FirstUse.noteUse []) =
        (List.range' before.length rest.length).filterMap (repeatAt? (before ++ rest)) := by
    induction rest generalizing before with
    | nil => rfl
    | cons use rest ih =>
        have next := ih (before ++ [use])
        rw [List.foldl_append, List.append_assoc, List.length_append] at next
        have here : repeatAt? (before ++ use :: rest) before.length =
            ((before.foldl FirstUse.noteUse []).find? (·.code == use.2.code)).map
              (repeatedProblem use.1 use.2) := by
          rw [find?_noteUse, repeatAt?, List.getElem?_append_right (Nat.le_refl _), Nat.sub_self,
            List.getElem?_cons_zero, List.take_left' rfl, List.find?_nil, Option.none_or, Option.map_map]
          rfl
        rw [repeats, List.length_cons, List.range'_succ, List.filterMap_cons, here]
        cases (before.foldl FirstUse.noteUse []).find? (·.code == use.2.code) with
        | none => exact next
        | some first => exact congrArg (List.cons _) next
  rw [List.range_eq_range']
  exact behind uses []

/-! ## Reports -/

/-- There is a report exactly if nothing at any path is too long to be looked up, and no file ends the
review. -/
theorem exists_validate_iff_forall :
    (∃ problems, (validate env paths).2 = .ok problems) ↔
      (∀ path ∈ paths, ∀ other, ¬ env.files.MeetsTooLong path other) ∧
        ∀ path ∈ paths.flatMap (standsFor env.files), Reviewable env path := by
  rw [exists_validate_iff]
  constructor
  · rintro ⟨files, missing, gathered, each⟩
    obtain ⟨known, rfl, -⟩ := gather_eq_ok_iff.1 gathered
    exact ⟨known, each⟩
  · rintro ⟨known, each⟩
    exact ⟨_, _, gather_eq_ok_iff.2 ⟨known, rfl, rfl⟩, each⟩

/-- What is reported are the problems of the listed paths, of the files and of the repeated codes. -/
theorem perm_validate (answered : (validate env paths).2 = .ok problems) :
    let files := paths.flatMap (standsFor env.files)
    problems.Perm ((paths.filter (isNothing env.files)).map pathProblem ++
      files.filterMap (loadProblem? env) ++ repeats (files.flatMap (fileUses env)) []) := by
  obtain ⟨files, missing, gathered, -, perm⟩ := validate_eq_ok answered
  obtain ⟨-, rfl, rfl⟩ := gather_eq_ok_iff.1 gathered
  rw [fileProblems, ← List.append_assoc] at perm
  exact perm

/-- A report is sorted. -/
theorem pairwise_validate (answered : (validate env paths).2 = .ok problems) :
    problems.Pairwise fun p q => p.key ≤ q.key := by
  rw [validate] at answered
  split at answered
  · cases answered
  · next files missing _ =>
    dsimp only at answered
    cases reviewed : (reviewFiles env files []).2 with
    | error failure =>
        rw [reviewed] at answered
        cases answered
    | ok found =>
        rw [reviewed] at answered
        cases answered
        exact Problem.pairwise_sort (missing ++ found)

/-- A report holds the problems of the listed paths that stand for nothing, of the files that fail, and
of the rules behind the first with their code, each once for each time that it occurs, and no others. It
is sorted, so it is written down as it stands. -/
theorem validate_exact (answered : (validate env paths).2 = .ok problems) :
    let files := paths.flatMap (standsFor env.files)
    let uses := files.flatMap (fileUses env)
    (∀ path ∈ files, Reviewable env path) ∧
      problems.Perm ((paths.filter (isNothing env.files)).map pathProblem ++
        files.filterMap (loadProblem? env) ++
        (List.range uses.length).filterMap (repeatAt? uses)) ∧
      (problems.Pairwise fun p q => p.key ≤ q.key) ∧
      Problem.report problems = String.intercalate "\n" (problems.map Problem.format) := by
  obtain ⟨-, each⟩ := exists_validate_iff_forall.1 ⟨problems, answered⟩
  have perm := perm_validate answered
  simp only [repeats_eq] at perm
  have sorted := pairwise_validate answered
  exact ⟨each, perm, sorted, Problem.report_of_pairwise sorted⟩

/-- The path of a file. -/
def solePath : Path := ⟨.relative, ["a.yaml"]⟩

/-- Surroundings with that file only, which holds one rule. -/
def soleSurroundings : Environment :=
  let file : FileTree := .file "rules:\n- code: A\n  name: a\n".toUTF8.toList
  { files := ⟨FileTree.place file solePath.parts (.directory []), ⟨.root, []⟩⟩
    catalog := ⟨[]⟩
    bundled := ⟨.root, []⟩
    home := "/"
    users := [] }

/-- A path that stands for nothing there. -/
def strayPath : Path := ⟨.relative, ["b.yaml"]⟩

/-- The paths that are listed: the file twice, behind one that stands for nothing. -/
def solePaths : List Path := [strayPath, solePath, solePath]

theorem gather_solePaths :
    gather soleSurroundings.files solePaths = .ok ([solePath, solePath], [pathProblem strayPath]) := by
  have stray : strayPath.hasNull = false := by simp [Path.hasNull, strayPath]
  have sole : solePath.hasNull = false := by simp [Path.hasNull, solePath]
  simp only [solePaths, gather, lookUp, Files.look, stray, sole, Bool.false_eq_true, if_false]
  decide +kernel

/-- The rule of the file is declared in its second line. -/
theorem fileUses_solePath : ∃ rule, fileUses soleSurroundings solePath = [("a.yaml", rule)] ∧
    rule.code = "A" ∧ rule.line = some 2 := by
  have noNull : solePath.hasNull = false := by simp [Path.hasNull, solePath]
  have read : soleSurroundings.files.read solePath = .ok "rules:\n- code: A\n  name: a\n" := by
    simp only [Files.read, noNull, Bool.false_eq_true, if_false]
    decide +kernel
  have uses : (fileUses soleSurroundings solePath).map (fun use => (use.1, use.2.code, use.2.line)) =
      [("a.yaml", "A", some 2)] := by
    simp only [fileUses, alone, loadFile, readDocument, read]
    decide +kernel
  obtain ⟨⟨path, rule⟩, held, told⟩ := List.map_eq_singleton_iff.1 uses
  simp only [Prod.mk.injEq] at told
  obtain ⟨rfl, code, line⟩ := told
  exact ⟨rule, held, code, line⟩

/-- There is a report on the paths. -/
theorem exists_validate_solePaths :
    ∃ problems, (validate soleSurroundings solePaths).2 = .ok problems := by
  have loads : Loads soleSurroundings solePath := by
    obtain ⟨rule, held, -⟩ := fileUses_solePath
    cases ended : (alone soleSurroundings solePath).2 with
    | ok count => exact ⟨count, ended⟩
    | error failure =>
        rw [fileUses_of_error ended] at held
        cases held
  refine exists_validate_iff.2 ⟨_, _, gather_solePaths, fun path member => ?_⟩
  have listed : path = solePath := by simpa using member
  rw [listed]
  exact .inl loads

/-- A file that is listed twice repeats its code, and has declared it first. -/
theorem validate_solePaths :
    ∃ problems, (validate soleSurroundings solePaths).2 = .ok problems ∧
      pathProblem strayPath ∈ problems ∧
      ⟨"RULE006", "a.yaml", "duplicate rule code", some 2, "code", "A", "first declared at a.yaml:2"⟩ ∈
        problems := by
  obtain ⟨problems, answered⟩ := exists_validate_solePaths
  obtain ⟨-, perm, -⟩ := validate_exact answered
  obtain ⟨-, files, missing⟩ := gather_eq_ok_iff.1 gather_solePaths
  rw [← files, ← missing] at perm
  refine ⟨problems, answered, perm.mem_iff.2 (by simp), perm.mem_iff.2 (List.mem_append_right _ ?_)⟩
  obtain ⟨rule, held, code, line⟩ := fileUses_solePath
  rw [List.flatMap_cons, List.flatMap_singleton, held]
  have hint : toString "first declared at " ++ toString (locationOf "a.yaml" (some 2)) =
      "first declared at a.yaml:2" := rfl
  exact List.mem_filterMap.2 ⟨1, by simp, by simp [repeatAt?, code, line, hint]⟩

end CookbookRules.RuleFile
