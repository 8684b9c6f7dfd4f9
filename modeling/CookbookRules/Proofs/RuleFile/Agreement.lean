import CookbookRules.Proofs.Outcome
import CookbookRules.Proofs.RuleFile.Loading
import CookbookRules.Proofs.RuleFile.Repeats

/-!
# Validating and loading agree

Validation resolves paths, loads files and finds repeated codes in loops of its own: it goes on where a
load stops, and looks at each file on a registry that holds nothing else. It reports a problem that ends
a load exactly if the load ends with one, and else the codes that the loaded registry holds twice.
-/

namespace CookbookRules.RuleFile

open Outcome

variable {env : Environment} {path : Path} {paths : List Path} {problems : List Problem}

/-! ## Paths -/

/-- Paths that all stand for something are gathered as they are resolved. Else resolving fails, and the
path that it fails with is among the problems of what is gathered. -/
theorem resolve_cases (files : Files) (paths : List Path) :
    (∃ found, gather files paths = .ok (found, []) ∧
        (resolve files ruleFileEndings paths).2 = .ok found) ∨
      ∃ fault, (resolve files ruleFileEndings paths).2 = .error fault ∧
        ∀ found missing, gather files paths = .ok (found, missing) →
          ∃ path, fault = .nothing path ∧ pathProblem path ∈ missing := by
  induction paths with
  | nil => exact .inl ⟨[], rfl, rfl⟩
  | cons path rest ih =>
      -- What a path adds in front changes nothing about the rest.
      have step (more : List Path → List Path) :
          (∃ found, (gather files rest >>= fun pair => pure (more pair.1, pair.2)) = .ok (found, []) ∧
              more <$> (resolve files ruleFileEndings rest).2 = .ok found) ∨
            ∃ fault, more <$> (resolve files ruleFileEndings rest).2 = .error fault ∧
              ∀ found missing,
                (gather files rest >>= fun pair => pure (more pair.1, pair.2)) = .ok (found, missing) →
                  ∃ path, fault = .nothing path ∧ pathProblem path ∈ missing := by
        rcases ih with ⟨found, gathered, resolved⟩ | ⟨fault, failed, missed⟩
        · rw [gathered, resolved]
          exact .inl ⟨more found, rfl, rfl⟩
        · rw [failed]
          refine .inr ⟨fault, rfl, fun found missing h => ?_⟩
          obtain ⟨pair, gathered, ended⟩ := bind_eq_ok.1 h
          cases ended
          exact missed pair.1 pair.2 gathered
      rw [gather, resolve]
      cases lookUp files ruleFileEndings path with
      | error fault => exact .inr ⟨.unreadable fault, rfl, fun _ _ h => nomatch h⟩
      | ok resolved =>
          cases resolved with
          | directory inside => exact step (inside ++ ·)
          | file => exact step (path :: ·)
          | nothing =>
              refine .inr ⟨.nothing path, rfl, fun found missing h => ⟨path, rfl, ?_⟩⟩
              rw [ok_bind] at h
              obtain ⟨pair, gathered, ended⟩ := bind_eq_ok.1 h
              cases ended
              exact List.mem_cons_self

/-! ## Files -/

/-- Validation goes on after a file: it is loaded, or it fails with a load error. -/
def Reviewable (env : Environment) (path : Path) : Prop :=
  Loads env path ∨ ∃ e, (alone env path).2 = .error (.error e)

/-- The problem of a file that fails with a load error. -/
def loadProblem? (env : Environment) (path : Path) : Option Problem :=
  match (alone env path).2 with
  | .error (.error e) => some (.ofLoadError e)
  | _ => none

/-- The rules of a file that is loaded, each with the path of the file. -/
def fileUses (env : Environment) (path : Path) : List (String × Rule) :=
  match (alone env path).2 with
  | .ok _ => (alone env path).1.rules.map (path.toString, ·)
  | .error _ => []

theorem loadProblem?_of_loads (h : Loads env path) : loadProblem? env path = none := by
  obtain ⟨count, ended⟩ := h
  simp only [loadProblem?, ended]

theorem loadProblem?_of_error {e : LoadError} (h : (alone env path).2 = .error (.error e)) :
    loadProblem? env path = some (.ofLoadError e) := by
  simp only [loadProblem?, h]

theorem fileUses_of_loads (h : Loads env path) :
    fileUses env path = (alone env path).1.rules.map (path.toString, ·) := by
  obtain ⟨count, ended⟩ := h
  simp only [fileUses, ended]

theorem fileUses_of_error {failure : FileFailure} (h : (alone env path).2 = .error failure) :
    fileUses env path = [] := by
  simp only [fileUses, h]

/-- What is found in files: the load errors, and the repeated codes of the files that are loaded. -/
def fileProblems (env : Environment) (files : List Path) (seen : List FirstUse) : List Problem :=
  files.filterMap (loadProblem? env) ++ repeats (files.flatMap (fileUses env)) seen

section Step

variable {rest : List Path} {seen : List FirstUse}

/-- A file that is loaded adds its repeated codes, and the next files know its rules. -/
theorem reviewFiles_of_loads (h : Loads env path) :
    (reviewFiles env (path :: rest) seen).2 =
      (repeats (fileUses env path) seen ++ ·) <$>
        (reviewFiles env rest ((fileUses env path).foldl FirstUse.noteUse seen)).2 := by
  rw [fileUses_of_loads h, reviewFiles]
  obtain ⟨count, ended⟩ := h
  change (loadFile env path .empty).2 = .ok count at ended
  cases loaded : loadFile env path .empty with
  | mk s outcome =>
      rw [loaded] at ended
      cases ended
      simp only [reviewRules_eq, alone, loaded]

/-- A load error is reported, and the next files are none the wiser. -/
theorem reviewFiles_of_error {e : LoadError} (h : (alone env path).2 = .error (.error e)) :
    (reviewFiles env (path :: rest) seen).2 =
      (Problem.ofLoadError e :: ·) <$> (reviewFiles env rest seen).2 := by
  rw [reviewFiles]
  change (loadFile env path .empty).2 = .error (.error e) at h
  cases loaded : loadFile env path .empty with
  | mk s outcome =>
      rw [loaded] at h
      cases h
      rfl

/-- Any other failure of a file ends the review. -/
theorem reviewFiles_of_ended (h : ¬ Reviewable env path) :
    ∃ failure, (reviewFiles env (path :: rest) seen).2 = .error failure := by
  rw [reviewFiles]
  cases loaded : loadFile env path .empty with
  | mk s outcome =>
      have ended : (alone env path).2 = outcome := by rw [alone, loaded]
      cases outcome with
      | ok count => exact absurd (.inl ⟨count, ended⟩) h
      | error failure =>
          cases failure with
          | error e => exact absurd (.inr ⟨e, ended⟩) h
          | _ => exact ⟨_, rfl⟩

end Step

/-- The review of files reports what is found in them, unless one of them ends it. -/
theorem reviewFiles_cases (env : Environment) (files : List Path) (seen : List FirstUse) :
    ((∀ path ∈ files, Reviewable env path) ∧
        ∃ problems, (reviewFiles env files seen).2 = .ok problems ∧
          problems.Perm (fileProblems env files seen)) ∨
      (∃ path ∈ files, ¬ Reviewable env path) ∧
        ∃ failure, (reviewFiles env files seen).2 = .error failure := by
  induction files generalizing seen with
  | nil => exact .inl ⟨by simp, [], rfl, .refl _⟩
  | cons path rest ih =>
      by_cases reviewable : Reviewable env path
      · rcases reviewable with loads | ⟨e, failed⟩
        · rw [reviewFiles_of_loads loads]
          rcases ih ((fileUses env path).foldl FirstUse.noteUse seen) with
            ⟨each, problems, reviewed, perm⟩ | ⟨⟨bad, member, ends⟩, failure, failed⟩
          · refine .inl ⟨List.forall_mem_cons.2 ⟨.inl loads, each⟩,
              repeats (fileUses env path) seen ++ problems, by rw [reviewed]; rfl, ?_⟩
            rw [fileProblems, List.filterMap_cons_none (loadProblem?_of_loads loads),
              List.flatMap_cons, repeats_append]
            exact (perm.append_left _).trans (List.perm_append_comm_assoc _ _ _)
          · exact .inr ⟨⟨bad, List.mem_cons_of_mem _ member, ends⟩, failure, by rw [failed]; rfl⟩
        · rw [reviewFiles_of_error failed]
          rcases ih seen with
            ⟨each, problems, reviewed, perm⟩ | ⟨⟨bad, member, ends⟩, failure, stopped⟩
          · refine .inl ⟨List.forall_mem_cons.2 ⟨.inr ⟨e, failed⟩, each⟩,
              Problem.ofLoadError e :: problems, by rw [reviewed]; rfl, ?_⟩
            rw [fileProblems, List.filterMap_cons_some (loadProblem?_of_error failed),
              List.flatMap_cons, fileUses_of_error failed]
            exact perm.cons _
          · exact .inr ⟨⟨bad, List.mem_cons_of_mem _ member, ends⟩, failure, by rw [stopped]; rfl⟩
      · exact .inr ⟨⟨path, List.mem_cons_self, reviewable⟩, reviewFiles_of_ended reviewable⟩

/-- The report holds what is missing and what is found in the files; without one, a file has ended the
review. -/
theorem validate_cases {files : List Path} {missing : List Problem}
    (gathered : gather env.files paths = .ok (files, missing)) :
    ((∀ path ∈ files, Reviewable env path) ∧
        ∃ problems, (validate env paths).2 = .ok problems ∧
          problems.Perm (missing ++ fileProblems env files [])) ∨
      (∃ path ∈ files, ¬ Reviewable env path) ∧
        ∃ failure, (validate env paths).2 = .error failure := by
  rw [validate, gathered]
  rcases reviewFiles_cases env files [] with
    ⟨each, problems, reviewed, perm⟩ | ⟨bad, failure, failed⟩
  · refine .inl ⟨each, Problem.sort (missing ++ problems), by simp only [reviewed]; rfl, ?_⟩
    exact (List.mergeSort_perm _ _).trans (perm.append_left missing)
  · exact .inr ⟨bad, failure, by simp only [failed]; rfl⟩

theorem validate_eq_ok (h : (validate env paths).2 = .ok problems) :
    ∃ files missing, gather env.files paths = .ok (files, missing) ∧
      (∀ path ∈ files, Reviewable env path) ∧
      problems.Perm (missing ++ fileProblems env files []) := by
  cases gathered : gather env.files paths with
  | error fault =>
      rw [validate, gathered] at h
      cases h
  | ok pair =>
      obtain ⟨files, missing⟩ := pair
      rcases validate_cases gathered with ⟨each, found, answered, perm⟩ | ⟨-, failure, failed⟩
      · rw [h] at answered
        cases answered
        exact ⟨files, missing, rfl, each, perm⟩
      · rw [h] at failed
        cases failed

/-- There is a report exactly if the paths are gathered and no file ends the review. -/
theorem exists_validate_iff :
    (∃ problems, (validate env paths).2 = .ok problems) ↔
      ∃ files missing, gather env.files paths = .ok (files, missing) ∧
        ∀ path ∈ files, Reviewable env path := by
  constructor
  · rintro ⟨problems, answered⟩
    obtain ⟨files, missing, gathered, each, -⟩ := validate_eq_ok answered
    exact ⟨files, missing, gathered, each⟩
  · rintro ⟨files, missing, gathered, each⟩
    rcases validate_cases gathered with ⟨-, problems, answered, -⟩ | ⟨⟨path, member, ends⟩, -⟩
    · exact ⟨problems, answered⟩
    · exact absurd (each path member) ends

/-! ## Loading -/

theorem loadRegistry_of_fault {fault : ResolveFault}
    (h : (resolve env.files ruleFileEndings paths).2 = .error fault) :
    (loadRegistry env paths).2 = .error (.path fault) := by
  unfold loadRegistry
  cases resolved : resolve env.files ruleFileEndings paths with
  | mk notes outcome =>
      rw [resolved] at h
      cases h
      rfl

/-- Files that are resolved are loaded into one registry, up to the first that cannot be loaded. -/
theorem loadRegistry_cases {files : List Path}
    (h : (resolve env.files ruleFileEndings paths).2 = .ok files) :
    ((∀ path ∈ files, Loads env path) ∧ (loadRegistry env paths).2 = .ok () ∧
        (loadRegistry env paths).1.rules = files.flatMap fun path => (alone env path).1.rules) ∨
      ∃ path ∈ files, ∃ failure, (alone env path).2 = .error failure ∧
        (loadRegistry env paths).2 = .error (.file failure) := by
  unfold loadRegistry
  cases resolved : resolve env.files ruleFileEndings paths with
  | mk notes outcome =>
      rw [resolved] at h
      cases h
      dsimp only
      have loads := loadFiles_cases env files (.empty notes)
      cases loaded : loadFiles env files { Registry.empty with notes := notes } with
      | mk s outcome =>
          rw [loaded] at loads
          rcases loads with ⟨all, rfl, rules⟩ | ⟨before, path, after, failure, rfl, -, failed, rfl⟩
          · exact .inl ⟨all, rfl, rules⟩
          · exact .inr ⟨path, by simp, failure, failed, rfl⟩

/-! ## Agreement -/

/-- Where all files are loaded, only repeated codes are found. -/
theorem fileProblems_of_loads {files : List Path} (all : ∀ path ∈ files, Loads env path) :
    fileProblems env files [] = repeats (files.flatMap (fileUses env)) [] := by
  have silent : files.filterMap (loadProblem? env) = [] := by
    rw [List.filterMap_eq_nil_iff]
    intro path member
    exact loadProblem?_of_loads (all path member)
  rw [fileProblems, silent, List.nil_append]

/-- The codes that are reviewed are those of the rules that are loaded. -/
theorem codes_fileUses {files : List Path} (all : ∀ path ∈ files, Loads env path) :
    (files.flatMap (fileUses env)).map (·.2.code) =
      (files.flatMap fun path => (alone env path).1.rules).map (·.code) := by
  rw [List.map_flatMap, List.map_flatMap]
  apply List.flatMap_congr
  intro path member
  simp [fileUses_of_loads (all path member)]

/-- Where all files are loaded, the codes that are reported are those of more than one rule. -/
theorem mem_ruleCodes_of_loads {files : List Path} (all : ∀ path ∈ files, Loads env path)
    (code : String) :
    code ∈ (fileProblems env files []).map (·.ruleCode) ↔
      code ∈ Registry.repeatedCodes (files.flatMap fun path => (alone env path).1.rules) := by
  rw [fileProblems_of_loads all, mem_repeats, codes_fileUses all, Registry.mem_repeatedCodes]
  constructor
  · rintro ⟨-, nowhere | again⟩
    · cases nowhere
    · exact again
  · intro again
    exact ⟨List.count_pos_iff.1 (Nat.lt_trans Nat.one_pos again), .inr again⟩

/-- After a load that succeeds there is a report, and it tells of the codes that are held twice. -/
theorem report_of_loaded (loaded : (loadRegistry env paths).2 = .ok ()) :
    ∃ problems, (validate env paths).2 = .ok problems ∧
      (∀ problem ∈ problems, problem.code = "RULE006") ∧
      ∀ code, code ∈ problems.map (·.ruleCode) ↔
        code ∈ (loadRegistry env paths).1.duplicateCodes := by
  rcases resolve_cases env.files paths with ⟨files, gathered, resolved⟩ | ⟨fault, failed, -⟩
  · rcases loadRegistry_cases resolved with ⟨all, -, rules⟩ | ⟨path, -, failure, -, stopped⟩
    · rcases validate_cases gathered with ⟨-, problems, answered, perm⟩ | ⟨⟨path, member, ends⟩, -⟩
      · rw [List.nil_append] at perm
        refine ⟨problems, answered, fun problem member => ?_, fun code => ?_⟩
        · rw [perm.mem_iff, fileProblems_of_loads all] at member
          exact code_of_mem_repeats member
        · rw [(perm.map _).mem_iff, mem_ruleCodes_of_loads all, Registry.duplicateCodes, rules]
      · exact absurd (.inl (all path member)) ends
    · rw [stopped] at loaded
      cases loaded
  · rw [loadRegistry_of_fault failed] at loaded
    cases loaded

/-- What ends a load is in the report, if there is one. -/
theorem report_of_failed {failure : LoadFailure}
    (failed : (loadRegistry env paths).2 = .error failure)
    (answered : (validate env paths).2 = .ok problems) :
    (∃ e, failure = .file (.error e) ∧ Problem.ofLoadError e ∈ problems ∧ e.cause.code ∈ fileCodes) ∨
      ∃ path, failure = .path (.nothing path) ∧ pathProblem path ∈ problems := by
  obtain ⟨files, missing, gathered, each, perm⟩ := validate_eq_ok answered
  rcases resolve_cases env.files paths with ⟨found, all, resolved⟩ | ⟨fault, stopped, missed⟩
  · rw [gathered] at all
    cases all
    rcases loadRegistry_cases resolved with ⟨-, loaded, -⟩ | ⟨path, member, why, ended, stopped⟩
    · rw [loaded] at failed
      cases failed
    · rw [stopped] at failed
      cases failed
      rcases each path member with ⟨count, loads⟩ | ⟨e, ended'⟩
      · rw [ended] at loads
        cases loads
      · rw [ended] at ended'
        cases ended'
        refine .inl ⟨e, rfl, ?_, (loadFile_eq_error ended).2⟩
        rw [perm.mem_iff, List.nil_append]
        apply List.mem_append_left
        exact List.mem_filterMap.2 ⟨path, member, loadProblem?_of_error ended⟩
  · rw [loadRegistry_of_fault stopped] at failed
    cases failed
    obtain ⟨path, rfl, member⟩ := missed files missing gathered
    exact .inr ⟨path, rfl, perm.mem_iff.2 (List.mem_append_left _ member)⟩

/-- Validating some paths and loading them agree. -/
structure Agrees (env : Environment) (paths : List Path) : Prop where
  clean : (validate env paths).2 = .ok [] ↔
    (loadRegistry env paths).2 = .ok () ∧ (loadRegistry env paths).1.duplicateCodes = []
  succeeds : ∀ problems, (validate env paths).2 = .ok problems →
    ((∀ problem ∈ problems, problem.code = "RULE006") ↔ (loadRegistry env paths).2 = .ok ())
  repeated : ∀ problems, (validate env paths).2 = .ok problems →
    (loadRegistry env paths).2 = .ok () → ∀ code, code ∈ (loadRegistry env paths).1.duplicateCodes ↔
      ∃ problem ∈ problems, problem.code = "RULE006" ∧ problem.ruleCode = code
  failed : ∀ problems, (validate env paths).2 = .ok problems →
    ∀ e, (loadRegistry env paths).2 = .error (.file (.error e)) → Problem.ofLoadError e ∈ problems
  missing : ∀ problems, (validate env paths).2 = .ok problems →
    ∀ path, (loadRegistry env paths).2 = .error (.path (.nothing path)) →
      ∃ problem ∈ problems, problem.code = "RULE001" ∧ problem.path = path.toString

theorem agrees_of_loaded (loaded : (loadRegistry env paths).2 = .ok ()) : Agrees env paths := by
  obtain ⟨found, answered, repeated, codes⟩ := report_of_loaded loaded
  constructor
  · constructor
    · intro h
      cases answered.symm.trans h
      refine ⟨loaded, ?_⟩
      apply List.eq_nil_iff_forall_not_mem.2
      intro code held
      cases (codes code).2 held
    · rintro ⟨-, nothing⟩
      have empty : found = [] := by
        apply List.eq_nil_iff_forall_not_mem.2
        intro problem member
        have held := (codes problem.ruleCode).1 (List.mem_map_of_mem member)
        rw [nothing] at held
        cases held
      rw [answered, empty]
  · intro problems h
    cases answered.symm.trans h
    exact ⟨fun _ => loaded, fun _ => repeated⟩
  · intro problems h _ code
    cases answered.symm.trans h
    rw [← codes, List.mem_map]
    constructor
    · rintro ⟨problem, member, same⟩
      exact ⟨problem, member, repeated problem member, same⟩
    · rintro ⟨problem, member, -, same⟩
      exact ⟨problem, member, same⟩
  · intro problems _ e failed
    cases loaded.symm.trans failed
  · intro problems _ path failed
    cases loaded.symm.trans failed

theorem agrees_of_failed {failure : LoadFailure}
    (failed : (loadRegistry env paths).2 = .error failure) : Agrees env paths := by
  have other (problems : List Problem) (h : (validate env paths).2 = .ok problems) :
      ∃ problem ∈ problems, problem.code ≠ "RULE006" := by
    rcases report_of_failed failed h with ⟨e, -, member, known⟩ | ⟨path, -, member⟩
    · refine ⟨_, member, fun same => ?_⟩
      change e.cause.code = "RULE006" at same
      rw [same] at known
      exact absurd known (by decide)
    · refine ⟨_, member, fun same => ?_⟩
      change "RULE001" = "RULE006" at same
      exact absurd same (by decide)
  constructor
  · constructor
    · intro h
      obtain ⟨_, member, -⟩ := other [] h
      cases member
    · rintro ⟨loaded, -⟩
      cases failed.symm.trans loaded
  · intro problems h
    obtain ⟨problem, member, notRepeated⟩ := other problems h
    constructor
    · intro all
      exact absurd (all problem member) notRepeated
    · intro loaded
      cases failed.symm.trans loaded
  · intro problems _ loaded
    cases failed.symm.trans loaded
  · intro problems h e ended
    cases failed.symm.trans ended
    rcases report_of_failed failed h with ⟨_, same, member, -⟩ | ⟨_, same, -⟩
    · cases same
      exact member
    · cases same
  · intro problems h path ended
    cases failed.symm.trans ended
    rcases report_of_failed failed h with ⟨_, same, -, -⟩ | ⟨_, same, member⟩
    · cases same
    · cases same
      exact ⟨_, member, rfl, rfl⟩

/-- The report is empty exactly if a load succeeds without repeated codes. A report tells of nothing but
repeated codes exactly if a load succeeds, and then of the codes that the registry holds twice; else the
error that ends the load is in the report. -/
theorem validate_agrees (env : Environment) (paths : List Path) : Agrees env paths := by
  cases loaded : (loadRegistry env paths).2 with
  | ok _ => exact agrees_of_loaded loaded
  | error failure => exact agrees_of_failed loaded

end CookbookRules.RuleFile
