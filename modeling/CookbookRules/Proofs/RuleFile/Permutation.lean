import CookbookRules.Proofs.Files.Names
import CookbookRules.Proofs.RuleFile.Report

/-!
# Reports on paths in another order

The order in which paths are listed decides which rule is told to repeat a code, and nothing else: the
other problems are the same, in the same order, and each code is repeated as often.
-/

namespace CookbookRules.RuleFile

variable {env : Environment} {files : Files} {path file : Path} {paths paths' : List Path}
  {p q : Problem} {problems : List Problem}

/-! ## Files -/

/-- In a tree with named entries, paths of names stand for such paths. -/
theorem isNormal_of_mem_standsFor (named : files.root.IsNamed) (normal : path.IsNormal)
    (member : file ∈ standsFor files path) : file.IsNormal := by
  unfold standsFor at member
  split at member
  · next entries found =>
    have below := Files.isNamed_of_look named found
    rw [ruleFiles, List.mem_mergeSort] at member
    obtain ⟨parts, inside, rfl⟩ := List.mem_map.1 member
    exact normal.descend (below.isName_of_mem_inside (List.mem_filter.1 inside).1)
  · rw [List.mem_singleton.1 member]
    exact normal
  · cases member

/-! ## Problems beside repeated codes -/

/-- The problems of the listed paths and of the files that they stand for. -/
def otherProblems (env : Environment) (paths : List Path) : List Problem :=
  (paths.filter (isNothing env.files)).map pathProblem ++
    (paths.flatMap (standsFor env.files)).filterMap (loadProblem? env)

theorem otherProblems_perm (perm : paths.Perm paths') :
    (otherProblems env paths).Perm (otherProblems env paths') := by
  apply List.Perm.append
  · exact (perm.filter _).map _
  · exact (perm.flatMap_right _).filterMap _

/-- The problem of a file names it, with one of the codes of files. -/
theorem loadProblem?_eq_some (found : loadProblem? env file = some p) :
    p.path = file.toString ∧ p.code ∈ fileCodes := by
  unfold loadProblem? at found
  split at found
  · next e failed =>
    cases found
    exact loadFile_eq_error failed
  · cases found

theorem mem_otherProblems : p ∈ otherProblems env paths ↔
    (∃ path ∈ paths, isNothing env.files path = true ∧ pathProblem path = p) ∨
      ∃ file ∈ paths.flatMap (standsFor env.files), loadProblem? env file = some p := by
  simp only [otherProblems, List.mem_append, List.mem_map, List.mem_filter, List.mem_filterMap,
    and_assoc]

theorem code_ne_of_mem_otherProblems (member : p ∈ otherProblems env paths) : p.code ≠ "RULE006" := by
  rcases mem_otherProblems.1 member with ⟨path, -, -, rfl⟩ | ⟨file, -, found⟩
  · simp [pathProblem]
  · intro same
    have known := (loadProblem?_eq_some found).2
    rw [same] at known
    exact absurd known (by decide)

/-- Such problems that stand at the same place of a report are the same. -/
theorem eq_of_key (named : env.files.root.IsNamed) (normal : ∀ path ∈ paths, path.IsNormal)
    (hp : p ∈ otherProblems env paths) (hq : q ∈ otherProblems env paths) (same : p.key = q.key) :
    p = q := by
  obtain ⟨sameCode, samePath⟩ : p.code = q.code ∧ p.path = q.path := by
    simp only [Problem.key, toLex_inj, Prod.mk.injEq] at same
    exact ⟨same.1, same.2.1⟩
  -- A file's code is no path's code, so both are problems of paths or both of files.
  have apart {path file : Path} {r : Problem} (found : loadProblem? env file = some r) :
      (pathProblem path).code ≠ r.code := by
    intro same
    have known := (loadProblem?_eq_some found).2
    rw [← same] at known
    change "RULE001" ∈ fileCodes at known
    exact absurd known (by decide)
  rcases mem_otherProblems.1 hp with ⟨path, -, -, rfl⟩ | ⟨file, listed, found⟩
  · rcases mem_otherProblems.1 hq with ⟨path', -, -, rfl⟩ | ⟨file', -, found'⟩
    · change path.toString = path'.toString at samePath
      rw [pathProblem, pathProblem, samePath]
    · exact absurd sameCode (apart found')
  · rcases mem_otherProblems.1 hq with ⟨path', -, -, rfl⟩ | ⟨file', listed', found'⟩
    · exact absurd sameCode.symm (apart found)
    · have each : ∀ file ∈ paths.flatMap (standsFor env.files), file.IsNormal := by
        intro file member
        obtain ⟨path, listed, stands⟩ := List.mem_flatMap.1 member
        exact isNormal_of_mem_standsFor named (normal path listed) stands
      have sameFile : file = file' := by
        apply (each file listed).eq_of_toString (each file' listed')
        rw [← (loadProblem?_eq_some found).1, ← (loadProblem?_eq_some found').1, samePath]
      rw [sameFile, found'] at found
      exact (Option.some.inj found).symm

/-! ## Reports -/

/-- A report holds these problems beside the repeated codes. -/
theorem filter_validate (answered : (validate env paths).2 = .ok problems) :
    (problems.filter (·.code != "RULE006")).Perm (otherProblems env paths) := by
  have kept : (otherProblems env paths).filter (·.code != "RULE006") = otherProblems env paths := by
    apply List.filter_eq_self.2
    intro p member
    exact bne_iff_ne.2 (code_ne_of_mem_otherProblems member)
  have left (uses : List (String × Rule)) : (repeats uses []).filter (·.code != "RULE006") = [] := by
    apply List.filter_eq_nil_iff.2
    intro p member
    simp [code_of_mem_repeats member]
  have perm := (perm_validate answered).filter (·.code != "RULE006")
  rw [List.filter_append, left, List.append_nil] at perm
  exact perm.trans (.of_eq kept)

/-- How often a code is told to be repeated. -/
def timesRepeated (problems : List Problem) (code : String) : Nat :=
  problems.countP fun p => p.code == "RULE006" && p.ruleCode == code

/-- Each code is told to be repeated as often as it is used, but for its first use. -/
theorem timesRepeated_validate (answered : (validate env paths).2 = .ok problems) (code : String) :
    timesRepeated problems code =
      (((paths.flatMap (standsFor env.files)).flatMap (fileUses env)).map (·.2.code)).count code -
        1 := by
  have others : timesRepeated (otherProblems env paths) code = 0 := by
    apply List.countP_eq_zero.2
    intro p member
    simp [code_ne_of_mem_otherProblems member]
  have told (uses : List (String × Rule)) :
      timesRepeated (repeats uses []) code = ((repeats uses []).map (·.ruleCode)).count code := by
    rw [timesRepeated, List.count, List.countP_map]
    apply List.countP_congr
    intro p member
    simp [code_of_mem_repeats member]
  have whole := (perm_validate answered).countP_eq fun p => p.code == "RULE006" && p.ruleCode == code
  rw [List.countP_append] at whole
  change timesRepeated problems code = timesRepeated (otherProblems env paths) code + timesRepeated _ code
    at whole
  rw [whole, others, told, count_repeats, Nat.zero_add]
  rfl

/-- Paths that are listed in another order have a report too. In a tree with named entries it differs only
in which rules it tells to repeat a code. -/
theorem validate_perm {texts texts' : List String} (named : env.files.root.IsNamed)
    (perm : texts.Perm texts')
    (answered : (validate env (texts.map Path.ofString)).2 = .ok problems) :
    ∃ problems', (validate env (texts'.map Path.ofString)).2 = .ok problems' ∧
      problems'.filter (·.code != "RULE006") = problems.filter (·.code != "RULE006") ∧
      ∀ code, timesRepeated problems' code = timesRepeated problems code := by
  have listed : (texts.map Path.ofString).Perm (texts'.map Path.ofString) := perm.map _
  have normal : ∀ path ∈ texts.map Path.ofString, path.IsNormal := by
    intro path member
    obtain ⟨text, -, rfl⟩ := List.mem_map.1 member
    exact Path.isNormal_ofString text
  have stands := listed.flatMap_right (standsFor env.files)
  obtain ⟨known, each⟩ := exists_validate_iff_forall.1 ⟨problems, answered⟩
  obtain ⟨problems', answered'⟩ :
      ∃ problems', (validate env (texts'.map Path.ofString)).2 = .ok problems' := by
    apply exists_validate_iff_forall.2
    constructor
    · intro path member
      exact known path (listed.mem_iff.2 member)
    · intro file member
      exact each file (stands.mem_iff.2 member)
  refine ⟨problems', answered', ?_, fun code => ?_⟩
  · have found := filter_validate answered
    have found' := (filter_validate answered').trans (otherProblems_perm listed.symm)
    apply List.Perm.eq_of_pairwise _ ((pairwise_validate answered').filter _)
      ((pairwise_validate answered).filter _) (found'.trans found.symm)
    intro p q hp hq before behind
    exact eq_of_key named normal (found'.mem_iff.1 hp) (found.mem_iff.1 hq) (le_antisymm before behind)
  · have uses := (stands.flatMap_right (fileUses env)).map (·.2.code)
    rw [timesRepeated_validate answered, timesRepeated_validate answered', uses.count_eq]

/-- So it is if a path that stands for nothing is listed between the two mentions of a file. -/
theorem validate_soleTexts :
    ∃ problems problems',
      (validate soleSurroundings (["b.yaml", "a.yaml", "a.yaml"].map Path.ofString)).2 = .ok problems ∧
      (validate soleSurroundings (["a.yaml", "b.yaml", "a.yaml"].map Path.ofString)).2 = .ok problems' ∧
      problems'.filter (·.code != "RULE006") = problems.filter (·.code != "RULE006") ∧
      ∀ code, timesRepeated problems' code = timesRepeated problems code := by
  obtain ⟨problems, answered⟩ := exists_validate_solePaths
  have listed : ["b.yaml", "a.yaml", "a.yaml"].map Path.ofString = solePaths := by decide
  rw [← listed] at answered
  have named : soleSurroundings.files.root.IsNamed := by
    apply FileTree.IsNamed.place (.file _)
    · intro part member
      rw [List.mem_singleton.1 member]
      exact ⟨by decide, by decide, by decide⟩
    · exact .directory (by simp) (by simp)
  have moved : ["b.yaml", "a.yaml", "a.yaml"].Perm ["a.yaml", "b.yaml", "a.yaml"] := .swap _ _ _
  obtain ⟨problems', answered', same⟩ := validate_perm named moved answered
  exact ⟨problems, problems', answered, answered', same⟩

end CookbookRules.RuleFile
