import CookbookRules.Proofs.Registry.Duplicates
import CookbookRules.Proofs.RuleFile.Agreement
import CookbookRules.Proofs.Shell.Declarations
import CookbookRules.Proofs.Shell.Growth

/-!
# Rules that are loaded, with those of the shell

A load answers the rules of its files, in the order in which the files were found, and behind them those
that were declared in the shell. No code is refused because it was used before; instead the log has one
warning for each code that the answered rules repeat, and no other. `loadRules_reports` puts together what
the registry gains until the shell is closed and what is warned of then.
-/

namespace CookbookRules.Shell

open Registry RuleFile

variable {env : Environment} {paths : List Path}

/-- The rules that are declared in the shell, if there are commands for it. -/
def shellDeclarations (env : Environment) (loaded : Registry) : Option (List Command) → List Rule
  | some commands => Session.runDeclarations env (Session.opened loaded) commands
  | none => []

/-- What a load answers: the rules of the files that were found, in this order, and then those of the shell,
each as calls in the shell may have changed it. The codes that are repeated among them are reported, and the
registry finds the first rule of each. -/
structure Answers (env : Environment) (paths : List Path) (commands : Option (List Command))
    (found : List Path) (rules : List Rule) (codes : List String) (s : Session) : Prop where
  resolved : (resolve env.files ruleFileEndings paths).2 = .ok found
  becomes : List.Forall₂ Rule.Becomes
    ((found.flatMap fun path => (alone env path).1.rules) ++
      shellDeclarations env (loadRegistry env paths).1 commands) rules
  unchanged : commands = none → rules = found.flatMap fun path => (alone env path).1.rules
  listed : s.registry.rules = rules
  reports : Reports rules codes (s.registry.warnings.map Note.line)
  finds : ∀ code ∈ codes, ∃ index rule, IsFirst rules code index rule ∧
    s.registry.find? code = some (index, rule)

theorem gains_sessionOn (env : Environment) (loaded : Registry) (commands : Option (List Command)) :
    Gains loaded (shellDeclarations env loaded commands) (sessionOn env loaded commands).registry := by
  cases commands with
  | none => exact .same loaded
  | some commands =>
      have opened : Gains loaded [] (Session.opened loaded).registry := (Gains.same loaded).note rfl
      exact opened.trans (Session.gains_run env (Session.opened loaded) commands)

/-- The warnings on repeated codes come behind those that there are. -/
theorem warnings_noteDuplicates (r : Registry) :
    (noteDuplicates r).warnings = r.warnings ++ r.duplicateNotes := by
  have all : r.duplicateNotes.filter (fun note => note.level = .warning) = r.duplicateNotes := by
    refine List.filter_eq_self.2 fun note member => ?_
    obtain ⟨code, -, rfl⟩ := List.mem_map.1 member
    rfl
  rw [warnings, noteDuplicates, List.filter_append, all]
  rfl

/-- A load that succeeds ends with the shell and the warnings. -/
theorem loadRules_of_loaded (loaded : (loadRegistry env paths).2 = .ok ())
    (commands : Option (List Command)) :
    let ended := sessionOn env (loadRegistry env paths).1 commands
    loadRules env paths commands =
      (ended.withRegistry (noteDuplicates ended.registry), .ok ended.registry.rules) := by
  unfold loadRules
  cases run : loadRegistry env paths with
  | mk after outcome =>
      rw [run] at loaded
      cases loaded
      rfl

/-- Rules that can be loaded are answered with those of the shell, none left out for a code that others
have too, and the log warns once of each code that they repeat. -/
theorem loadRules_reports (loaded : (loadRegistry env paths).2 = .ok ())
    (commands : Option (List Command)) :
    ∃ found rules codes, (loadRules env paths commands).2 = .ok rules ∧
      Answers env paths commands found rules codes (loadRules env paths commands).1 := by
  obtain ⟨notes, found, resolved, gains, quiet⟩ := gains_loadRegistry loaded
  have shell := gains_sessionOn env (loadRegistry env paths).1 commands
  have files : (loadRegistry env paths).1.rules = found.flatMap fun path => (alone env path).1.rules := by
    rcases loadRegistry_cases (congrArg Prod.snd resolved) with ⟨-, -, all⟩ | ⟨_, -, _, -, failed⟩
    · exact all
    · cases loaded.symm.trans failed
  let ended := sessionOn env (loadRegistry env paths).1 commands
  -- Neither the load nor the shell has warned of anything, so the warnings are those on repeated codes.
  have warned : (noteDuplicates ended.registry).warnings = ended.registry.duplicateNotes := by
    rw [warnings_noteDuplicates, shell.quiet, quiet, List.nil_append]
  rw [loadRules_of_loaded loaded]
  refine ⟨found, ended.registry.rules, ended.registry.duplicateCodes, rfl, ?_⟩
  constructor
  case resolved => exact congrArg Prod.snd resolved
  case becomes => exact (gains.trans shell).rules
  case unchanged =>
    rintro rfl
    exact files
  case listed => rfl
  case reports => exact warned ▸ reports_duplicateNotes ended.registry
  case finds => exact fun code member => exists_find?_of_repeated member

/-- The text of a file with one rule. -/
def twinText : String := "rules:\n- code: A\n  name: a\n"

/-- Surroundings with two such files. -/
def twinSurroundings : Environment :=
  { files :=
      ⟨.directory [("a.yaml", .file twinText.toUTF8.toList), ("b.yaml", .file twinText.toUTF8.toList)],
        ⟨.root, []⟩⟩
    catalog := ⟨[]⟩
    bundled := ⟨.root, []⟩
    home := "/"
    users := [] }

/-- The paths of the files. -/
def twinPaths : List Path := [⟨.relative, ["a.yaml"]⟩, ⟨.relative, ["b.yaml"]⟩]

/-- A declaration around one more rule with the code of the files. -/
def twinDeclaration : Command :=
  .ruleWith (Session.plainHeading "B") [.rule (Session.plainHeading "A")]

/-- The files are found and loaded. -/
theorem loadRegistry_twins :
    (resolve twinSurroundings.files ruleFileEndings twinPaths).2 = .ok twinPaths ∧
      (loadRegistry twinSurroundings twinPaths).2 = .ok () ∧
      (twinPaths.flatMap fun path => (alone twinSurroundings path).1.rules).map (·.code) = ["A", "A"] := by
  have noNull : ∀ path ∈ twinPaths, path.hasNull = false := by simp [twinPaths, Path.hasNull]
  have read : ∀ path ∈ twinPaths, twinSurroundings.files.read path = .ok twinText := by
    intro path member
    simp only [Files.read, noNull path member, Bool.false_eq_true, if_false]
    revert path
    decide +kernel
  have resolved : (resolve twinSurroundings.files ruleFileEndings twinPaths).2 = .ok twinPaths := by
    have looked : ∀ path ∈ twinPaths,
        lookUp twinSurroundings.files ruleFileEndings path = .ok .file := by
      intro path member
      simp only [lookUp, Files.look, noNull path member, Bool.false_eq_true, if_false]
      simp only [twinPaths, List.mem_cons, List.not_mem_nil, or_false] at member
      rcases member with rfl | rfl
      · rfl
      · rfl
    simp only [twinPaths, List.forall_mem_cons] at looked
    simp only [twinPaths, resolve, looked]
    rfl
  have declares : ∀ path ∈ twinPaths, (alone twinSurroundings path).2.toOption = some 1 ∧
      (alone twinSurroundings path).1.rules.map (·.code) = ["A"] := by
    intro path member
    simp only [alone, loadFile, readDocument, read path member]
    revert path
    decide +kernel
  refine ⟨resolved, ?_, ?_⟩
  · rcases loadRegistry_cases resolved with ⟨-, loaded, -⟩ | ⟨path, member, failure, failed, -⟩
    · exact loaded
    · have ended := (declares path member).1
      rw [failed] at ended
      cases ended
  · rw [List.map_flatMap, List.flatMap_congr fun path member => (declares path member).2]
    rfl

/-- Both rules are answered, and behind them those of the shell, the outer declaration first. Only the code
that three of them have is warned of. -/
theorem loadRules_twins :
    (loadRegistry twinSurroundings twinPaths).2 = .ok () ∧
      ∃ found rules codes,
        (loadRules twinSurroundings twinPaths (some [twinDeclaration])).2 = .ok rules ∧
        Answers twinSurroundings twinPaths (some [twinDeclaration]) found rules codes
          (loadRules twinSurroundings twinPaths (some [twinDeclaration])).1 ∧
        rules.map (·.code) = ["A", "A", "B", "A"] ∧ ∀ code, code ∈ codes ↔ code = "A" := by
  obtain ⟨resolved, loaded, own⟩ := loadRegistry_twins
  obtain ⟨found, rules, codes, answered, answers⟩ := loadRules_reports loaded (some [twinDeclaration])
  cases resolved.symm.trans answers.resolved
  have shell : (shellDeclarations twinSurroundings (loadRegistry twinSurroundings twinPaths).1
      (some [twinDeclaration])).map (·.code) = ["B", "A"] := rfl
  have all : rules.map (·.code) = ["A", "A", "B", "A"] := by
    rw [Rule.map_code_of_becomes answers.becomes, List.map_append, own, shell]
    rfl
  refine ⟨loaded, _, rules, codes, answered, answers, all, fun code => ?_⟩
  rw [answers.reports.mem, all]
  constructor
  · intro twice
    have each : ∀ code ∈ ["A", "A", "B", "A"], 2 ≤ ["A", "A", "B", "A"].count code → code = "A" := by
      decide
    exact each code (List.count_pos_iff.1 (Nat.lt_of_succ_lt twice)) twice
  · rintro rfl
    decide

end CookbookRules.Shell
