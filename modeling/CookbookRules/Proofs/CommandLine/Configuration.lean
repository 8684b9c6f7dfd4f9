import CookbookRules.CommandLine.Run
import CookbookRules.Proofs.CommandLine.Words
import CookbookRules.Proofs.Config.Failure
import Mathlib.Data.List.Basic

/-!
# Runs without a configuration

How a run of `rules` or of `shell` ends where the configuration of the project is not loaded: a fault of the
configuration is reported with its wording, and what is no fault leaves the run as it is.
-/

namespace CookbookRules.CommandLine

open CookbookRules.Outcome

variable {env : Environment} {settings : Settings} {command : Command} {words : List String} {root : Path}
  {failure : Config.Failure}

/-- What stops the configuration stops the run, before anything is written. -/
theorem run_of_config_error (read : readArguments words = .ok ⟨command, settings⟩)
    (other : command ≠ .validateRules) (given : settings.root = some root)
    (fails : Config.load env root settings.config.join = .error failure) :
    run env words = failed "" (.config failure) := by
  have project : projectConfig env settings = .error (.config failure) := by
    simp only [projectConfig, given, fails, mapError_error, error_bind]
  have effective : effectiveConfig env settings = .error (.config failure) := by
    rw [effectiveConfig, project, error_bind]
  rw [run, read]
  cases command with
  | validateRules => exact absurd rfl other
  | rules => simp only [runRequest, runRules, effective]
  | shell => simp only [runRequest, runShell, effective]

/-- A configuration is loaded or has a fault unless a failure escapes. A run that needs the configuration
reports the fault and ends with the code 2; a failure that escapes ends it without a report. -/
theorem run_configures (env : Environment) :
    (∀ root asked, ((∃ result, Config.load env root asked = .ok result) ∨
        ∃ fault, Config.load env root asked = .error (.invalid fault)) ↔
      ∀ failure, ¬ Config.Escapes env root asked failure) ∧
    (∀ root asked failure, Config.Escapes env root asked failure →
      Config.load env root asked = .error failure) ∧
    ∀ words command settings root, readArguments words = .ok ⟨command, settings⟩ →
      command ≠ .validateRules → settings.root = some root →
      (∀ fault, Config.load env root settings.config.join = .error (.invalid fault) →
        run env words = ⟨"", "Configuration error: " ++ fault.message ++ "\n", .exit 2⟩) ∧
      ∀ failure, Config.Escapes env root settings.config.join failure →
        run env words = ⟨"", "", .config failure⟩ := by
  refine ⟨fun root asked => Config.load_settled_iff, fun root asked failure escapes => ?_, ?_⟩
  · exact (Config.load_eq_error_iff escapes.not_invalid).2 escapes
  · intro words command settings root read other given
    constructor
    · intro fault faulty
      rw [run_of_config_error read other given faulty, failed]
      simp [toString]
    · intro failure escapes
      have fails := (Config.load_eq_error_iff escapes.not_invalid).2 escapes
      rw [run_of_config_error read other given fails]
      cases failure with
      | invalid fault => exact absurd rfl (escapes.not_invalid fault)
      | _ => rfl

/-- The text of a configuration with a day that its month does not have. -/
def badTagText : String := "tags: [2001-02-30]\n"

/-- Surroundings with that configuration only. -/
def badTagSurroundings : Environment :=
  { files := ⟨.directory [(Config.fileName, .file badTagText.toUTF8.toList)], ⟨.root, []⟩⟩
    catalog := ⟨[]⟩
    bundled := ⟨.root, []⟩
    home := "/"
    users := [] }

/-- The path of that configuration. -/
def badTagPath : Path := ⟨.root, [Config.fileName]⟩

/-- The fault of the day is none of the configuration. -/
theorem escapes_badTag :
    Config.Escapes badTagSurroundings (Path.ofString ".") none (.scalar (.calendar .day)) := by
  have whole : ∀ path ∈ Path.ofString "." :: none.toList, path.hasNull = false :=
    List.forall_mem_singleton.2 (by decide +kernel)
  have isPath : Config.pathOf badTagSurroundings (Path.ofString ".") none = badTagPath := by decide +kernel
  have noNull : badTagPath.hasNull = false := by simp [Path.hasNull, badTagPath, Config.fileName]
  have read : badTagSurroundings.files.read badTagPath = .ok badTagText := by
    simp only [Files.read, noNull, Bool.false_eq_true, if_false]
    decide +kernel
  have parsed : Yaml.read false badTagText = .error (.scalar (.calendar .day)) :=
    faultOf?_eq_some.1 (by decide +kernel)
  exact .file whole (isPath ▸ .scalar read parsed)

/-- A file that is asked for but is not there is a fault of the configuration. -/
theorem load_missing : Config.load badTagSurroundings (Path.ofString ".") (some (Path.ofString "other.yaml")) =
    .error (.invalid (.notFound "/other.yaml")) := by
  have asked : (Path.ofString "other.yaml").hasNull = false := by
    have parts : Path.ofString "other.yaml" = ⟨.relative, ["other.yaml"]⟩ := by decide +kernel
    simp [parts, Path.hasNull]
  have whole : ∀ path ∈ Path.ofString "." :: (some (Path.ofString "other.yaml")).toList,
      path.hasNull = false :=
    List.forall_mem_cons.2 ⟨by decide +kernel, List.forall_mem_singleton.2 asked⟩
  have isPath : Config.pathOf badTagSurroundings (Path.ofString ".") (some (Path.ofString "other.yaml")) =
      ⟨.root, ["other.yaml"]⟩ := by decide +kernel
  have noNull : (⟨.root, ["other.yaml"]⟩ : Path).hasNull = false := by simp [Path.hasNull]
  have absent : badTagSurroundings.files.exists? ⟨.root, ["other.yaml"]⟩ = .ok false := by
    simp only [Files.exists?, Files.look, noNull, Bool.false_eq_true, if_false]
    rfl
  have named : (⟨.root, ["other.yaml"]⟩ : Path).toString = "/other.yaml" := by decide +kernel
  rw [Config.load_of_whole whole isPath, absent, named]
  rfl

/-- The file that is not there is reported, the day that its month does not have is not. -/
theorem run_configures_rules :
    run badTagSurroundings ["rules", "-c", "other.yaml"] =
        ⟨"", "Configuration error: Config file not found: /other.yaml\n", .exit 2⟩ ∧
      run badTagSurroundings ["rules"] = ⟨"", "", .config (.scalar (.calendar .day))⟩ := by
  obtain ⟨-, -, runs⟩ := run_configures badTagSurroundings
  constructor
  · have spells : Spells .config "other.yaml" ["-c", "other.yaml"] :=
      .apart (by decide) (isValue_of_plain (by decide +kernel))
    have reads := readArguments_spelled readArguments_rules rfl spells rfl
    exact (runs _ _ _ _ reads (by decide) rfl).1 _ load_missing
  · exact (runs _ _ _ _ readArguments_rules (by decide) rfl).2 _ escapes_badTag

/-- Not every load of a configuration ends with the configuration or with a fault of it. -/
theorem exists_unsettled_load :
    ¬ ∀ (env : Environment) (root : Path) (asked : Option Path),
      (∃ result, Config.load env root asked = .ok result) ∨
        ∃ fault, Config.load env root asked = .error (.invalid fault) := by
  intro always
  exact Config.load_settled_iff.1 (always _ _ _) _ escapes_badTag

end CookbookRules.CommandLine
