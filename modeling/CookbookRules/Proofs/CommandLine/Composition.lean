import CookbookRules.CommandLine.Run
import CookbookRules.Proofs.CommandLine.Words
import CookbookRules.Proofs.Files.Names
import CookbookRules.Proofs.RuleFile.Listing

/-!
# Listings under further flags

What one more flag does to a listing: a tag expression leaves those of its rules that meet the expression, a
rule path puts rules behind it, and without the bundled rules those in front of it are gone. `Chooses` says
of the settings of a run alone which rules it lists, and each flag is followed through it.
-/

namespace CookbookRules.CommandLine

open CookbookRules.Outcome RuleFile

variable {env : Environment} {settings : Settings} {config : Config} {rules : List Rule}
  {words others : List String} {expression : String} {path : Path}

/-! ## Runs that list rules -/

/-- Settings lead to a configuration and to rules: its paths are loaded, and these rules are selected. A
dropped expression does no harm where none is left for it. -/
structure Chooses (env : Environment) (settings : Settings) (config : Config) (rules : List Rule) : Prop where
  configured : ∃ notes, effectiveConfig env settings = .ok (config, notes)
  given : anyDropped settings.included = false
  loaded : (loadRegistry env (config.effectivePaths env)).2 = .ok ()
  selected : Rule.select config.tags (loadRegistry env (config.effectivePaths env)).1.rules = rules
  spare : anyDropped settings.tags = true → rules = []

theorem loadRules_eq_ok {registry : Registry} : loadRules env settings config = (registry, .ok ()) ↔
    anyDropped settings.included = false ∧ (loadRegistry env (config.effectivePaths env)).2 = .ok () ∧
      registry = (loadRegistry env (config.effectivePaths env)).1 := by
  unfold loadRules
  cases dropped : anyDropped settings.included with
  | true => simp
  | false =>
      simp only [Bool.false_eq_true, if_false, Prod.mk.injEq, true_and, mapError_eq_ok]
      rw [and_comm, eq_comm (b := registry)]

theorem selectRules_eq_ok {all : List Rule} : selectRules settings config all = .ok rules ↔
    Rule.select config.tags all = rules ∧ (anyDropped settings.tags = true → rules = []) := by
  unfold selectRules
  dsimp only
  split
  · next stuck =>
    obtain ⟨dropped, left⟩ := Bool.and_eq_true_iff.1 stuck
    simp only [reduceCtorEq, false_iff, not_and]
    rintro rfl spare
    rw [spare dropped] at left
    cases left
  · next fine =>
    rw [Except.ok.injEq]
    refine (and_iff_left_of_imp ?_).symm
    rintro rfl dropped
    rw [dropped, Bool.true_and, Bool.not_eq_true, Bool.not_eq_false'] at fine
    exact List.isEmpty_iff.1 fine

theorem Chooses.runRules (h : Chooses env settings config rules) :
    ∃ log, runRules env settings = ⟨listing settings.form rules ++ "\n", log, .exit 0⟩ := by
  obtain ⟨notes, configured⟩ := h.configured
  have loads := loadRules_eq_ok.2 ⟨h.given, h.loaded, rfl⟩
  have selects := selectRules_eq_ok.2 ⟨h.selected, h.spare⟩
  rw [CommandLine.runRules, configured]
  dsimp only
  rw [loads]
  dsimp only
  rw [selects]
  exact ⟨_, rfl⟩

/-- Without rules to list, nothing is written and the run does not end well. -/
theorem output_failed (log : String) (trouble : Trouble) :
    (failed log trouble).output = "" ∧ (failed log trouble).ending ≠ .exit 0 := by
  unfold failed
  split <;> exact ⟨rfl, by simp⟩

/-- A run finds its rules or fails. -/
theorem runRules_cases (env : Environment) (settings : Settings) :
    (∃ config rules, Chooses env settings config rules) ∨
      ∃ log trouble, runRules env settings = failed log trouble := by
  unfold runRules
  dsimp only
  split
  · exact .inr ⟨_, _, rfl⟩
  · next config notes configured =>
    split
    · exact .inr ⟨_, _, rfl⟩
    · next registry loads =>
      obtain ⟨given, loaded, rfl⟩ := loadRules_eq_ok.1 loads
      split
      · exact .inr ⟨_, _, rfl⟩
      · next rules selects =>
        obtain ⟨selected, spare⟩ := selectRules_eq_ok.1 selects
        exact .inl ⟨config, rules, ⟨notes, configured⟩, given, loaded, selected, spare⟩

/-- A run that ends well has found its rules. -/
theorem exists_chooses_of_exit (h : (runRules env settings).ending = .exit 0) :
    ∃ config rules, Chooses env settings config rules := by
  rcases runRules_cases env settings with found | ⟨log, trouble, fails⟩
  · exact found
  · rw [fails] at h
    exact absurd h (output_failed log trouble).2

/-! ## Values of flags -/

theorem firstGiven_append {α : Type} (values more : List (Given α)) : firstGiven (values ++ more) =
    if anyDropped values then firstGiven values else firstGiven values ++ firstGiven more := by
  induction values with
  | nil => rfl
  | cons value rest ih =>
      cases value with
      | none => rfl
      | some value =>
          have same : anyDropped (some value :: rest) = anyDropped rest := rfl
          rw [List.cons_append, firstGiven, ih, firstGiven, same]
          cases anyDropped rest <;> rfl

theorem effectiveConfig_eq_ok {notes : List Note} : effectiveConfig env settings = .ok (config, notes) ↔
    ∃ base, projectConfig env settings = .ok (base, notes) ∧
      config = ⟨base.rulePaths ++ firstGiven settings.included, base.tags ++ firstGiven settings.tags,
        base.includeBundled && !settings.noBundled⟩ := by
  unfold effectiveConfig
  rw [bind_eq_ok]
  constructor
  · rintro ⟨⟨base, notes⟩, found, ended⟩
    cases ended
    exact ⟨base, found, rfl⟩
  · rintro ⟨base, found, rfl⟩
    exact ⟨(base, notes), found, rfl⟩

/-! ## One more expression -/

theorem select_insert (tags more : List String) (all : List Rule) :
    Rule.select (tags ++ expression :: more) all =
      (Rule.select (tags ++ more) all).filter fun rule => rule.satisfies (.ofString expression) := by
  unfold Rule.select
  rw [List.filter_filter]
  refine List.filter_congr fun rule _ => ?_
  simp only [Rule.matchesTags, List.all_append, List.all_cons]
  exact Bool.and_left_comm _ _ _

/-- One more expression leaves of the rules those that it holds for, wherever it stands. -/
theorem Chooses.tags (h : Chooses env settings config rules) {before behind : List (Given String)}
    (whole : settings.tags = before ++ behind) :
    ∃ narrowed, Chooses env { settings with tags := before ++ some expression :: behind } narrowed
      (rules.filter fun rule => rule.satisfies (.ofString expression)) := by
  obtain ⟨notes, configured⟩ := h.configured
  obtain ⟨base, project, rfl⟩ := effectiveConfig_eq_ok.1 configured
  refine ⟨_, ⟨notes, effectiveConfig_eq_ok.2 ⟨base, project, rfl⟩⟩, h.given, h.loaded, ?_, ?_⟩
  · have selected := h.selected
    simp only [whole, firstGiven_append] at selected ⊢
    cases dropped : anyDropped before with
    | true =>
        -- The expression stands behind a dropped one, and for that no rule was left.
        have none : rules = [] := h.spare (by simp [whole, anyDropped, List.any_append, ← dropped])
        simp only [dropped, if_true] at selected ⊢
        rw [none] at selected ⊢
        exact selected
    | false =>
        simp only [dropped, Bool.false_eq_true, if_false, firstGiven] at selected ⊢
        rw [← List.append_assoc] at selected ⊢
        rw [select_insert]
        exact congrArg _ selected
  · intro dropped
    rw [h.spare, List.filter_nil]
    simpa [whole, anyDropped] using dropped

/-! ## No bundled rules -/

/-- Without the bundled rules, those of them that are selected are gone from the front. -/
theorem Chooses.noBundled (h : Chooses env settings config rules) (bundled : config.includeBundled = true) :
    ∃ rest, rules = Rule.select config.tags (loadRegistry env [env.bundled]).1.rules ++ rest ∧
      ∃ bare, Chooses env { settings with noBundled := true } bare rest := by
  obtain ⟨notes, configured⟩ := h.configured
  obtain ⟨base, project, isConfig⟩ := effectiveConfig_eq_ok.1 configured
  have unbundled : effectiveConfig env { settings with noBundled := true } =
      .ok ({ config with includeBundled := false }, notes) :=
    effectiveConfig_eq_ok.2 ⟨base, project, by simp [isConfig]⟩
  have composes := loadRegistry_composes env [env.bundled] config.rulePaths
  have whole : config.effectivePaths env = [env.bundled] ++ config.rulePaths := by
    rw [Config.effectivePaths, if_pos bundled]
    rfl
  have loaded := h.loaded
  have selected := h.selected
  rw [whole] at loaded selected
  rw [composes.rules loaded, Rule.select, List.filter_append] at selected
  refine ⟨_, selected.symm, _, ⟨notes, unbundled⟩, h.given, (composes.loads.1 loaded).2, rfl, ?_⟩
  intro dropped
  have none := h.spare dropped
  rw [← selected] at none
  exact (List.append_eq_nil_iff.1 none).2

/-! ## One more path -/

/-- A path is refused with a message: nothing is there, or the first of its files that cannot be loaded fails
with a load error. -/
inductive Refuses (env : Environment) (path : Path) : Prop
  | nothing (absent : env.files.look path = .ok none)
  | broken {found before behind : List Path} {file : Path} {e : LoadError}
      (resolved : (resolve env.files ruleFileEndings [path]).2 = .ok found)
      (cut : found = before ++ file :: behind) (earlier : ∀ other ∈ before, Loads env other)
      (failed : (alone env file).2 = .error (.error e))

/-- The failures that a run reports with a message. -/
inductive IsReported : LoadFailure → Prop
  | nothing (path : Path) : IsReported (.path (.nothing path))
  | error (e : LoadError) : IsReported (.file (.error e))

theorem ending_failed_load {log : String} {failure : LoadFailure} :
    (failed log (.load failure)).ending = .exit 2 ↔ IsReported failure := by
  constructor
  · intro ending
    cases failure with
    | path fault =>
        cases fault with
        | nothing path => exact .nothing path
        | unreadable fault => cases ending
    | file failure =>
        cases failure with
        | error e => exact .error e
        | _ => cases ending
  · rintro (⟨path⟩ | ⟨e⟩)
    · rfl
    · rfl

theorem not_loads_of_error {failure : FileFailure} (failed : (alone env path).2 = .error failure) :
    ¬ Loads env path := by
  rintro ⟨count, loads⟩
  cases failed.symm.trans loads

/-- A path at which something is too long is not refused with a message. -/
theorem not_refuses_of_meetsTooLong {other : Path} (meets : env.files.MeetsTooLong path other) :
    ¬ Refuses env path := by
  rintro (⟨absent⟩ | ⟨resolved, -, -, -⟩)
  · exact not_meetsTooLong_of_nothing absent other meets
  · rcases resolve_cons_cases env.files ruleFileEndings path with ⟨resolves, -⟩ | ⟨fault, -, stop⟩
    · exact resolves.short other meets
    · cases (stop []).symm.trans resolved

/-- A path is refused exactly if its load fails with something that is reported. -/
theorem refuses_iff : Refuses env path ↔
    ∃ failure, (loadRegistry env [path]).2 = .error failure ∧ IsReported failure := by
  rcases resolve_cons_cases env.files ruleFileEndings path with ⟨resolves, -⟩ | ⟨fault, unresolved, stop⟩
  · obtain ⟨found, resolved⟩ := exists_resolve_of_resolves (List.forall_mem_singleton.2 resolves)
    constructor
    · rintro (⟨absent⟩ | ⟨resolved', cut, earlier, failed⟩)
      · obtain ⟨tree, there⟩ := resolves.there
        cases absent.symm.trans there
      · cases resolved.symm.trans resolved'
        rcases loadRegistry_cases_of_found resolved with ⟨each, -, -⟩ |
          ⟨first, other, last, failure, same, front, fails, ended⟩
        · exact absurd (each _ (by rw [cut]; simp)) (not_loads_of_error failed)
        · obtain ⟨-, rfl, -⟩ := first_unique (cut.symm.trans same) earlier (not_loads_of_error failed) front
            (not_loads_of_error fails)
          cases failed.symm.trans fails
          exact ⟨_, ended, .error _⟩
    · rintro ⟨failure, ended, reported⟩
      rcases loadRegistry_cases_of_found resolved with ⟨-, loaded, -⟩ |
        ⟨before, file, behind, failure, cut, earlier, failed, fails⟩
      · cases loaded.symm.trans ended
      · cases fails.symm.trans ended
        cases reported with
        | error e => exact .broken resolved cut earlier failed
  · have ended := loadRegistry_of_fault (stop [])
    cases unresolved with
    | nothing absent => exact iff_of_true (.nothing absent) ⟨_, ended, .nothing path⟩
    | tooLong meets =>
        refine iff_of_false (not_refuses_of_meetsTooLong meets) ?_
        rintro ⟨failure, fails, reported⟩
        cases ended.symm.trans fails
        cases reported

/-- The settings of a run with one more path behind those that it includes. -/
def including (path : Path) (settings : Settings) : Settings :=
  { settings with included := settings.included ++ [some path] }

theorem Chooses.configured_including (h : Chooses env settings config rules) (path : Path) :
    anyDropped (including path settings).included = false ∧
      ∃ notes, effectiveConfig env (including path settings) =
        .ok ({ config with rulePaths := config.rulePaths ++ [path] }, notes) := by
  obtain ⟨notes, configured⟩ := h.configured
  obtain ⟨base, project, rfl⟩ := effectiveConfig_eq_ok.1 configured
  refine ⟨by simpa [including, anyDropped] using h.given, notes,
    effectiveConfig_eq_ok.2 ⟨base, project, ?_⟩⟩
  simp [including, firstGiven_append, h.given, firstGiven]

theorem effectivePaths_including (config : Config) (path : Path) :
    { config with rulePaths := config.rulePaths ++ [path] }.effectivePaths env =
      config.effectivePaths env ++ [path] := by
  unfold Config.effectivePaths
  dsimp only
  split <;> rfl

/-- A run with one more path ends with a message exactly if the path is refused. -/
theorem Chooses.ending_including (h : Chooses env settings config rules) :
    (CommandLine.runRules env (including path settings)).ending = .exit 2 ↔ Refuses env path := by
  obtain ⟨given, notes, configured⟩ := h.configured_including path
  have same := loadRegistry_append_of_loaded h.loaded [path]
  rw [← effectivePaths_including] at same
  rw [refuses_iff, ← same, CommandLine.runRules, configured]
  generalize { config with rulePaths := config.rulePaths ++ [path] } = wider
  dsimp only
  cases ended : (loadRegistry env (wider.effectivePaths env)).2 with
  | error failure =>
      have tried : loadRules env (including path settings) wider =
          ((loadRegistry env (wider.effectivePaths env)).1, .error (.load failure)) := by
        simp only [loadRules, given, Bool.false_eq_true, if_false, ended, mapError_error]
      simp only [tried, ending_failed_load, Except.error.injEq, exists_eq_left']
  | ok _ =>
      have tried := loadRules_eq_ok.2 ⟨given, ended, rfl⟩
      simp only [tried, reduceCtorEq, false_and, exists_false, iff_false]
      -- Where rules are loaded, only a dropped expression can still be in the way.
      split
      · next trouble stuck =>
        unfold selectRules at stuck
        dsimp only at stuck
        split at stuck
        · cases stuck
          simp [failed]
        · cases stuck
      · simp

/-- Where it ends well, the rules of the path stand behind those that were listed before. -/
theorem Chooses.including (h : Chooses env settings config rules)
    (exits : (CommandLine.runRules env (including path settings)).ending = .exit 0) :
    ∃ wider, Chooses env (including path settings) wider
      (rules ++ Rule.select config.tags (loadRegistry env [path]).1.rules) := by
  obtain ⟨wider, chosen, chooses⟩ := exists_chooses_of_exit exits
  obtain ⟨-, notes, configured⟩ := h.configured_including path
  obtain ⟨notes', again⟩ := chooses.configured
  cases configured.symm.trans again
  have loaded := chooses.loaded
  have selected := chooses.selected
  rw [effectivePaths_including] at loaded selected
  rw [(loadRegistry_composes env (config.effectivePaths env) [path]).rules loaded, Rule.select,
    List.filter_append] at selected
  have front : (loadRegistry env (config.effectivePaths env)).1.rules.filter
      (Rule.matchesTags config.tags) = rules := h.selected
  rw [front] at selected
  exact ⟨_, selected ▸ chooses⟩

/-! ## Command lines -/

/-- A command line lists rules: it writes their listing as JSON and nothing else, and ends well. -/
def Lists (env : Environment) (words : List String) (rules : List Rule) : Prop :=
  ∃ log, run env words = ⟨Listing.json rules ++ "\n", log, .exit 0⟩

/-- What a command line lists, and how the listing changes with one more flag. `others` are all words that
read as the command line does with this flag; among them are its words with the flag at the end. -/
structure Responds (env : Environment) (words : List String) (settings : Settings) (config : Config)
    (rules : List Rule) : Prop where
  chosen : rules = Rule.select config.tags (loadRegistry env (config.effectivePaths env)).1.rules
  lists : Lists env words rules
  narrowed : ∀ (expression : String) (before behind : List (Given String)) (others : List String),
    settings.tags = before ++ behind →
    readArguments others = .ok ⟨.rules, { settings with tags := before ++ some expression :: behind }⟩ →
    Lists env others (rules.filter fun rule => rule.satisfies (.ofString expression))
  refused : ∀ path others, readArguments others = .ok ⟨.rules, including path settings⟩ →
    ((run env others).ending = .exit 2 ↔ Refuses env path)
  silent : ∀ path others, readArguments others = .ok ⟨.rules, including path settings⟩ →
    (run env others).ending ≠ .exit 0 → (run env others).output = ""
  widened : ∀ path others, readArguments others = .ok ⟨.rules, including path settings⟩ →
    (run env others).ending = .exit 0 →
    Lists env others (rules ++ Rule.select config.tags (loadRegistry env [path]).1.rules)
  unbundled : config.includeBundled = true → ∀ others,
    readArguments others = .ok ⟨.rules, { settings with noBundled := true }⟩ →
    ∃ rest, rules = Rule.select config.tags (loadRegistry env [env.bundled]).1.rules ++ rest ∧
      Lists env others rest
  readTags : ∀ expression extra, expression ≠ "--" → Spells .tags expression extra →
    readArguments (words ++ extra) =
      .ok ⟨.rules, { settings with tags := settings.tags ++ [some expression] }⟩
  readPath : ∀ text extra, text ≠ "--" → Spells .included text extra →
    readArguments (words ++ extra) = .ok ⟨.rules, including (Path.ofString text) settings⟩
  readUnbundled :
    readArguments (words ++ ["--no-bundled"]) = .ok ⟨.rules, { settings with noBundled := true }⟩

theorem run_of_read (read : readArguments words = .ok ⟨.rules, settings⟩) :
    run env words = runRules env settings := by
  rw [run, read]
  rfl

theorem Chooses.exits (h : Chooses env settings config rules)
    (read : readArguments words = .ok ⟨.rules, settings⟩) : (run env words).ending = .exit 0 := by
  obtain ⟨log, runs⟩ := h.runRules
  rw [run_of_read read, runs]

theorem Chooses.lists (h : Chooses env settings config rules) (form : settings.form = .json)
    (read : readArguments words = .ok ⟨.rules, settings⟩) : Lists env words rules := by
  obtain ⟨log, runs⟩ := h.runRules
  rw [form] at runs
  exact ⟨log, (run_of_read read).trans runs⟩

theorem givenValue_some {value : String} (h : value ≠ "--") : givenValue (some value) = some value := by
  simp [givenValue, h]

/-- A command line that lists rules as JSON responds to one more flag as the flag says. -/
theorem run_responds (accepted : readArguments words = .ok ⟨.rules, settings⟩)
    (form : settings.form = .json) (exits : (run env words).ending = .exit 0) :
    ∃ config notes rules, effectiveConfig env settings = .ok (config, notes) ∧
      Responds env words settings config rules := by
  rw [run_of_read accepted] at exits
  obtain ⟨config, rules, h⟩ := exists_chooses_of_exit exits
  obtain ⟨notes, configured⟩ := h.configured
  refine ⟨config, notes, rules, configured, ?_⟩
  constructor
  · exact h.selected.symm
  · exact h.lists form accepted
  · intro expression before behind others whole read
    obtain ⟨narrowed, chooses⟩ := h.tags whole
    exact chooses.lists form read
  · intro path others read
    rw [run_of_read read]
    exact h.ending_including
  · intro path others read astray
    rw [run_of_read read] at astray ⊢
    rcases runRules_cases env (including path settings) with ⟨_, _, chooses⟩ | ⟨log, trouble, fails⟩
    · obtain ⟨log, runs⟩ := chooses.runRules
      rw [runs] at astray
      exact absurd rfl astray
    · rw [fails]
      exact (output_failed log trouble).1
  · intro path others read exits
    rw [run_of_read read] at exits
    obtain ⟨wider, chooses⟩ := h.including exits
    exact chooses.lists form read
  · intro bundled others read
    obtain ⟨rest, front, bare, chooses⟩ := h.noBundled bundled
    exact ⟨rest, front, chooses.lists form read⟩
  · intro expression extra kept spells
    refine readArguments_spelled accepted rfl spells ?_
    rw [setFlag, givenValue_some kept]
  · intro text extra kept spells
    refine readArguments_spelled accepted rfl spells ?_
    rw [setFlag, givenPath, givenValue_some kept]
    rfl
  · exact readArguments_noBundled accepted

/-- The words of a listing as JSON. -/
def listingWords : List String := ["rules", "--format", "json"]

/-- The settings that they are read as. -/
def listingSettings : Settings := { Settings.initial with form := .json }

theorem readArguments_listingWords : readArguments listingWords = .ok ⟨.rules, listingSettings⟩ := by
  have spells : Spells .format "json" ["--format", "json"] :=
    .apart (by decide) (isValue_of_plain (by decide +kernel))
  exact readArguments_spelled readArguments_rules rfl spells rfl

/-- Without a configuration file, the bundled rules are listed. -/
theorem chooses_listingSettings {path : Path} (isPath : Config.pathOf env (Path.ofString ".") none = path)
    (absent : env.files.exists? path = .ok false) (loaded : (loadRegistry env [env.bundled]).2 = .ok ()) :
    Chooses env listingSettings .default (loadRegistry env [env.bundled]).1.rules := by
  have noNull : (Path.ofString ".").hasNull = false := by decide +kernel
  have loads : Config.load env (Path.ofString ".") (Option.join none) = .ok (.default, []) := by
    change Config.load env (Path.ofString ".") none = .ok (.default, [])
    simp only [Config.load, isPath, absent]
    simp [noNull]
    rfl
  have project : projectConfig env listingSettings = .ok (.default, []) := by
    simp only [projectConfig, listingSettings, Settings.initial, loads, mapError_ok, ok_bind]
    rfl
  refine ⟨⟨[], effectiveConfig_eq_ok.2 ⟨.default, project, rfl⟩⟩, rfl, loaded, ?_, nofun⟩
  exact List.filter_eq_self.2 fun _ _ => rfl

/-- The path of the file of a tagged rule, seen from the root. -/
def taggedRootPath : Path := ⟨.root, ["rules.yaml"]⟩

/-- Where the file of a tagged rule is bundled, that rule is listed. -/
theorem chooses_tagged : ∃ rule, (rule.code, rule.tags.toList) = ("A", ["y", "z"]) ∧
    Chooses taggedSurroundings listingSettings .default [rule] := by
  have noNull : taggedRootPath.hasNull = false := by simp [Path.hasNull, taggedRootPath]
  have noConfig : (⟨.root, ["cookcritic.yaml"]⟩ : Path).hasNull = false := by simp [Path.hasNull]
  have read : taggedSurroundings.files.read taggedRootPath = .ok taggedText := by
    simp only [Files.read, noNull, Bool.false_eq_true, if_false]
    decide +kernel
  have resolved : (resolve taggedSurroundings.files ruleFileEndings [taggedSurroundings.bundled]).2 =
      .ok [taggedRootPath] := by
    have bare : taggedSurroundings.bundled.hasNull = false := rfl
    simp only [resolve, lookUp, Files.look, bare, Bool.false_eq_true, if_false]
    decide +kernel
  have declares : (alone taggedSurroundings taggedRootPath).2 = .ok 1 ∧
      (alone taggedSurroundings taggedRootPath).1.rules.map (fun rule => (rule.code, rule.tags.toList)) =
        [("A", ["y", "z"])] := alone_of_text read (by decide +kernel)
  have absent : taggedSurroundings.files.exists? ⟨.root, ["cookcritic.yaml"]⟩ = .ok false := by
    simp only [Files.exists?, Files.look, noConfig, Bool.false_eq_true, if_false]
    rfl
  obtain ⟨rules, ended⟩ := loadRegistry_of_found resolved (appends_sole _ _)
  rw [declares.1] at ended
  obtain ⟨rule, isRule, told⟩ := List.map_eq_singleton_iff.1 declares.2
  have chooses := chooses_listingSettings (by decide +kernel) absent ended
  rw [rules, isRule] at chooses
  exact ⟨rule, told, chooses⟩

/-- One of its tags denied, or the bundled rules left out: the listing is empty. -/
theorem run_responds_tagged :
    ∃ rule, Lists taggedSurroundings listingWords [rule] ∧ rule.code = "A" ∧
      Lists taggedSurroundings (listingWords ++ ["-t", "~z"]) [] ∧
      Lists taggedSurroundings (listingWords ++ ["--no-bundled"]) [] := by
  obtain ⟨rule, told, chooses⟩ := chooses_tagged
  have exits := chooses.exits readArguments_listingWords
  obtain ⟨config, notes, rules, configured, responds⟩ :=
    run_responds readArguments_listingWords rfl exits
  obtain ⟨notes', again⟩ := chooses.configured
  cases configured.symm.trans again
  cases responds.chosen.trans chooses.selected
  obtain ⟨code, tags⟩ := Prod.mk.inj told
  refine ⟨rule, responds.lists, code, ?_, ?_⟩
  · have value : IsValue "~z" := isValue_of_plain (by decide +kernel)
    have reads := responds.readTags "~z" ["-t", "~z"] (by decide) (.apart (by decide) value)
    have unmet : rule.satisfies (.ofString "~z") = false := by
      have tagged : "z" ∈ rule.effectiveTags := TextSet.mem_insert.2 (.inr (by simp [TextSet.mem_def, tags]))
      have term : TagExpression.ofString "~z" = [.lacks "z"] := by decide +kernel
      simp [Rule.satisfies, term, Rule.meets, tagged]
    have narrowed := responds.narrowed "~z" listingSettings.tags [] _ (List.append_nil _).symm reads
    rwa [List.filter_cons_of_neg (by simp [unmet]), List.filter_nil] at narrowed
  · obtain ⟨rest, front, lists⟩ := responds.unbundled rfl _ responds.readUnbundled
    have selected : Rule.select Config.default.tags
        (loadRegistry taggedSurroundings [taggedSurroundings.bundled]).1.rules = [rule] := chooses.selected
    rw [selected, List.self_eq_append_right] at front
    rwa [front] at lists

/-- A path that does not resolve is not always refused with a message: it can be too long to be looked up. -/
theorem run_longPath :
    ¬ ∀ (env : Environment) (words others : List String) (settings : Settings) (path : Path),
      readArguments words = .ok ⟨.rules, settings⟩ → settings.form = .json →
      (run env words).ending = .exit 0 →
      readArguments others = .ok ⟨.rules, including path settings⟩ →
      (∀ tree, env.files.look path ≠ .ok (some tree)) → (run env others).ending = .exit 2 := by
  intro always
  obtain ⟨rule, -, chooses⟩ := chooses_tagged
  have exits := chooses.exits readArguments_listingWords
  have long : taggedSurroundings.files.IsTooLong longPath := by
    refine ⟨?_, .inr ⟨[], String.ofList (List.replicate 256 'a'), [], _, rfl, ?_, ?_, rfl⟩⟩
    · simp [Path.hasNull, longPath, -List.reduceReplicate]
    · decide +kernel
    · decide +kernel
  have normal : longPath.IsNormal := by
    refine List.forall_mem_singleton.2 ⟨by decide +kernel, by decide +kernel, ?_⟩
    simp [-List.reduceReplicate]
  have reads : readArguments (listingWords ++ ["-I", longPath.toString]) =
      .ok ⟨.rules, including longPath listingSettings⟩ := by
    have value : IsValue longPath.toString := isValue_of_plain (by decide +kernel)
    have spells : Spells .included longPath.toString ["-I", longPath.toString] := .apart (by decide) value
    refine readArguments_spelled readArguments_listingWords rfl spells ?_
    rw [setFlag, givenPath, givenValue_some value.whole, Option.map_some, Path.ofString_toString normal]
    rfl
  have reported := always _ _ _ _ _ readArguments_listingWords rfl exits reads
    fun tree there => by cases (Files.look_of_isTooLong long).symm.trans there
  rw [run_of_read reads, chooses.ending_including] at reported
  exact not_refuses_of_meetsTooLong (.top long) reported

end CookbookRules.CommandLine
