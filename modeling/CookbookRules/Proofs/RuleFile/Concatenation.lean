import CookbookRules.Proofs.RuleFile.Agreement
import CookbookRules.Proofs.RuleFile.Discovery

/-!
# Loading lists of paths

All paths of a load are resolved before the first file is loaded, and all files are loaded into one
registry. The load of two lists behind each other is still told by the loads of each: what a file adds and
how its load ends does not depend on the files in front of it, and neither does what a path stands for.
-/

namespace CookbookRules.RuleFile

open Outcome

variable {env : Environment} {files : Files} {path : Path} {paths more found : List Path}
  {new : List Rule} {fault : ResolveFault}

/-! ## Files -/

/-- A file that is loaded hands its registry on to the files behind it. -/
theorem loadFiles_append (env : Environment) (paths more : List Path) (r : Registry) :
    loadFiles env (paths ++ more) r =
      match loadFiles env paths r with
      | (loaded, .ok ()) => loadFiles env more loaded
      | (loaded, .error failure) => (loaded, .error failure) := by
  induction paths generalizing r with
  | nil => rfl
  | cons path rest ih =>
      rw [List.cons_append, loadFiles, loadFiles]
      cases loadFile env path r with
      | mk loaded outcome =>
          cases outcome with
          | error failure => rfl
          | ok count => exact ih loaded

/-- What one list of files and then another add to every registry, they add behind each other. -/
theorem Appends.append {later : List Rule} {outcome ended : Except FileFailure Unit}
    (first : Appends (loadFiles env paths) new outcome)
    (second : Appends (loadFiles env more) later ended) :
    Appends (loadFiles env (paths ++ more)) (if outcome.isOk then new ++ later else new)
      (outcome >>= fun _ => ended) := by
  intro r sound
  obtain ⟨between, rules, stopped⟩ := first r sound
  rw [loadFiles_append]
  cases loaded : loadFiles env paths r with
  | mk s middle =>
      rw [loaded] at between rules stopped
      cases stopped
      cases middle with
      | error failure => exact ⟨between, rules, rfl⟩
      | ok _ =>
          obtain ⟨after, added, finished⟩ := second s between
          refine ⟨after, ?_, finished⟩
          rw [added, rules, List.append_assoc]
          rfl

/-- A list of one file adds what the file adds. -/
theorem appends_sole (env : Environment) (path : Path) :
    Appends (loadFiles env [path]) (alone env path).1.rules ((alone env path).2.map fun _ => ()) := by
  refine (appends_alone env path).finish _ fun r => ?_
  rw [loadFiles]
  rcases loadFile env path r with ⟨s, failure | count⟩
  · exact ⟨id, rfl, rfl⟩
  · exact ⟨id, rfl, rfl⟩

theorem appends_loadFiles (env : Environment) (paths : List Path) :
    ∃ new outcome, Appends (loadFiles env paths) new outcome := by
  induction paths with
  | nil => exact ⟨[], .ok (), fun r sound => ⟨sound, (List.append_nil _).symm, rfl⟩⟩
  | cons path rest ih =>
      obtain ⟨later, ended, rest⟩ := ih
      exact ⟨_, _, (appends_sole env path).append rest⟩

/-! ## Paths -/

theorem resolve_append (files : Files) (paths more : List Path) :
    (resolve files ruleFileEndings (paths ++ more)).2 =
      (resolve files ruleFileEndings paths).2 >>= fun found =>
        (found ++ ·) <$> (resolve files ruleFileEndings more).2 := by
  induction paths with
  | nil =>
      change (resolve files ruleFileEndings more).2 =
        ([] ++ ·) <$> (resolve files ruleFileEndings more).2
      cases (resolve files ruleFileEndings more).2 with
      | error fault => rfl
      | ok found => rfl
  | cons path rest ih =>
      rw [List.cons_append]
      rcases resolve_cons_cases files ruleFileEndings path with ⟨-, own, step⟩ | ⟨fault, -, stop⟩
      · rw [step, step, ih]
        cases (resolve files ruleFileEndings rest).2 with
        | error fault => rfl
        | ok found =>
            cases (resolve files ruleFileEndings more).2 with
            | error fault => rfl
            | ok behind => exact congrArg Except.ok (List.append_assoc _ _ _).symm
      · rw [stop, stop]
        rfl

/-- Paths that all resolve are resolved. -/
theorem exists_resolve_of_resolves (h : ∀ path ∈ paths, Resolves files path) :
    ∃ found, (resolve files ruleFileEndings paths).2 = .ok found := by
  induction paths with
  | nil => exact ⟨[], rfl⟩
  | cons path rest ih =>
      rw [List.forall_mem_cons] at h
      rcases resolve_cons_cases files ruleFileEndings path with ⟨-, own, step⟩ | ⟨fault, unresolved, -⟩
      · obtain ⟨found, resolved⟩ := ih h.2
        exact ⟨own ++ found, by rw [step, resolved]; rfl⟩
      · exact absurd h.1 unresolved.not_resolves

/-- Else the first path that does not resolve is the fault. -/
theorem exists_fault_of_not_resolves (h : ∃ path ∈ paths, ¬ Resolves files path) :
    ∃ before path after fault, paths = before ++ path :: after ∧
      (∀ earlier ∈ before, Resolves files earlier) ∧ Unresolved files path fault ∧
      (resolve files ruleFileEndings paths).2 = .error fault := by
  induction paths with
  | nil =>
      obtain ⟨path, member, -⟩ := h
      cases member
  | cons path rest ih =>
      rcases resolve_cons_cases files ruleFileEndings path with
        ⟨resolves, own, step⟩ | ⟨fault, unresolved, stop⟩
      · have behind : ∃ path ∈ rest, ¬ Resolves files path := by
          simpa [resolves] using h
        obtain ⟨before, first, after, fault, rfl, earlier, unresolved, failed⟩ := ih behind
        refine ⟨path :: before, first, after, fault, rfl,
          List.forall_mem_cons.2 ⟨resolves, earlier⟩, unresolved, ?_⟩
        rw [step, failed]
        rfl
      · exact ⟨[], path, rest, fault, rfl, by simp, unresolved, stop rest⟩

/-! ## Loads -/

theorem loadRegistry_of_found {outcome : Except FileFailure Unit}
    (resolved : (resolve env.files ruleFileEndings paths).2 = .ok found)
    (loads : Appends (loadFiles env found) new outcome) :
    (loadRegistry env paths).1.rules = new ∧
      (loadRegistry env paths).2 = outcome.mapError .file := by
  unfold loadRegistry
  cases looked : resolve env.files ruleFileEndings paths with
  | mk notes answer =>
      rw [looked] at resolved
      cases resolved
      obtain ⟨-, rules, ended⟩ := loads _ (.empty notes)
      dsimp only
      cases loaded : loadFiles env found { Registry.empty with notes := notes } with
      | mk s middle =>
          rw [loaded] at rules ended
          cases ended
          cases middle with
          | error failure => exact ⟨rules, rfl⟩
          | ok _ => exact ⟨rules, rfl⟩

/-- The files that paths stand for are all loaded, or the load ends with the first that cannot be. -/
theorem loadRegistry_cases_of_found (resolved : (resolve env.files ruleFileEndings paths).2 = .ok found) :
    ((∀ path ∈ found, Loads env path) ∧ (loadRegistry env paths).2 = .ok () ∧
        (loadRegistry env paths).1.rules = found.flatMap fun path => (alone env path).1.rules) ∨
      ∃ before path after failure, found = before ++ path :: after ∧
        (∀ earlier ∈ before, Loads env earlier) ∧ (alone env path).2 = .error failure ∧
        (loadRegistry env paths).2 = .error (.file failure) := by
  obtain ⟨new, outcome, loads⟩ := appends_loadFiles env found
  obtain ⟨rules, ended⟩ := loadRegistry_of_found resolved loads
  obtain ⟨-, added, stopped⟩ := loads .empty (.empty [])
  rcases loadFiles_cases env found (.empty []) with ⟨each, succeeded, all⟩ |
    ⟨before, path, after, failure, cut, earlier, failed, fails⟩
  · cases stopped.symm.trans succeeded
    exact .inl ⟨each, ended, rules.trans (added.symm.trans all)⟩
  · cases stopped.symm.trans fails
    exact .inr ⟨before, path, after, failure, cut, earlier, failed, ended⟩

/-- What is loaded was resolved. -/
theorem exists_resolve_of_loaded (h : (loadRegistry env paths).2 = .ok ()) :
    ∃ found, (resolve env.files ruleFileEndings paths).2 = .ok found := by
  cases resolved : (resolve env.files ruleFileEndings paths).2 with
  | ok found => exact ⟨found, rfl⟩
  | error fault => cases h.symm.trans (loadRegistry_of_fault resolved)

theorem exists_resolve_of_loaded_append (h : (loadRegistry env (paths ++ more)).2 = .ok ()) :
    ∃ found behind, (resolve env.files ruleFileEndings paths).2 = .ok found ∧
      (resolve env.files ruleFileEndings more).2 = .ok behind := by
  obtain ⟨both, resolved⟩ := exists_resolve_of_loaded h
  rw [resolve_append] at resolved
  obtain ⟨found, first, resolved⟩ := bind_eq_ok.1 resolved
  cases second : (resolve env.files ruleFileEndings more).2 with
  | ok behind => exact ⟨found, behind, first, rfl⟩
  | error fault =>
      rw [second] at resolved
      cases resolved

/-- Where the paths of two lists are resolved, the one is loaded behind the other. -/
theorem loadRegistry_append_of_found {behind : List Path}
    (first : (resolve env.files ruleFileEndings paths).2 = .ok found)
    (second : (resolve env.files ruleFileEndings more).2 = .ok behind) :
    (loadRegistry env (paths ++ more)).2 =
        ((loadRegistry env paths).2 >>= fun _ => (loadRegistry env more).2) ∧
      ((loadRegistry env (paths ++ more)).2 = .ok () → (loadRegistry env (paths ++ more)).1.rules =
        (loadRegistry env paths).1.rules ++ (loadRegistry env more).1.rules) := by
  have both : (resolve env.files ruleFileEndings (paths ++ more)).2 = .ok (found ++ behind) := by
    rw [resolve_append, first, second]
    rfl
  obtain ⟨new, outcome, loads⟩ := appends_loadFiles env found
  obtain ⟨later, ended, follows⟩ := appends_loadFiles env behind
  obtain ⟨rules, stops⟩ := loadRegistry_of_found first loads
  obtain ⟨added, finishes⟩ := loadRegistry_of_found second follows
  obtain ⟨all, ends⟩ := loadRegistry_of_found both (loads.append follows)
  rw [stops, finishes, ends, rules, added, all]
  cases outcome with
  | error failure => exact ⟨rfl, nofun⟩
  | ok _ => exact ⟨rfl, fun _ => rfl⟩

/-- Behind paths that can be loaded, others end the load as they do on their own. -/
theorem loadRegistry_append_of_loaded (loaded : (loadRegistry env paths).2 = .ok ()) (more : List Path) :
    (loadRegistry env (paths ++ more)).2 = (loadRegistry env more).2 := by
  obtain ⟨found, first⟩ := exists_resolve_of_loaded loaded
  cases second : (resolve env.files ruleFileEndings more).2 with
  | ok behind =>
      rw [(loadRegistry_append_of_found first second).1, loaded]
      rfl
  | error fault =>
      have both : (resolve env.files ruleFileEndings (paths ++ more)).2 = .error fault := by
        rw [resolve_append, first, second]
        rfl
      rw [loadRegistry_of_fault both, loadRegistry_of_fault second]

/-- The load of two lists of paths behind each other, by the loads of each. -/
structure Composes (env : Environment) (paths more : List Path) : Prop where
  loads : (loadRegistry env (paths ++ more)).2 = .ok () ↔
    (loadRegistry env paths).2 = .ok () ∧ (loadRegistry env more).2 = .ok ()
  rules : (loadRegistry env (paths ++ more)).2 = .ok () → (loadRegistry env (paths ++ more)).1.rules =
    (loadRegistry env paths).1.rules ++ (loadRegistry env more).1.rules
  fails : (∀ path ∈ paths ++ more, Resolves env.files path) →
    ∀ failure, (loadRegistry env (paths ++ more)).2 = .error failure ↔
      (loadRegistry env paths).2 = .error failure ∨
        (loadRegistry env paths).2 = .ok () ∧ (loadRegistry env more).2 = .error failure
  unresolved : (∃ path ∈ paths ++ more, ¬ Resolves env.files path) →
    ∃ before path after fault, paths ++ more = before ++ path :: after ∧
      (∀ earlier ∈ before, Resolves env.files earlier) ∧ Unresolved env.files path fault ∧
      (loadRegistry env (paths ++ more)).2 = .error (.path fault)

/-- Loading takes lists behind each other to rules behind each other. The first failure decides, and a path
that does not resolve comes before every file that cannot be loaded. -/
theorem loadRegistry_composes (env : Environment) (paths more : List Path) :
    Composes env paths more := by
  constructor
  · constructor
    · intro loaded
      obtain ⟨found, behind, first, second⟩ := exists_resolve_of_loaded_append loaded
      rw [(loadRegistry_append_of_found first second).1] at loaded
      obtain ⟨_, left, right⟩ := bind_eq_ok.1 loaded
      exact ⟨left, right⟩
    · rintro ⟨left, right⟩
      obtain ⟨found, first⟩ := exists_resolve_of_loaded left
      obtain ⟨behind, second⟩ := exists_resolve_of_loaded right
      rw [(loadRegistry_append_of_found first second).1, left, right]
      rfl
  · intro loaded
    obtain ⟨found, behind, first, second⟩ := exists_resolve_of_loaded_append loaded
    exact (loadRegistry_append_of_found first second).2 loaded
  · intro each failure
    rw [List.forall_mem_append] at each
    obtain ⟨found, first⟩ := exists_resolve_of_resolves each.1
    obtain ⟨behind, second⟩ := exists_resolve_of_resolves each.2
    rw [(loadRegistry_append_of_found first second).1]
    cases (loadRegistry env paths).2 with
    | error failure => simp
    | ok _ => simp
  · intro some
    obtain ⟨before, path, after, fault, cut, earlier, unresolved, failed⟩ :=
      exists_fault_of_not_resolves some
    exact ⟨before, path, after, fault, cut, earlier, unresolved, loadRegistry_of_fault failed⟩

/-- A path of one name that is longer than the name of a file can be. -/
def longPath : Path := ⟨.relative, [String.ofList (List.replicate 256 'a')]⟩

/-- Surroundings without files. -/
def bareSurroundings : Environment :=
  ⟨⟨.directory [], ⟨.root, []⟩⟩, ⟨[]⟩, ⟨.root, []⟩, "", []⟩

/-- Without files, too, such a name is too long to be looked up. -/
theorem isTooLong_longPath : bareSurroundings.files.IsTooLong longPath := by
  refine ⟨?_, .inr ⟨[], String.ofList (List.replicate 256 'a'), [], [], rfl, ?_, ?_, rfl⟩⟩
  · simp [Path.hasNull, longPath, -List.reduceReplicate]
  · decide +kernel
  · decide +kernel

/-- That nothing is there is not all that can be said of a path that does not resolve. -/
theorem loadRegistry_longPath :
    ¬ ∀ (env : Environment) (paths more before after : List Path) (path : Path),
      paths ++ more = before ++ path :: after →
      (∀ earlier ∈ before, Resolves env.files earlier) →
      (∀ tree, env.files.look path ≠ .ok (some tree)) →
      (loadRegistry env (paths ++ more)).2 = .error (.path (.nothing path)) := by
  intro always
  have looked := Files.look_of_isTooLong isTooLong_longPath
  have missing := always bareSurroundings [longPath] [] [] [] longPath rfl (by simp)
    fun tree there => by cases looked.symm.trans there
  have failed : (resolve bareSurroundings.files ruleFileEndings [longPath]).2 =
      .error (.unreadable (.nameTooLong longPath.toString)) := by
    rw [resolve, lookUp, looked]
    rfl
  cases (loadRegistry_of_fault failed).symm.trans missing

end CookbookRules.RuleFile
