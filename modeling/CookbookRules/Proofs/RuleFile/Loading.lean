import CookbookRules.Proofs.Registry.Events
import CookbookRules.RuleFile.Load

/-!
# Loading into any registry

Which rules a file declares, and how its load ends, does not depend on the rules that are there before.
So a load of several files is told by the loads of each file into a registry of its own.
-/

namespace CookbookRules.RuleFile

/-- A run adds the same rules to every sound registry and ends in the same way. -/
def Appends {ε α : Type} (run : Registry → Registry × Except ε α) (new : List Rule)
    (outcome : Except ε α) : Prop :=
  ∀ r : Registry, r.Sound →
    (run r).1.Sound ∧ (run r).1.rules = r.rules ++ new ∧ (run r).2 = outcome

/-- What leaves the rules as another run has left them, and only words its outcome in its own way, adds
the same rules. -/
theorem Appends.finish {ε δ α β : Type} {run : Registry → Registry × Except ε α} {new : List Rule}
    {outcome : Except ε α} (h : Appends run new outcome) {run' : Registry → Registry × Except δ β}
    (word : Except ε α → Except δ β)
    (finished : ∀ r, ((run r).1.Sound → (run' r).1.Sound) ∧ (run' r).1.rules = (run r).1.rules ∧
      (run' r).2 = word (run r).2) :
    Appends run' new (word outcome) := by
  intro r sound
  obtain ⟨after, rules, ended⟩ := h r sound
  obtain ⟨stays, same, worded⟩ := finished r
  exact ⟨stays after, same.trans rules, by rw [worded, ended]⟩

/-- The list that a failed entry leaves is the one that it found. -/
theorem leave_rules (fault : EntryFault) {r : Registry} (sound : r.Sound) :
    (fault.leave r).Sound ∧ (fault.leave r).rules = r.rules := by
  cases fault with
  | exit begun what => exact ⟨sound.begin begun, sound.begin_rules begun⟩
  | _ => exact ⟨sound, rfl⟩

theorem appends_declareEntries (catalog : Catalog) (source : String) (entries : List Value) :
    ∃ new outcome, Appends (declareEntries catalog source entries) new outcome := by
  induction entries with
  | nil => exact ⟨[], .ok (), fun r sound => ⟨sound, (List.append_nil _).symm, rfl⟩⟩
  | cons entry rest ih =>
      cases compiled : compileEntry catalog source entry with
      | error fault =>
          refine ⟨[], .error fault, fun r sound => ?_⟩
          rw [declareEntries, compiled]
          obtain ⟨after, rules⟩ := leave_rules fault sound
          exact ⟨after, rules.trans (List.append_nil _).symm, rfl⟩
      | ok rule =>
          obtain ⟨new, outcome, later⟩ := ih
          refine ⟨rule :: new, outcome, fun r sound => ?_⟩
          rw [declareEntries, compiled]
          obtain ⟨after, rules, ended⟩ := later _ ((Records.declared rule).sound sound)
          exact ⟨after, by rw [rules, sound.declare_rules, List.append_assoc]; rfl, ended⟩

theorem appends_compileDocument (catalog : Catalog) (document : Value) (source : String) :
    ∃ new outcome, Appends (compileDocument catalog document source) new outcome := by
  cases checked : checkDocument document with
  | error violation =>
      refine ⟨[], .error (.ofViolation violation), fun r sound => ?_⟩
      rw [compileDocument, checked]
      exact ⟨sound, (List.append_nil _).symm, rfl⟩
  | ok entries =>
      obtain ⟨new, outcome, declares⟩ := appends_declareEntries catalog source entries
      refine ⟨new, _, declares.finish
        (fun outcome => (outcome.map fun _ => entries.length).mapError DocumentFault.entry)
        fun r => ?_⟩
      rw [compileDocument, checked]
      dsimp only
      rcases declareEntries catalog source entries r with ⟨s, fault | _⟩
      · exact ⟨id, rfl, rfl⟩
      · exact ⟨(·.note _), rfl, rfl⟩

theorem appends_loadFile (env : Environment) (path : Path) :
    ∃ new outcome, Appends (loadFile env path) new outcome := by
  cases read : readDocument env.files path with
  | error failure =>
      refine ⟨[], .error failure, fun r sound => ?_⟩
      rw [loadFile, read]
      exact ⟨sound, (List.append_nil _).symm, rfl⟩
  | ok document =>
      obtain ⟨new, outcome, compiles⟩ :=
        appends_compileDocument env.catalog document path.toString
      refine ⟨new, _, compiles.finish (·.mapError (·.failure path.toString)) fun r => ?_⟩
      rw [loadFile, read]
      dsimp only
      rcases compileDocument env.catalog document path.toString r with ⟨s, fault | count⟩
      · exact ⟨id, rfl, rfl⟩
      · exact ⟨(·.note _), rfl, rfl⟩

/-! ## Reading and compiling -/

section Left

variable {env : Environment} {path : Path} {document : Value} {source : String} {r : Registry}

theorem readDocument_of_parsed {text : String} (read : env.files.read path = .ok text)
    (parsed : Yaml.read true text = .ok document) : readDocument env.files path = .ok document := by
  simp only [readDocument, read, parsed]

/-- The load of a file that is read ends as its document does. -/
theorem loadFile_of_read (read : readDocument env.files path = .ok document) :
    (loadFile env path r).2 =
      (compileDocument env.catalog document path.toString r).2.mapError (·.failure path.toString) := by
  rw [loadFile, read]
  dsimp only
  rcases compileDocument env.catalog document path.toString r with ⟨after, fault | count⟩
  · rfl
  · rfl

/-- A document leaves what its entries leave, or this with a detail noted. -/
theorem compileDocument_leaves {catalog : Catalog} {entries : List Value} {P : Registry → Prop}
    (accepted : checkDocument document = .ok entries)
    (declared : P (declareEntries catalog source entries r).1)
    (noted : ∀ n : Note, n.level = .debug → P ((declareEntries catalog source entries r).1.note n)) :
    P (compileDocument catalog document source r).1 := by
  rw [compileDocument, accepted]
  dsimp only
  cases run : declareEntries catalog source entries r with
  | mk after outcome =>
      rw [run] at declared noted
      cases outcome with
      | error fault => exact declared
      | ok _ => exact noted _ rfl

/-- A file leaves what its document leaves, or this with a detail noted. -/
theorem loadFile_leaves {P : Registry → Prop} (read : readDocument env.files path = .ok document)
    (compiled : P (compileDocument env.catalog document path.toString r).1)
    (noted : ∀ n : Note, n.level = .debug →
      P ((compileDocument env.catalog document path.toString r).1.note n)) :
    P (loadFile env path r).1 := by
  rw [loadFile, read]
  dsimp only
  cases run : compileDocument env.catalog document path.toString r with
  | mk after outcome =>
      rw [run] at compiled noted
      cases outcome with
      | error fault => exact compiled
      | ok count => exact noted _ rfl

end Left

/-! ## Documents -/

/-- A document that is read was parsed from the text of its file. -/
theorem readDocument_eq_ok {files : Files} {path : Path} {document : Value}
    (h : readDocument files path = .ok document) :
    ∃ text, files.read path = .ok text ∧ Yaml.read true text = .ok document := by
  unfold readDocument at h
  dsimp only at h
  split at h
  · cases h
  · cases h
  · next text read =>
    split at h
    · next parsed =>
      cases h
      exact ⟨text, read, parsed⟩
    · cases h
    · cases h

/-! ## Load errors -/

/-- The codes that the load of a file can fail with. -/
def fileCodes : List String := ["RULE002", "RULE003", "RULE004", "RULE005"]

theorem readDocument_eq_error {files : Files} {path : Path} {e : LoadError}
    (h : readDocument files path = .error (.error e)) :
    e.path = path.toString ∧ e.cause.code ∈ fileCodes := by
  unfold readDocument at h
  dsimp only at h
  split at h
  · cases h
  · cases h
    exact ⟨rfl, by simp [LoadCause.code, fileCodes]⟩
  · split at h
    · cases h
    · cases h
    · cases h
      exact ⟨rfl, by simp [LoadCause.code, fileCodes]⟩

theorem failure_eq_error {fault : DocumentFault} {source : String} {e : LoadError}
    (h : fault.failure source = .error e) : e.path = source ∧ e.cause.code ∈ fileCodes := by
  unfold DocumentFault.failure at h
  split at h
  · cases h
    exact ⟨rfl, by simp [LoadCause.code, fileCodes]⟩
  · cases h
  · cases h
    exact ⟨rfl, by simp [LoadCause.code, fileCodes]⟩
  · cases h
    exact ⟨rfl, by simp [LoadCause.code, fileCodes]⟩
  · cases h
  · cases h
  · cases h

/-- A load error names its file and has one of the codes of files. -/
theorem loadFile_eq_error {env : Environment} {path : Path} {r : Registry} {e : LoadError}
    (h : (loadFile env path r).2 = .error (.error e)) :
    e.path = path.toString ∧ e.cause.code ∈ fileCodes := by
  unfold loadFile at h
  cases read : readDocument env.files path with
  | error failure =>
      rw [read] at h
      cases h
      exact readDocument_eq_error read
  | ok document =>
      rw [read] at h
      dsimp only at h
      cases compiled : compileDocument env.catalog document path.toString r with
      | mk s outcome =>
          rw [compiled] at h
          cases outcome with
          | ok count => cases h
          | error fault => exact failure_eq_error (Except.error.inj h)

/-! ## Several files -/

/-- The load of a file into a registry of its own. -/
def alone (env : Environment) (path : Path) : Registry × Except FileFailure Nat :=
  loadFile env path .empty

/-- A file can be loaded. -/
def Loads (env : Environment) (path : Path) : Prop :=
  ∃ count, (alone env path).2 = .ok count

/-- A file adds to every registry what it adds to one of its own. -/
theorem appends_alone (env : Environment) (path : Path) :
    Appends (loadFile env path) (alone env path).1.rules (alone env path).2 := by
  obtain ⟨new, outcome, loads⟩ := appends_loadFile env path
  obtain ⟨-, rules, ended⟩ := loads .empty (.empty [])
  rw [alone, rules, ended]
  exact loads

/-- Files are loaded one behind the other, up to the first that cannot be loaded. -/
theorem loadFiles_cases (env : Environment) (paths : List Path) {r : Registry} (sound : r.Sound) :
    ((∀ path ∈ paths, Loads env path) ∧ (loadFiles env paths r).2 = .ok () ∧
        (loadFiles env paths r).1.rules =
          r.rules ++ paths.flatMap fun path => (alone env path).1.rules) ∨
      ∃ before path after failure, paths = before ++ path :: after ∧
        (∀ earlier ∈ before, Loads env earlier) ∧ (alone env path).2 = .error failure ∧
        (loadFiles env paths r).2 = .error failure := by
  induction paths generalizing r with
  | nil => exact .inl ⟨by simp, rfl, (List.append_nil _).symm⟩
  | cons path rest ih =>
      obtain ⟨after, rules, ended⟩ := appends_alone env path r sound
      rw [loadFiles]
      cases loaded : loadFile env path r with
      | mk s outcome =>
          rw [loaded] at after rules ended
          cases outcome with
          | error failure =>
              exact .inr ⟨[], path, rest, failure, rfl, by simp, ended.symm, rfl⟩
          | ok count =>
              have loads : Loads env path := ⟨count, ended.symm⟩
              rcases ih after with ⟨all, succeeded, later⟩ | ⟨before, p, behind, failure, rfl, h⟩
              · refine .inl ⟨List.forall_mem_cons.2 ⟨loads, all⟩, succeeded, ?_⟩
                rw [later, rules, List.append_assoc]
                rfl
              · obtain ⟨earlier, failed, stopped⟩ := h
                exact .inr ⟨path :: before, p, behind, failure, rfl,
                  List.forall_mem_cons.2 ⟨loads, earlier⟩, failed, stopped⟩

end CookbookRules.RuleFile
