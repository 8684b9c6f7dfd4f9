import CookbookRules.Proofs.Registry.Growth
import CookbookRules.Proofs.Shell.Events

/-!
# What files and commands declare

The rules that a file, a command or a body declares, as they were when their declarations began. Whatever is
nested in a command, the registry gains just these, in this order, and changes rules only in place
(`gains_perform`). What a file declares is told by its load into a registry of its own.
-/

namespace CookbookRules

open Registry

namespace RuleFile

variable {env : Environment} {paths : List Path} {r : Registry}

/-! ## Files -/

/-- An entry that fails lists nothing, also where its rule has begun. -/
theorem addsQuietly_leave (fault : EntryFault) (r : Registry) : AddsQuietly r [] (fault.leave r) := by
  cases fault with
  | exit begun what => exact .begins r begun
  | _ => exact .nothing r

theorem exists_addsQuietly_declareEntries (catalog : Catalog) (source : String)
    (entries : List Value) :
    ∃ new, ∀ r, AddsQuietly r new (declareEntries catalog source entries r).1 := by
  induction entries with
  | nil => exact ⟨[], fun r => .nothing r⟩
  | cons entry rest ih =>
      simp only [declareEntries]
      cases compileEntry catalog source entry with
      | error fault => exact ⟨[], addsQuietly_leave fault⟩
      | ok rule =>
          obtain ⟨new, adds⟩ := ih
          exact ⟨rule :: new, fun r => (adds _).cons⟩

theorem exists_addsQuietly_compileDocument (catalog : Catalog) (document : Value) (source : String) :
    ∃ new, ∀ r, AddsQuietly r new (compileDocument catalog document source r).1 := by
  cases checked : checkDocument document with
  | error violation =>
      refine ⟨[], fun r => ?_⟩
      rw [compileDocument, checked]
      exact .nothing r
  | ok entries =>
      obtain ⟨new, adds⟩ := exists_addsQuietly_declareEntries catalog source entries
      exact ⟨new, fun r => compileDocument_leaves checked (adds r) fun _ detail => (adds r).note detail⟩

theorem exists_addsQuietly_loadFile (env : Environment) (path : Path) :
    ∃ new, ∀ r, AddsQuietly r new (loadFile env path r).1 := by
  cases read : readDocument env.files path with
  | error failure =>
      refine ⟨[], fun r => ?_⟩
      rw [loadFile, read]
      exact .nothing r
  | ok document =>
      obtain ⟨new, adds⟩ :=
        exists_addsQuietly_compileDocument env.catalog document path.toString
      exact ⟨new, fun r => loadFile_leaves read (adds r) fun _ detail => (adds r).note detail⟩

/-- A document declares in every registry what it declares in an empty one. -/
theorem gains_compileDocument (catalog : Catalog) (document : Value) (source : String) (r : Registry) :
    Gains r (compileDocument catalog document source .empty).1.rules
      (compileDocument catalog document source r).1 := by
  obtain ⟨new, adds⟩ := exists_addsQuietly_compileDocument catalog document source
  exact AddsQuietly.gains_of_empty adds r

theorem gains_loadFile (env : Environment) (path : Path) (r : Registry) :
    Gains r (alone env path).1.rules (loadFile env path r).1 := by
  obtain ⟨new, adds⟩ := exists_addsQuietly_loadFile env path
  exact AddsQuietly.gains_of_empty adds r

/-- Files that are all loaded declare their rules behind each other. -/
theorem gains_loadFiles (loaded : (loadFiles env paths r).2 = .ok ()) :
    Gains r (paths.flatMap fun path => (alone env path).1.rules) (loadFiles env paths r).1 := by
  induction paths generalizing r with
  | nil => exact .same r
  | cons path rest ih =>
      have own := gains_loadFile env path r
      rw [loadFiles] at loaded ⊢
      cases first : loadFile env path r with
      | mk after outcome =>
          rw [first] at own loaded
          cases outcome with
          | error failure => cases loaded
          | ok count => exact own.trans (ih loaded)

theorem level_of_mem_resolve {files : Files} {endings : List String} {note : Note}
    (member : note ∈ (resolve files endings paths).1) : note.level = .debug := by
  induction paths with
  | nil => cases member
  | cons path rest ih =>
      simp only [resolve] at member
      split at member
      · rcases List.mem_cons.1 member with rfl | later
        · rfl
        · exact ih later
      · exact ih member
      · cases member
      · cases member

/-- A load that succeeds has found files and loaded all of them. -/
theorem loadRegistry_eq_ok (loaded : (loadRegistry env paths).2 = .ok ()) :
    ∃ notes found, resolve env.files ruleFileEndings paths = (notes, .ok found) ∧
      let files := loadFiles env found { Registry.empty with notes := notes }
      files.2 = .ok () ∧ (loadRegistry env paths).1 =
        files.1.note (.allLoaded files.1.listed.length found.length) := by
  unfold loadRegistry at loaded ⊢
  cases resolved : resolve env.files ruleFileEndings paths with
  | mk notes outcome =>
      rw [resolved] at loaded
      cases outcome with
      | error fault => cases loaded
      | ok found =>
          dsimp only at loaded ⊢
          refine ⟨notes, found, rfl, ?_⟩
          cases files : loadFiles env found { Registry.empty with notes := notes } with
          | mk after ended =>
              rw [files] at loaded
              cases ended with
              | error failure => cases loaded
              | ok _ => exact ⟨rfl, rfl⟩

/-- Such a load gains the rules of the files, without a warning. -/
theorem gains_loadRegistry (loaded : (loadRegistry env paths).2 = .ok ()) :
    ∃ notes found, resolve env.files ruleFileEndings paths = (notes, .ok found) ∧
      Gains { Registry.empty with notes := notes }
        (found.flatMap fun path => (alone env path).1.rules) (loadRegistry env paths).1 ∧
      (loadRegistry env paths).1.warnings = [] := by
  obtain ⟨notes, found, resolved, succeeded, ended⟩ := loadRegistry_eq_ok loaded
  have details : ({ Registry.empty with notes := notes } : Registry).warnings = [] := by
    refine List.filter_eq_nil_iff.2 fun note member => ?_
    have own : note ∈ (resolve env.files ruleFileEndings paths).1 := resolved ▸ member
    simp [level_of_mem_resolve own]
  have gains : Gains { Registry.empty with notes := notes }
      (found.flatMap fun path => (alone env path).1.rules) (loadRegistry env paths).1 := by
    rw [ended]
    exact (gains_loadFiles succeeded).note rfl
  exact ⟨notes, found, resolved, gains, gains.quiet.trans details⟩

end RuleFile

namespace Shell.Session

variable {env : Environment} {s : Session}

/-! ## Commands -/

/-- The rule of a declaration in front of those of its body, if the call returns. -/
def around (rule : Rule) (within : List Rule) : Except Failure Answer → List Rule
  | .ok _ => rule :: within
  | .error _ => within

mutual

/-- The rules that are declared while a command is carried out, as they were when their declarations began,
and in that order. A declaration of which the call fails is none of them. -/
def declarations (env : Environment) (s : Session) : Command → List Rule
  | .rule heading =>
    match Rule.create heading.code heading.name heading.source heading.line with
    | .ok rule => around rule [] (s.perform env (.rule heading)).2
    | .error _ => []
  | .ruleWith heading body =>
    match Rule.create heading.code heading.name heading.source heading.line with
    | .ok rule =>
      around rule (bodyDeclarations env (s.inside rule) body) (s.perform env (.ruleWith heading body)).2
    | .error _ => []
  | .ruleGiven heading body =>
    match Rule.create heading.code heading.name heading.source heading.line with
    | .ok rule => around rule [] (s.perform env (.ruleGiven heading body)).2
    | .error _ => []
  | .loadFile path => (RuleFile.alone env (Path.ofString path)).1.rules
  | .compileDocument document source =>
    (RuleFile.compileDocument env.catalog document source .empty).1.rules
  | .compileEntry entry source =>
    match RuleFile.compileEntry env.catalog source entry with
    | .ok rule => [rule]
    | .error _ => []
  | .catching command => declarations env s command
  | _ => []

/-- The rules that are declared in a body, up to the first command whose failure is not caught. -/
def bodyDeclarations (env : Environment) (s : Session) : List Command → List Rule
  | [] => []
  | command :: rest =>
    let (after, result) := s.perform env command
    declarations env s command ++
      match result with
      | .ok _ => bodyDeclarations env (after.record result) rest
      | .error _ => if command.catches then bodyDeclarations env (after.record result) rest else []

end

/-- The rules that the commands of a program declare. -/
def runDeclarations (env : Environment) (s : Session) : List Command → List Rule
  | [] => []
  | command :: rest =>
    let (after, result) := s.perform env command
    declarations env s command ++ runDeclarations env (after.record result) rest

/-- A change of a target is a call that changes its rule in place, or changes nothing. -/
theorem gains_change (target : Target) (call : Rule.Call) (answer : Answer) :
    Gains s.registry [] (s.change target call.change answer).1.registry := by
  rw [change_eq]
  cases s.target? target with
  | none => exact .same s.registry
  | some id =>
      dsimp only
      cases modified : s.registry.modify id call.change with
      | error fault => exact .same s.registry
      | ok after =>
          rcases Registry.modify_eq_ok modified with ⟨old, new, found, made, rfl⟩ | ⟨-, rfl⟩
          · exact .changed found made
          · exact .same s.registry

theorem gains_askBuilder (index : Int) (answer : Rule → Answer) :
    Gains s.registry [] (s.askBuilder index answer).1.registry := by
  unfold askBuilder
  split <;> exact .same s.registry

theorem gains_declareFailing (rule : Rule) (failure : Failure) :
    Gains s.registry [] (s.declareFailing rule failure).1.registry :=
  (Gains.same (s.registry.begin rule).2).abandoned

theorem gains_declareGiven (rule : Rule) (body : Value) :
    Gains s.registry (around rule [] (s.declareGiven rule body).2)
      (s.declareGiven rule body).1.registry := by
  unfold declareGiven
  split
  · exact .declared s.registry rule
  · exact .declared s.registry rule
  · exact .declared s.registry rule
  · exact gains_declareFailing rule _
  · exact gains_declareFailing rule _

/-- Whatever its body has declared, a declaration adds its own rule only if its call returns. -/
theorem gains_finish {rule : Rule} {within : List Rule} {after : Session}
    (body : Gains (s.inside rule).registry within after.registry) (index : Nat)
    (failure : Option Failure) :
    Gains s.registry
      (around rule within (after.finish (s.registry.begin rule).1 index rule failure).2)
      (after.finish (s.registry.begin rule).1 index rule failure).1.registry := by
  cases failure with
  | none => exact body.returned
  | some failure =>
      rw [finish_some]
      split
      · exact body.left
      · exact body.abandoned

mutual

/-- What a registry gains while a command is carried out. -/
theorem gains_perform (env : Environment) (s : Session) (command : Command) :
    Gains s.registry (declarations env s command) (s.perform env command).1.registry := by
  cases command with
  | rule heading =>
      simp only [declarations, perform]
      cases Rule.create heading.code heading.name heading.source heading.line with
      | error fault => exact .same s.registry
      | ok rule => exact .declared s.registry rule
  | ruleWith heading body =>
      cases created : Rule.create heading.code heading.name heading.source heading.line with
      | error fault =>
          simp only [declarations, perform, created]
          exact .same s.registry
      | ok rule =>
          have within := gains_performBody env (s.inside rule) body
          simp only [declarations, perform, created]
          exact gains_finish within _ _
  | ruleGiven heading body =>
      simp only [declarations, perform]
      cases Rule.create heading.code heading.name heading.source heading.line with
      | error fault => exact .same s.registry
      | ok rule => exact gains_declareGiven rule body
  | tags target tags => exact gains_change target (.addTags tags) _
  | matcher target kind callback => exact gains_change target (.setMatcher kind callback) _
  | builderForm index => exact gains_askBuilder index _
  | showBuilder index => exact gains_askBuilder index _
  | loadFile path => exact RuleFile.gains_loadFile env _ _
  | compileDocument document source => exact RuleFile.gains_compileDocument env.catalog _ _ _
  | compileEntry entry source =>
      simp only [declarations, perform, compileEntry]
      cases RuleFile.compileEntry env.catalog source entry with
      | error fault => exact (RuleFile.addsQuietly_leave fault s.registry).toGains
      | ok rule => exact .declared s.registry rule
  | catching command => exact gains_perform env s command
  | _ => exact .same s.registry

/-- What a registry gains in a body, also where its commands end early. -/
theorem gains_performBody (env : Environment) (s : Session) (body : List Command) :
    Gains s.registry (bodyDeclarations env s body) (s.performBody env body).1.registry := by
  cases body with
  | nil => exact .same s.registry
  | cons command rest =>
      have own := gains_perform env s command
      have later := gains_performBody env
        ((s.perform env command).1.record (s.perform env command).2) rest
      simp only [bodyDeclarations, performBody]
      cases result : (s.perform env command).2 with
      | ok answer =>
          rw [result] at later
          exact own.trans later
      | error failure =>
          rw [result] at later
          dsimp only
          split
          · exact own.trans later
          · exact own.trans (.same _)

end

/-- What a registry gains in a program. -/
theorem gains_run (env : Environment) (s : Session) (program : List Command) :
    Gains s.registry (runDeclarations env s program) (s.run env program).registry := by
  induction program generalizing s with
  | nil => exact .same s.registry
  | cons command rest ih =>
      have own := gains_perform env s command
      exact own.trans (ih ((s.perform env command).1.record (s.perform env command).2))

end Shell.Session

end CookbookRules
