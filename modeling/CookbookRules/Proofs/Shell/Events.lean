import CookbookRules.Proofs.Registry.Evolution
import CookbookRules.Proofs.RuleFile.Compilation
import CookbookRules.Proofs.RuleFile.Loading
import CookbookRules.Shell.Session

/-!
# The events of commands

Which declarations begin while a command is carried out, and how the call of each ends: as its own
command does at that place of the run; which calls are made in it, and which rules they are meant to
change. `evolves_perform` and `evolves_performBody` say that this tells how the registry evolves, whatever
is nested in a command or a body.
-/

namespace CookbookRules

open Event

namespace RuleFile

/-- The events that the fault of an entry is seen by; `next` is the number of the next declaration. Of faults
that leave the registry as it was nothing is seen. -/
def EntryFault.events (next : RuleId) : EntryFault → List Event
  | exit .. => [began next, failed next]
  | _ => []

/-- The events of entries that are declared up to the first that fails; `next` is the number of the
next declaration. -/
def entryEvents (catalog : Catalog) (source : String) : List Value → RuleId → List Event
  | [], _ => []
  | entry :: rest, next =>
    match compileEntry catalog source entry with
    | .ok _ => [began next, returned next] ++ entryEvents catalog source rest (next + 1)
    | .error fault => fault.events next

/-- The events of a document. -/
def documentEvents (catalog : Catalog) (document : Value) (source : String) (next : RuleId) :
    List Event :=
  match checkDocument document with
  | .ok entries => entryEvents catalog source entries next
  | .error _ => []

/-- The events of a file. -/
def fileEvents (env : Environment) (path : Path) (next : RuleId) : List Event :=
  match readDocument env.files path with
  | .ok document => documentEvents env.catalog document path.toString next
  | .error _ => []

section

variable {stray : Prop}

/-- Only a declaration that an exit ends is not abandoned. -/
theorem evolves_leave (fault : EntryFault) (r : Registry)
    (reason : ∀ begun what, fault = .exit begun what → stray) :
    Evolves stray r (fault.events r.started.length) [] (fault.leave r) := by
  cases fault with
  | exit begun what => exact .left (reason begun what rfl) (.same stray (r.begin begun).2 [])
  | _ => exact .same stray r []

theorem evolves_declareEntries (catalog : Catalog) (source : String) (entries : List Value) (r : Registry)
    (reason : ∀ begun what,
      (declareEntries catalog source entries r).2 = .error (.exit begun what) → stray) :
    Evolves stray r (entryEvents catalog source entries r.started.length) []
      (declareEntries catalog source entries r).1 := by
  induction entries generalizing r with
  | nil => exact .same stray r []
  | cons entry rest ih =>
      simp only [entryEvents, declareEntries] at reason ⊢
      cases compiled : compileEntry catalog source entry with
      | error fault =>
          rw [compiled] at reason
          exact evolves_leave fault r fun begun what same => reason begun what (same ▸ rfl)
      | ok rule =>
          rw [compiled] at reason
          have later := ih (r.declare rule).2 reason
          rw [Registry.declare_started, List.length_append] at later
          exact (Evolves.declared stray r rule).trans later

theorem evolves_compileDocument (catalog : Catalog) (document : Value) (source : String) (r : Registry)
    (reason : ∀ begun what,
      (compileDocument catalog document source r).2 = .error (.entry (.exit begun what)) → stray) :
    Evolves stray r (documentEvents catalog document source r.started.length) []
      (compileDocument catalog document source r).1 := by
  unfold documentEvents
  cases checked : checkDocument document with
  | error violation =>
      rw [compileDocument, checked]
      exact .same stray r []
  | ok entries =>
      have declared := evolves_declareEntries catalog source entries r fun begun what exits =>
        reason begun what (by rw [compileDocument_outcome checked, exits])
      exact compileDocument_leaves checked declared fun n _ => declared.note n

theorem evolves_loadFile (env : Environment) (path : Path) (r : Registry)
    (reason : ∀ what, (loadFile env path r).2 = .error (.exit what) → stray) :
    Evolves stray r (fileEvents env path r.started.length) [] (loadFile env path r).1 := by
  unfold fileEvents
  cases read : readDocument env.files path with
  | error failure =>
      rw [loadFile, read]
      exact .same stray r []
  | ok document =>
      have compiled := evolves_compileDocument env.catalog document path.toString r fun begun what exits =>
        reason what (by rw [loadFile_of_read read, exits]; rfl)
      exact loadFile_leaves read compiled fun n _ => compiled.note n

end

end RuleFile

namespace Shell.Session

/-- How the call of a declaration ends: as the command does that it is. -/
def ending (id : RuleId) : Except Failure Answer → Event
  | .ok _ => returned id
  | .error _ => failed id

/-- The session that the body of a declaration finds. -/
def inside (rule : Rule) (s : Session) : Session :=
  { s with
    registry := (s.registry.begin rule).2
    builders := s.builders ++ [s.registry.started.length] }

mutual

/-- The events of a command. -/
def events (env : Environment) (s : Session) : Command → List Event
  | .rule heading =>
    match Rule.create heading.code heading.name heading.source heading.line with
    | .ok _ =>
      [began s.registry.started.length,
        ending s.registry.started.length (s.perform env (.rule heading)).2]
    | .error _ => []
  | .ruleWith heading body =>
    match Rule.create heading.code heading.name heading.source heading.line with
    | .ok rule =>
      began s.registry.started.length :: (bodyEvents env (s.inside rule) body ++
        [ending s.registry.started.length (s.perform env (.ruleWith heading body)).2])
    | .error _ => []
  | .ruleGiven heading body =>
    match Rule.create heading.code heading.name heading.source heading.line with
    | .ok _ =>
      [began s.registry.started.length,
        ending s.registry.started.length (s.perform env (.ruleGiven heading body)).2]
    | .error _ => []
  | .loadFile path => RuleFile.fileEvents env (Path.ofString path) s.registry.started.length
  | .compileDocument document source =>
    RuleFile.documentEvents env.catalog document source s.registry.started.length
  | .compileEntry entry source =>
    RuleFile.entryEvents env.catalog source [entry] s.registry.started.length
  | .catching command => events env s command
  | _ => []

/-- The events of the commands of a body, up to the first whose failure is not caught. -/
def bodyEvents (env : Environment) (s : Session) : List Command → List Event
  | [] => []
  | command :: rest =>
    let (after, result) := s.perform env command
    events env s command ++
      match result with
      | .ok _ => bodyEvents env (after.record result) rest
      | .error _ => if command.catches then bodyEvents env (after.record result) rest else []

end

/-! ## Calls -/

/-- A call of a command: what has happened before, the session that it finds, and the command. -/
structure Call where
  past : List Event
  session : Session
  command : Command

/-- A call seen from a time before some events. -/
def Call.behind (events : List Event) (call : Call) : Call :=
  { call with past := events ++ call.past }

mutual

/-- The calls in which a command is carried out, in the order in which they end: those of its body, and
last its own. -/
def calls (env : Environment) (s : Session) : Command → List Call
  | .ruleWith heading body =>
    match Rule.create heading.code heading.name heading.source heading.line with
    | .ok rule =>
      (bodyCalls env (s.inside rule) body).map (·.behind [began s.registry.started.length]) ++
        [⟨[], s, .ruleWith heading body⟩]
    | .error _ => [⟨[], s, .ruleWith heading body⟩]
  | .catching command => calls env s command
  | command => [⟨[], s, command⟩]

/-- The calls of the commands of a body, up to the first whose failure is not caught. -/
def bodyCalls (env : Environment) (s : Session) : List Command → List Call
  | [] => []
  | command :: rest =>
    let (after, result) := s.perform env command
    calls env s command ++
      match result with
      | .ok _ => (bodyCalls env (after.record result) rest).map (·.behind (events env s command))
      | .error _ =>
        if command.catches then
          (bodyCalls env (after.record result) rest).map (·.behind (events env s command))
        else []

end

namespace Call

/-- The events of a call. -/
def events (env : Environment) (call : Call) : List Event :=
  Session.events env call.session call.command

/-- The session that a call leaves. -/
def after (env : Environment) (call : Call) : Session :=
  (call.session.perform env call.command).1

/-- What a call answers, or why it fails. -/
def result (env : Environment) (call : Call) : Except Failure Answer :=
  (call.session.perform env call.command).2

/-- Whether an interrupt ends a declaration that the call is or makes. -/
def isInterrupted (env : Environment) (call : Call) : Bool :=
  match call.command, call.result env with
  | .interrupt, _ => false
  | _, .ok _ => false
  | _, .error failure => failure.isInterrupt

end Call

/-- No declaration is ended by an interrupt while a command is carried out. -/
def Orderly (env : Environment) (s : Session) (command : Command) : Prop :=
  ∀ call ∈ calls env s command, call.isInterrupted env = false

instance (env : Environment) (s : Session) (command : Command) :
    Decidable (Orderly env s command) :=
  inferInstanceAs (Decidable (∀ call ∈ calls env s command, call.isInterrupted env = false))

/-! ## Targets -/

/-- The rule that a target names. -/
def target? (s : Session) : Target → Option RuleId
  | .current => s.registry.current
  | .builder index => item? s.builders index

/-- Why a change fails whose target names no rule. -/
def missing : Target → Failure
  | .current => .rule .noCurrentRule
  | .builder _ => .noSuchIndex

/-- The target of a command that changes a rule, and the change. -/
def change? : Command → Option (Target × (Rule → Except Rule.Fault Rule))
  | .tags target tags => some (target, (·.addTags tags))
  | .matcher target kind callback => some (target, (·.setMatcher kind callback))
  | _ => none

/-- The rule that a call is meant to change. -/
def Call.hit? (call : Call) : Option RuleId :=
  (change? call.command).bind fun (target, _) => call.session.target? target

/-- The rules that the calls of a command are meant to change. -/
def hits (env : Environment) (s : Session) (command : Command) : List RuleId :=
  (calls env s command).filterMap Call.hit?

/-! ## What the events tell -/

variable {env : Environment} {s : Session}

theorem filterMap_hit?_behind (events : List Event) (calls : List Call) :
    (calls.map (·.behind events)).filterMap Call.hit? = calls.filterMap Call.hit? := by
  rw [List.filterMap_map]
  rfl

/-- A change is that of the rule which its target names; there has to be one. -/
theorem change_eq (target : Target) (f : Rule → Except Rule.Fault Rule) (answer : Answer) :
    s.change target f answer =
      match s.target? target with
      | none => (s, .error (missing target))
      | some id =>
        match s.registry.modify id f with
        | .ok registry => (s.withRegistry registry, .ok answer)
        | .error fault => (s, .error (.rule fault)) := by
  cases target with
  | current =>
      simp only [change, target?, Registry.modifyCurrent]
      cases s.registry.current with
      | none => rfl
      | some id =>
          dsimp only
          cases s.registry.modify id f <;> rfl
  | builder index =>
      simp only [change, target?]
      cases item? s.builders index with
      | none => rfl
      | some id =>
          dsimp only
          cases s.registry.modify id f <;> rfl

theorem evolves_change (stray : Prop) (target : Target) (f : Rule → Except Rule.Fault Rule)
    (answer : Answer) :
    Evolves stray s.registry [] (s.target? target).toList (s.change target f answer).1.registry := by
  rw [change_eq]
  cases s.target? target with
  | none => exact .same stray s.registry []
  | some id =>
      dsimp only
      cases modified : s.registry.modify id f with
      | error fault => exact .same stray s.registry _
      | ok after =>
          rcases Registry.modify_eq_ok modified with ⟨old, new, -, -, rfl⟩ | ⟨-, rfl⟩
          · exact .changed s.registry id new
          · exact .same stray s.registry _

theorem evolves_askBuilder (stray : Prop) (index : Int) (answer : Rule → Answer) :
    Evolves stray s.registry [] [] (s.askBuilder index answer).1.registry := by
  unfold askBuilder
  split <;> exact .same stray s.registry []

theorem evolves_declareFailing (stray : Prop) (rule : Rule) (failure : Failure) :
    Evolves stray s.registry [began s.registry.started.length, failed s.registry.started.length] []
      (s.declareFailing rule failure).1.registry :=
  (Evolves.same stray (s.registry.begin rule).2 []).abandoned

theorem evolves_declareGiven (stray : Prop) (rule : Rule) (body : Value) :
    Evolves stray s.registry
      [began s.registry.started.length,
        ending s.registry.started.length (s.declareGiven rule body).2] []
      (s.declareGiven rule body).1.registry := by
  unfold declareGiven
  split
  · exact Evolves.declared stray s.registry rule
  · exact Evolves.declared stray s.registry rule
  · exact Evolves.declared stray s.registry rule
  · exact evolves_declareFailing stray rule _
  · exact evolves_declareFailing stray rule _

theorem finish_some (declaration : Declaration) (index : Nat) (rule : Rule) (failure : Failure) :
    s.finish declaration index rule (some failure) =
      if failure.isInterrupt then (s, .error failure)
      else (s.withRegistry (s.registry.abandon declaration), .error failure) := rfl

/-- A declaration ends as its call does, whatever its body has declared. Only one that an interrupt ends
is not abandoned. -/
theorem evolves_finish {stray : Prop} {rule : Rule} {within : List Event} {hit : List RuleId}
    {after : Session} (body : Evolves stray (s.inside rule).registry within hit after.registry)
    (index : Nat) (failure : Option Failure)
    (reason : ∀ f, failure = some f → f.isInterrupt = true → stray) :
    Evolves stray s.registry
      (began s.registry.started.length :: (within ++ [ending s.registry.started.length
        (after.finish (s.registry.begin rule).1 index rule failure).2])) hit
      (after.finish (s.registry.begin rule).1 index rule failure).1.registry := by
  cases failure with
  | none => exact body.returned
  | some failure =>
      rw [finish_some]
      cases interrupts : failure.isInterrupt with
      | true => exact body.left (reason failure rfl interrupts)
      | false => exact body.abandoned

section

variable {stray : Prop}

mutual

/-- How a registry evolves while a command is carried out. -/
theorem evolves_perform (env : Environment) (s : Session) (command : Command)
    (reason : ∀ call ∈ calls env s command, call.isInterrupted env = true → stray) :
    Evolves stray s.registry (events env s command) (hits env s command)
      (s.perform env command).1.registry := by
  have own (single : calls env s command = [⟨[], s, command⟩]) :
      (⟨[], s, command⟩ : Call).isInterrupted env = true → stray :=
    reason _ (single ▸ List.mem_singleton_self _)
  cases command with
  | rule heading =>
      simp only [events, perform]
      cases Rule.create heading.code heading.name heading.source heading.line with
      | error fault => exact .same stray s.registry []
      | ok rule => exact .declared stray s.registry rule
  | ruleWith heading body =>
      cases created : Rule.create heading.code heading.name heading.source heading.line with
      | error fault =>
          simp only [events, perform, created]
          exact .same stray s.registry _
      | ok rule =>
          simp only [calls, created, List.forall_mem_append, List.forall_mem_map] at reason
          have within := evolves_performBody env (s.inside rule) body reason.1
          have carried : hits env s (.ruleWith heading body) =
              (bodyCalls env (s.inside rule) body).filterMap Call.hit? := by
            simp only [hits, calls, created, List.filterMap_append, filterMap_hit?_behind]
            exact List.append_nil _
          rw [carried]
          simp only [events, perform, created]
          apply evolves_finish within
          intro failure ended interrupts
          apply reason.2 _ (List.mem_singleton_self _)
          have fails : (s.perform env (.ruleWith heading body)).2 = .error failure := by
            simp only [perform, created]
            rw [ended, finish_some]
            split <;> rfl
          simp only [Call.isInterrupted, Call.result, fails, interrupts]
  | ruleGiven heading body =>
      simp only [events, perform]
      cases Rule.create heading.code heading.name heading.source heading.line with
      | error fault => exact .same stray s.registry []
      | ok rule => exact evolves_declareGiven stray rule body
  | tags target tags => exact evolves_change stray target _ _
  | matcher target kind callback => exact evolves_change stray target _ _
  | builderForm index => exact evolves_askBuilder stray index _
  | showBuilder index => exact evolves_askBuilder stray index _
  | loadFile path =>
      refine RuleFile.evolves_loadFile env _ _ fun what exits => ?_
      apply own rfl
      simp only [Call.isInterrupted, Call.result, perform, counted, exits]
      rfl
  | compileDocument document source =>
      refine RuleFile.evolves_compileDocument env.catalog _ _ _ fun begun what exits => ?_
      apply own rfl
      simp only [Call.isInterrupted, Call.result, perform, counted, exits]
      rfl
  | compileEntry entry source =>
      simp only [events, perform, compileEntry, RuleFile.entryEvents]
      cases compiled : RuleFile.compileEntry env.catalog source entry with
      | error fault =>
          refine RuleFile.evolves_leave fault s.registry fun begun what exits => ?_
          apply own rfl
          simp only [Call.isInterrupted, Call.result, perform, compileEntry, compiled, exits]
          rfl
      | ok rule => exact .declared stray s.registry rule
  | catching command => exact evolves_perform env s command reason
  | _ => exact .same stray s.registry []

/-- How a registry evolves in a body, also where its commands end early. -/
theorem evolves_performBody (env : Environment) (s : Session) (body : List Command)
    (reason : ∀ call ∈ bodyCalls env s body, call.isInterrupted env = true → stray) :
    Evolves stray s.registry (bodyEvents env s body) ((bodyCalls env s body).filterMap Call.hit?)
      (s.performBody env body).1.registry := by
  cases body with
  | nil => exact .same stray s.registry []
  | cons command rest =>
      simp only [bodyEvents, bodyCalls, performBody] at reason ⊢
      cases result : (s.perform env command).2 with
      | ok answer =>
          simp only [result, List.forall_mem_append, List.forall_mem_map] at reason
          rw [List.filterMap_append, filterMap_hit?_behind]
          exact (evolves_perform env s command reason.1).trans
            (evolves_performBody env ((s.perform env command).1.record _) rest reason.2)
      | error failure =>
          dsimp only
          by_cases caught : command.catches = true
          · simp only [result, caught, if_true, List.forall_mem_append, List.forall_mem_map]
              at reason ⊢
            rw [List.filterMap_append, filterMap_hit?_behind]
            exact (evolves_perform env s command reason.1).trans
              (evolves_performBody env ((s.perform env command).1.record _) rest reason.2)
          · simp only [result, if_neg caught, List.append_nil] at reason ⊢
            exact evolves_perform env s command reason

end

end

/-- The events of a command tell what became of the registry. -/
theorem records_perform (env : Environment) (s : Session) (command : Command) :
    Records s.registry (events env s command) (s.perform env command).1.registry :=
  (evolves_perform env s command fun _ _ _ => trivial).records

end Shell.Session

end CookbookRules
