import CookbookRules.Proofs.Shell.Declarations

/-!
# What changes reach

Calls are nested, their failures may be caught, and builders stay usable after the declaration that made
them. At each moment of such a program the current rule is told by the events before it, and every target
names a rule whose declaration has begun. So each call changes the rule that its target names and nothing
else, and a call that fails changes nothing.
-/

namespace CookbookRules.Shell.Session

open Event

variable {env : Environment} {first s t : Session} {past : List Event}

/-! ## Moments -/

/-- Commands that are carried out one after the other, each with the files and modules of its own time,
and with what has happened in them. No interrupt ends a declaration. -/
inductive History (first : Session) : List Event → Session → Prop
  | start : History first [] first
  | step {past : List Event} {s : Session} (before : History first past s) (env : Environment)
      (command : Command) (orderly : Orderly env s command) :
      History first (past ++ events env s command)
        ((s.perform env command).1.record (s.perform env command).2)

/-- A moment of such a program, perhaps inside declarations that are in progress. -/
inductive Moment (first : Session) : List Event → Session → Prop
  | start : Moment first [] first
  | opened {past : List Event} {s : Session} (before : Moment first past s) (rule : Rule) :
      Moment first (past ++ [began s.registry.started.length]) (s.inside rule)
  | step {past : List Event} {s : Session} (before : Moment first past s) (env : Environment)
      (command : Command) (orderly : Orderly env s command) :
      Moment first (past ++ events env s command)
        ((s.perform env command).1.record (s.perform env command).2)

theorem History.moment (h : History first past s) : Moment first past s := by
  induction h with
  | start => exact .start
  | step _ env command orderly ih => exact ih.step env command orderly

/-- How a registry evolves while no interrupt ends a declaration. -/
theorem Orderly.evolves {command : Command} (orderly : Orderly env s command) :
    Evolves False s.registry (events env s command) (hits env s command)
      (s.perform env command).1.registry := by
  apply evolves_perform env s command
  intro call member interrupted
  rw [orderly call member] at interrupted
  cases interrupted

/-- The events before a moment tell what became of the registry until then. -/
theorem Moment.records (h : Moment first past s) : Records first.registry past s.registry := by
  induction h with
  | start => exact .silent rfl rfl
  | opened _ rule ih => exact ih.trans (.begins rule)
  | step _ env command orderly ih => exact ih.trans orderly.evolves.records

/-- The events before a moment tell the current rule. -/
theorem Moment.points (h : Moment first past s) :
    Points first.registry.current past s.registry.current := by
  induction h with
  | start => exact .held fun _ => not_stands_nil
  | opened before rule ih =>
      exact before.records.points_trans (.begins rule) ih (.latest latest_began)
  | step before env command orderly ih =>
      exact before.records.points_trans orderly.evolves.records ih orderly.evolves.points

mutual

/-- Every call that a command makes is at a moment of the program. -/
theorem moment_calls {past : List Event} (env : Environment) (s : Session) (command : Command)
    (before : Moment first past s) (orderly : Orderly env s command) :
    ∀ call ∈ calls env s command,
      Moment first (past ++ call.past) call.session ∧ Orderly env call.session call.command := by
  have own {command : Command} (orderly : Orderly env s command) :
      ∀ call ∈ [(⟨[], s, command⟩ : Call)],
        Moment first (past ++ call.past) call.session ∧ Orderly env call.session call.command := by
    intro call member
    cases List.mem_singleton.1 member
    exact ⟨(List.append_nil past).symm ▸ before, orderly⟩
  cases command with
  | ruleWith heading body =>
      cases created : Rule.create heading.code heading.name heading.source heading.line with
      | error fault =>
          simp only [calls, created]
          exact own orderly
      | ok rule =>
          have parts := orderly
          simp only [Orderly, calls, created, List.forall_mem_append, List.forall_mem_map] at parts
          have within := moment_bodyCalls env (s.inside rule) body (before.opened rule) parts.1
          simp only [calls, created, List.forall_mem_append, List.forall_mem_map]
          refine ⟨fun call member => ?_, own orderly⟩
          have inside := within call member
          rwa [List.append_assoc] at inside
  | catching command => exact moment_calls env s command before orderly
  | _ => exact own orderly

/-- Every call that a body makes is at a moment of the program. -/
theorem moment_bodyCalls {past : List Event} (env : Environment) (s : Session)
    (body : List Command) (before : Moment first past s)
    (orderly : ∀ call ∈ bodyCalls env s body, call.isInterrupted env = false) :
    ∀ call ∈ bodyCalls env s body,
      Moment first (past ++ call.past) call.session ∧ Orderly env call.session call.command := by
  cases body with
  | nil => exact fun call member => nomatch member
  | cons command rest =>
      -- The calls behind the first command, if its result lets the body go on.
      have goesOn (own : Orderly env s command) (later : ∀ call ∈
          bodyCalls env ((s.perform env command).1.record (s.perform env command).2) rest,
            call.isInterrupted env = false) :
          ∀ call ∈ bodyCalls env ((s.perform env command).1.record (s.perform env command).2) rest,
            Moment first (past ++ (call.behind (events env s command)).past) call.session ∧
              Orderly env call.session call.command := by
        intro call member
        have behind := moment_bodyCalls env _ rest (before.step env command own) later call member
        rwa [List.append_assoc] at behind
      simp only [bodyCalls] at orderly ⊢
      cases result : (s.perform env command).2 with
      | ok answer =>
          simp only [result, List.forall_mem_append, List.forall_mem_map] at orderly goesOn ⊢
          exact ⟨moment_calls env s command before orderly.1, goesOn orderly.1 orderly.2⟩
      | error failure =>
          by_cases caught : command.catches = true
          · simp only [result, if_pos caught, List.forall_mem_append, List.forall_mem_map]
              at orderly goesOn ⊢
            exact ⟨moment_calls env s command before orderly.1, goesOn orderly.1 orderly.2⟩
          · simp only [result, if_neg caught, List.append_nil] at orderly ⊢
            exact moment_calls env s command before orderly

end

/-! ## Builders -/

/-- The builders of a session stay for the rules that they are for; new ones are for declarations that
begin. -/
def Builds (s : Session) (events : List Event) (after : Session) : Prop :=
  ∃ new, after.builders = s.builders ++ new ∧ ∀ id ∈ new, began id ∈ events

namespace Builds

variable {middle after : Session} {events second : List Event}

theorem same (kept : after.builders = s.builders) : Builds s events after :=
  ⟨[], by rw [kept, List.append_nil], fun id member => nomatch member⟩

theorem trans (h : Builds s events middle) (h' : Builds middle second after) :
    Builds s (events ++ second) after := by
  obtain ⟨new, grown, begun⟩ := h
  obtain ⟨more, grown', begun'⟩ := h'
  refine ⟨new ++ more, by rw [grown', grown, List.append_assoc], fun id member => ?_⟩
  rcases List.mem_append.1 member with inNew | inMore
  · exact List.mem_append_left second (begun id inNew)
  · exact List.mem_append_right events (begun' id inMore)

/-- A declaration adds its own builder before those of its body. -/
theorem around {rule : Rule} (h : Builds (s.inside rule) events middle)
    (kept : after.builders = middle.builders) (last : Event) :
    Builds s (began s.registry.started.length :: (events ++ [last])) after := by
  have own : Builds s [began s.registry.started.length] (s.inside rule) :=
    ⟨[s.registry.started.length], rfl, by simp⟩
  have ending : Builds middle [last] after := same kept
  exact own.trans (h.trans ending)

theorem declared (rule : Rule) (last : Event) :
    Builds s [began s.registry.started.length, last] (s.declare rule).1 :=
  (same rfl : Builds (s.inside rule) [] (s.inside rule)).around rfl last

end Builds

theorem change_builders (target : Target) (f : Rule → Except Rule.Fault Rule) (answer : Answer) :
    (s.change target f answer).1.builders = s.builders := by
  rw [change_eq]
  split
  · rfl
  · split <;> rfl

theorem askBuilder_builders (index : Int) (answer : Rule → Answer) :
    (s.askBuilder index answer).1.builders = s.builders := by
  unfold askBuilder
  split <;> rfl

theorem compileEntry_builders (entry : Value) (source : String) :
    (s.compileEntry env entry source).1.builders = s.builders := by
  unfold compileEntry
  split <;> rfl

theorem finish_builders (d : Declaration) (index : Nat) (rule : Rule) (failure : Option Failure) :
    (s.finish d index rule failure).1.builders = s.builders := by
  cases failure with
  | none => rfl
  | some failure =>
      rw [finish_some]
      split <;> rfl

/-- A declaration whose body is a value has a builder if its call returns. -/
theorem builds_declareGiven (rule : Rule) (body : Value) :
    Builds s [began s.registry.started.length,
      ending s.registry.started.length (s.declareGiven rule body).2] (s.declareGiven rule body).1 := by
  unfold declareGiven
  split
  · exact .declared rule _
  · exact .declared rule _
  · exact .declared rule _
  · exact .same rfl
  · exact .same rfl

mutual

theorem builds_perform (env : Environment) (s : Session) (command : Command) :
    Builds s (events env s command) (s.perform env command).1 := by
  cases command with
  | rule heading =>
      simp only [events, perform]
      cases Rule.create heading.code heading.name heading.source heading.line with
      | error fault => exact .same rfl
      | ok rule => exact .declared rule _
  | ruleWith heading body =>
      cases created : Rule.create heading.code heading.name heading.source heading.line with
      | error fault =>
          simp only [events, perform, created]
          exact .same rfl
      | ok rule =>
          have within := builds_performBody env (s.inside rule) body
          simp only [events, perform, created]
          exact within.around (finish_builders ..) _
  | ruleGiven heading body =>
      simp only [events, perform]
      cases Rule.create heading.code heading.name heading.source heading.line with
      | error fault => exact .same rfl
      | ok rule => exact builds_declareGiven rule body
  | tags target tags => exact .same (change_builders ..)
  | matcher target kind callback => exact .same (change_builders ..)
  | builderForm index => exact .same (askBuilder_builders ..)
  | showBuilder index => exact .same (askBuilder_builders ..)
  | compileEntry entry source => exact .same (compileEntry_builders ..)
  | catching command => exact builds_perform env s command
  | _ => exact .same rfl

theorem builds_performBody (env : Environment) (s : Session) (body : List Command) :
    Builds s (bodyEvents env s body) (s.performBody env body).1 := by
  cases body with
  | nil => exact .same rfl
  | cons command rest =>
      have own := builds_perform env s command
      have later := builds_performBody env
        ((s.perform env command).1.record (s.perform env command).2) rest
      simp only [bodyEvents, performBody]
      cases result : (s.perform env command).2 with
      | ok answer =>
          rw [result] at later
          exact own.trans later
      | error failure =>
          rw [result] at later
          dsimp only
          split
          · exact own.trans later
          · exact own.trans (.same rfl)

end

/-- A declaration that adds a builder: one with a heading that is accepted. If its body is a value, its
call has to return. -/
def AddsBuilder (env : Environment) (s : Session) : Command → Prop
  | .rule heading =>
    ∃ rule, Rule.create heading.code heading.name heading.source heading.line = .ok rule
  | .ruleWith heading _ =>
    ∃ rule, Rule.create heading.code heading.name heading.source heading.line = .ok rule
  | .ruleGiven heading body => ∃ answer, (s.perform env (.ruleGiven heading body)).2 = .ok answer
  | _ => False

/-- Among the builders that are added during a declaration, its own comes first. -/
theorem Builds.own {rule : Rule} {events : List Event} {after : Session}
    (h : Builds (s.inside rule) events after) :
    after.builders[s.builders.length]? = some s.registry.started.length := by
  obtain ⟨new, grown, -⟩ := h
  have own : (s.inside rule).builders[s.builders.length]? = some s.registry.started.length :=
    List.getElem?_concat_length
  have bound := (List.getElem?_eq_some_iff.1 own).1
  rw [grown, List.getElem?_append_left bound, own]

/-- The builder that a declaration adds is for its own rule. -/
theorem AddsBuilder.own {command : Command} (adds : AddsBuilder env s command) :
    (s.perform env command).1.builders[s.builders.length]? = some s.registry.started.length := by
  have declares (rule : Rule) :
      (s.declare rule).1.builders[s.builders.length]? = some s.registry.started.length :=
    List.getElem?_concat_length
  cases command with
  | rule heading =>
      obtain ⟨rule, created⟩ := adds
      simp only [perform, created]
      exact declares rule
  | ruleWith heading body =>
      obtain ⟨rule, created⟩ := adds
      have within := builds_performBody env (s.inside rule) body
      simp only [perform, created]
      rw [finish_builders]
      exact within.own
  | ruleGiven heading body =>
      obtain ⟨answer, returns⟩ := adds
      simp only [perform] at returns ⊢
      cases created : Rule.create heading.code heading.name heading.source heading.line with
      | error fault =>
          rw [created] at returns
          cases returns
      | ok rule =>
          rw [created] at returns
          dsimp only [declareGiven] at returns ⊢
          split at returns
          · exact declares rule
          · exact declares rule
          · exact declares rule
          · cases returns
          · cases returns
  | _ => cases adds

/-! ## Targets -/

/-- The current rule and the rules of the builders are rules whose declarations have begun. -/
structure Aimed (s : Session) : Prop where
  current : ∀ id : Nat, s.registry.current = some id → id < s.registry.started.length
  builders : ∀ id : Nat, id ∈ s.builders → id < s.registry.started.length

theorem Aimed.start (notes : List Note) :
    Aimed (start { Registry.empty with notes := notes }) :=
  ⟨fun _ found => (nomatch found), fun _ member => nomatch member⟩

theorem Aimed.inside (aimed : s.Aimed) (rule : Rule) : (s.inside rule).Aimed := by
  have grown : (s.inside rule).registry.started.length = s.registry.started.length + 1 :=
    List.length_append
  constructor
  · intro id now
    cases now
    omega
  · intro id member
    rcases List.mem_append.1 member with old | own
    · have below := aimed.builders id old
      omega
    · cases List.mem_singleton.1 own
      omega

theorem Aimed.perform (aimed : s.Aimed) (env : Environment) (command : Command) :
    (s.perform env command).1.Aimed := by
  have evolves := evolves_perform env s command fun _ _ _ => trivial
  have records := evolves.records
  have grown := evolves.rule?_eq.1
  constructor
  · intro id now
    rcases evolves.current_cases with same | ⟨other, begun, found⟩
    · have below := aimed.current id (same ▸ now)
      omega
    · have same : other = id := Option.some.inj (found.symm.trans now)
      exact ((records.began_iff id).1 (same ▸ begun)).2
  · intro id member
    obtain ⟨new, builders, begun⟩ := builds_perform env s command
    rw [builders] at member
    rcases List.mem_append.1 member with old | fresh
    · have below := aimed.builders id old
      omega
    · exact ((records.began_iff id).1 (begun id fresh)).2

theorem Aimed.record (aimed : s.Aimed) (result : Except Failure Answer) :
    (s.record result).Aimed :=
  ⟨aimed.current, aimed.builders⟩

theorem Leads.aimed (h : Leads s t) (aimed : s.Aimed) : t.Aimed := by
  induction h with
  | refl => exact aimed
  | step _ env command ih => exact (ih.perform env command).record _

theorem Reachable.aimed (h : Reachable s) : s.Aimed := by
  obtain ⟨notes, path⟩ := h
  exact path.aimed (.start notes)

theorem Moment.aimed (h : Moment first past s) (aimed : first.Aimed) : s.Aimed := by
  induction h with
  | start => exact aimed
  | opened _ rule ih => exact ih.inside rule
  | step _ env command _ ih => exact (ih.perform env command).record _

theorem mem_of_item? {α : Type} {items : List α} {index : Int} {item : α}
    (h : item? items index = some item) : item ∈ items := by
  unfold item? at h
  split at h
  · exact List.mem_of_getElem? h
  · exact List.mem_reverse.1 (List.mem_of_getElem? h)

/-- A target names a rule that there is. -/
theorem Aimed.rule?_target? (aimed : s.Aimed) {target : Target} {id : RuleId}
    (named : s.target? target = some id) : ∃ rule, s.registry.rule? id = some rule := by
  have below : id < s.registry.started.length := by
    cases target with
    | current => exact aimed.current id named
    | builder index => exact aimed.builders id (mem_of_item? named)
  exact ⟨_, List.getElem?_eq_getElem below⟩

/-- What a change may do: it changes the rule of its target, or it is refused for this rule, or it has no
rule to change; a change that fails leaves the session as it was. -/
inductive Changes (s : Session) (target : Target) (f : Rule → Except Rule.Fault Rule) :
    Session × Except Failure Answer → Prop
  | made {id : RuleId} {old new : Rule} (named : s.target? target = some id)
      (found : s.registry.rule? id = some old) (changed : f old = .ok new) (answer : Answer) :
      Changes s target f
        (s.withRegistry { s.registry with started := s.registry.started.set id new }, .ok answer)
  | refused {id : RuleId} {old : Rule} {fault : Rule.Fault} (named : s.target? target = some id)
      (found : s.registry.rule? id = some old) (refused : f old = .error fault) :
      Changes s target f (s, .error (.rule fault))
  | missing (unnamed : s.target? target = none) : Changes s target f (s, .error (missing target))

theorem Aimed.changes (aimed : s.Aimed) (target : Target) (f : Rule → Except Rule.Fault Rule)
    (answer : Answer) : Changes s target f (s.change target f answer) := by
  rw [change_eq]
  cases named : s.target? target with
  | none => exact .missing named
  | some id =>
      obtain ⟨old, found⟩ := aimed.rule?_target? named
      simp only [Registry.modify, found]
      cases changed : f old with
      | error fault => exact .refused named found changed
      | ok new => exact .made named found changed answer

/-- A command with a target is the change of its target. -/
theorem perform_change? (env : Environment) (s : Session) {command : Command} {target : Target}
    {f : Rule → Except Rule.Fault Rule} (h : change? command = some (target, f)) :
    ∃ answer, s.perform env command = s.change target f answer := by
  cases command with
  | tags target tags =>
      cases h
      exact ⟨_, rfl⟩
  | matcher target kind callback =>
      cases h
      exact ⟨_, rfl⟩
  | _ => cases h

/-- After each call in a program the current rule is the latest declaration that stands, or the one that
was held before the program. A call changes no rule but those that the calls in it are meant for. A
declaration adds a builder for its own rule, and builders stay for their rules. A change is that of the
rule which its target names, and one that fails leaves the session as it was. -/
theorem targets_perform (aimed : first.Aimed) (history : History first past s) (env : Environment)
    (command : Command) (orderly : Orderly env s command) :
    ∀ call ∈ calls env s command,
      let before := call.session
      let after := call.after env
      Points first.registry.current (past ++ (call.past ++ call.events env)) after.registry.current ∧
        (∀ id : Nat, id < before.registry.started.length → id ∉ hits env before call.command →
          after.registry.rule? id = before.registry.rule? id) ∧
        Builds before (call.events env) after ∧
        (AddsBuilder env before call.command →
          after.builders[before.builders.length]? = some before.registry.started.length) ∧
        ∀ target f, change? call.command = some (target, f) →
          Changes before target f (after, call.result env) := by
  intro call member before after
  obtain ⟨moment, orderly⟩ := moment_calls env s command history.moment orderly call member
  have ended := moment.step env call.command orderly
  rw [List.append_assoc] at ended
  refine ⟨ended.points, orderly.evolves.rule?_eq.2, builds_perform env before call.command,
    AddsBuilder.own, ?_⟩
  intro target f changes
  obtain ⟨answer, performed⟩ := perform_change? env before changes
  have changed := (moment.aimed aimed).changes target f answer
  rwa [← performed] at changed

/-- A declaration in which another one fails after its own body has declared a rule; behind the failure,
which is caught, a change has the current rule as its target, and one that fails has the first builder. -/
def nestedChanges : Command :=
  .ruleWith (plainHeading "A")
    [.catching (.ruleWith (plainHeading "B") [.rule (plainHeading "C"), .raise "no"]),
      .tags .current (.text "late"),
      .catching (.matcher (.builder 0) (.text "recipe") (.text "no matcher"))]

/-- Behind the caught failure the declaration around it is current again, and the change reaches its rule
and not the one that was declared before. -/
theorem targets_nestedChanges :
    let s := (start .empty).run bareSurroundings [.rule (plainHeading "X")]
    ∃ call ∈ calls bareSurroundings s nestedChanges,
      call.hit? = some 1 ∧
        Points (some 0) [began 1, began 2, began 3, returned 3, failed 2]
          (call.after bareSurroundings).registry.current ∧
        (call.after bareSurroundings).registry.rule? 0 = call.session.registry.rule? 0 := by
  intro s
  have aimed : s.Aimed := (reachable_run bareSurroundings _).aimed
  have orderly : Orderly bareSurroundings s nestedChanges := by decide
  have change : 3 < (calls bareSurroundings s nestedChanges).length := by decide
  have targets := targets_perform aimed .start bareSurroundings nestedChanges orderly _
    (List.getElem_mem change)
  have begun : 0 < 4 := by decide
  have absent : 0 ∉ [1] := by decide
  exact ⟨_, List.getElem_mem change, rfl, targets.1, targets.2.1 0 begun absent⟩

end CookbookRules.Shell.Session
