import CookbookRules.Proofs.Outcome
import CookbookRules.Proofs.Shell.Targets

/-!
# What remains of failures

A declaration of which the call fails is never listed. The rules of its body are, where their own calls
have returned, and after an interrupt its rule stays the current one. `listed_failing` tells the list
after a failure, and `current_history` the current rule after any commands that no interrupt ends.
-/

namespace CookbookRules.Shell.Session

open Event Outcome

variable {env : Environment} {first s : Session} {past : List Event} {command : Command}

/-! ## The list -/

/-- The heading of a declaration. -/
def heading? : Command → Option Heading
  | .rule heading => some heading
  | .ruleWith heading _ => some heading
  | .ruleGiven heading _ => some heading
  | _ => none

/-- A declaration with a heading that is refused changes nothing. -/
theorem perform_refused {heading : Heading} {fault : Rule.Fault}
    (declares : heading? command = some heading)
    (refused : Rule.create heading.code heading.name heading.source heading.line = .error fault) :
    s.perform env command = (s, .error (.rule fault)) ∧ events env s command = [] := by
  cases command with
  | rule heading =>
      cases declares
      simp only [perform, events, refused, and_self]
  | ruleWith heading body =>
      cases declares
      simp only [perform, events, refused, and_self]
  | ruleGiven heading body =>
      cases declares
      simp only [perform, events, refused, and_self]
  | _ => cases declares

/-- A declaration that begins and fails has its own failure among its events. -/
theorem failed_mem_events {heading : Heading} {rule : Rule} {failure : Failure}
    (declares : heading? command = some heading)
    (created : Rule.create heading.code heading.name heading.source heading.line = .ok rule)
    (fails : (s.perform env command).2 = .error failure) :
    failed s.registry.started.length ∈ events env s command := by
  cases command with
  | rule heading =>
      cases declares
      simp only [events, created, fails, ending]
      exact List.mem_cons_of_mem _ (List.mem_singleton_self _)
  | ruleWith heading body =>
      cases declares
      simp only [events, created, fails, ending]
      exact List.mem_cons_of_mem _ (List.mem_append_right _ (List.mem_singleton_self _))
  | ruleGiven heading body =>
      cases declares
      simp only [events, created, fails, ending]
      exact List.mem_cons_of_mem _ (List.mem_singleton_self _)
  | _ => cases declares

/-- A declaration of which the call fails adds the rules that were declared inside it and of which the
calls returned, and never its own. If its heading is refused, nothing changes. -/
theorem listed_failing (reachable : Reachable s) (env : Environment) {heading : Heading}
    {failure : Failure} (declares : heading? command = some heading)
    (fails : (s.perform env command).2 = .error failure) :
    let after := (s.perform env command).1
    after.registry.listed = s.registry.listed ++ kept (events env s command) ∧
      s.registry.started.length ∉ after.registry.listed ∧
      (after.registry.listed = s.registry.listed ↔ ∀ id, returned id ∉ events env s command) ∧
      ∀ fault, Rule.create heading.code heading.name heading.source heading.line = .error fault →
        after = s := by
  have records := records_perform env s command
  have unlisted : s.registry.started.length ∉ s.registry.listed := fun member =>
    Nat.lt_irrefl _ (reachable.sound.begun _ member)
  refine ⟨records.listed, ?_, ?_, fun fault refused => (perform_refused declares refused).1 ▸ rfl⟩
  · cases created : Rule.create heading.code heading.name heading.source heading.line with
    | error fault => rwa [(perform_refused declares created).1]
    | ok rule =>
        have own := failed_mem_events declares created fails
        rw [records.listed]
        intro member
        rcases List.mem_append.1 member with old | new
        · exact unlisted old
        · exact (records.failed _ own).2 (mem_kept.1 new).2
  · rw [records.listed, List.append_right_eq_self]
    exact records.kept_eq_nil_iff

/-- A declaration whose body declares a rule and then fails. -/
def failingDeclaration : Command :=
  .ruleWith (plainHeading "A") [.rule (plainHeading "B"), .raise "no"]

/-- Behind a rule that was there before, the list holds B; A has failed. -/
theorem listed_failingDeclaration :
    let s := (start .empty).run bareSurroundings [.rule (plainHeading "X")]
    (s.perform bareSurroundings failingDeclaration).1.registry.listed = [0, 2] := by
  intro s
  have reachable : Reachable s := reachable_run bareSurroundings _
  rw [(listed_failing reachable bareSurroundings rfl rfl).1]
  decide

/-- So a call that fails does not leave the list as it was. -/
theorem listed_ne_of_failing :
    ¬ ∀ s, Reachable s → ∀ env heading body failure,
      (s.perform env (.ruleWith heading body)).2 = .error failure →
        (s.perform env (.ruleWith heading body)).1.registry.listed = s.registry.listed := by
  intro unchanged
  have same := unchanged (start .empty) (reachable_run bareSurroundings []) bareSurroundings
    (plainHeading "A") [.rule (plainHeading "B"), .raise "no"] _ rfl
  exact absurd same (by decide)

/-! ## The current rule -/

theorem addTags_ne_noCurrentRule (tags : Value) (rule : Rule) :
    rule.addTags tags ≠ .error .noCurrentRule := by
  intro h
  rcases bind_eq_error.1 h with given | ⟨new, -, ended⟩
  · have read {compute : Value → Except Rule.Fault String} {items : List Value}
        (each : ∀ item, compute item ≠ .error .noCurrentRule) :
        items.mapM compute ≠ .error .noCurrentRule := by
      intro fails
      obtain ⟨-, item, -, -, -, failed⟩ := mapM_eq_error_iff.1 fails
      exact each item failed
    unfold Rule.givenTags at given
    split at given
    · refine read (fun item failed => ?_) given
      split at failed <;> cases failed
    · refine read (fun item failed => ?_) given
      split at failed <;> cases failed
    · cases given
  · cases ended

theorem setMatcher_ne_noCurrentRule (kind callback : Value) (rule : Rule) :
    rule.setMatcher kind callback ≠ .error .noCurrentRule := by
  intro h
  rcases bind_eq_error.1 h with unknown | ⟨kind, -, ended⟩
  · unfold Rule.kindOf at unknown
    split at unknown
    · cases unknown
    · split at unknown <;> cases unknown
  · split at ended <;> cases ended

/-- That there is no current rule is said of nothing else. -/
theorem change?_ne_noCurrentRule {target : Target} {f : Rule → Except Rule.Fault Rule}
    (h : change? command = some (target, f)) (rule : Rule) : f rule ≠ .error .noCurrentRule := by
  cases command with
  | tags target tags =>
      cases h
      exact addTags_ne_noCurrentRule tags rule
  | matcher target kind callback =>
      cases h
      exact setMatcher_ne_noCurrentRule kind callback rule
  | _ => cases h

/-- What a change of the current rule does: it fails for want of a rule if there is none, and it reaches
no other rule. -/
theorem Aimed.perform_current (aimed : s.Aimed) (env : Environment)
    {f : Rule → Except Rule.Fault Rule} (h : change? command = some (.current, f)) :
    ((s.perform env command).2 = .error (.rule .noCurrentRule) ↔ s.registry.current = none) ∧
      ∀ id : Nat, s.registry.current ≠ some id →
        (s.perform env command).1.registry.rule? id = s.registry.rule? id := by
  obtain ⟨answer, performed⟩ := perform_change? env s h
  rw [performed]
  have changes := aimed.changes .current f answer
  generalize s.change .current f answer = outcome at changes ⊢
  cases changes with
  | @made id old new named found changed answer =>
      refine ⟨⟨fun ended => (nomatch ended), fun none => ?_⟩, fun other absent => ?_⟩
      · exact absurd (named.symm.trans none) (Option.some_ne_none id)
      · have apart : id ≠ other := fun same => absent (same ▸ named)
        exact List.getElem?_set_ne apart
  | @refused id old fault named found refused =>
      refine ⟨⟨fun ended => ?_, fun none => ?_⟩, fun other absent => rfl⟩
      · cases ended
        exact absurd refused (change?_ne_noCurrentRule h old)
      · exact absurd (named.symm.trans none) (Option.some_ne_none id)
  | missing unnamed => exact ⟨⟨fun _ => unnamed, fun _ => rfl⟩, fun other absent => rfl⟩

theorem History.evolves (h : History first past s) :
    ∃ hit, Evolves False first.registry past hit s.registry := by
  induction h with
  | start => exact ⟨[], .same False _ []⟩
  | step _ env command orderly ih =>
      obtain ⟨hit, before⟩ := ih
      exact ⟨_, before.trans orderly.evolves⟩

/-- The current rule, between commands that no interrupt ends, is a listed one. There is none if nothing
stands, which need not mean that nothing is listed; it does if no declaration has failed. So a change of
the current rule fails for want of a rule exactly if nothing stands, and it reaches listed rules only. -/
theorem current_history {notes : List Note}
    (history : History (start { Registry.empty with notes := notes }) past s) :
    (∀ id, s.registry.current = some id → id ∈ s.registry.listed) ∧
      (s.registry.current = none ↔ ∀ id, ¬ Stands past id) ∧
      (s.registry.rules = [] ↔ ∀ id, returned id ∉ past) ∧
      ((∀ id, failed id ∉ past) → (s.registry.current = none ↔ s.registry.rules = [])) ∧
      ∀ env command f, change? command = some (.current, f) →
        ((s.perform env command).2 = .error (.rule .noCurrentRule) ↔ ∀ id, ¬ Stands past id) ∧
          ∀ id : Nat, id ∉ s.registry.listed →
            (s.perform env command).1.registry.rule? id = s.registry.rule? id := by
  obtain ⟨hit, evolves⟩ := history.evolves
  have records := evolves.records
  have points : Points none past s.registry.current := evolves.points
  have aimed : s.Aimed := history.moment.aimed (.start notes)
  have listed : s.registry.listed = kept past := records.listed
  have currentListed : ∀ id, s.registry.current = some id → id ∈ s.registry.listed := by
    intro id now
    have stands : Stands past id := (now ▸ points).stands
    rw [listed]
    exact mem_kept.2 ⟨stands.1, evolves.returned_of_stands stands⟩
  have empty : s.registry.rules = [] ↔ ∀ id, returned id ∉ past := by
    have sound := records.sound (.empty notes)
    calc
      s.registry.rules = [] ↔ s.registry.rules.map some = [] := List.map_eq_nil_iff.symm
      _ ↔ kept past = [] := by rw [sound.map_rules, List.map_eq_nil_iff, listed]
      _ ↔ ∀ id, returned id ∉ past := records.kept_eq_nil_iff
  refine ⟨currentListed, points.eq_none_iff, empty, fun successful => ?_, ?_⟩
  · rw [points.eq_none_iff, empty]
    constructor
    · intro nothing id returns
      refine nothing id ⟨records.returned id returns, fun undone => ?_⟩
      obtain ⟨outer, fails⟩ := undone.exists_failed
      exact successful outer fails
    · intro silent id stands
      exact silent id (evolves.returned_of_stands stands)
  · intro env command f changes
    obtain ⟨unnamed, frame⟩ := aimed.perform_current env changes
    refine ⟨unnamed.trans points.eq_none_iff, fun id absent => frame id fun now => ?_⟩
    exact absent (currentListed id now)

/-- A rule that was there before is current again after the failure. -/
theorem current_failingDeclaration :
    let s := (start .empty).run bareSurroundings [.rule (plainHeading "X"), failingDeclaration]
    s.registry.current = some 0 ∧ 0 ∈ s.registry.listed := by
  intro s
  have history : History (start .empty) _ s :=
    (History.start.step bareSurroundings (.rule (plainHeading "X")) (by decide)).step
      bareSurroundings failingDeclaration (by decide)
  exact ⟨rfl, (current_history history).1 0 rfl⟩

/-- An interrupt leaves the cursor on a rule that is not listed, and without a rule that was there before
a failure leaves a list without a current rule. -/
theorem current_astray :
    (∃ s, Reachable s ∧ s.registry.current = some 0 ∧ s.registry.listed = []) ∧
      ∃ s, Reachable s ∧ s.registry.current = none ∧ s.registry.listed = [1] := by
  constructor
  · have interrupted := reachable_run bareSurroundings [.ruleWith (plainHeading "A") [.interrupt]]
    exact ⟨_, interrupted, rfl, rfl⟩
  · have failed := reachable_run bareSurroundings [failingDeclaration]
    exact ⟨_, failed, rfl, rfl⟩

end CookbookRules.Shell.Session
