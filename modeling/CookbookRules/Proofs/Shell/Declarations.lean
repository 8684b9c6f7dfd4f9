import CookbookRules.Proofs.Shell.Events

/-!
# The order of declarations

Whatever a command nests, and however the calls in it end, the list of the registry grows at its end by
the rules of the calls that returned, in the order in which these calls began. A rule of which the call
has failed is never listed, at no later time either.
-/

namespace CookbookRules.Shell.Session

open Event

/-- One session comes from another by commands that are run one after the other, each with the files and
modules of its own time. -/
inductive Leads : Session → Session → Prop
  | refl (s : Session) : Leads s s
  | step {s t : Session} (before : Leads s t) (env : Environment) (command : Command) :
      Leads s ((t.perform env command).1.record (t.perform env command).2)

/-- A session that comes from a registry without rules, whatever was noted before. -/
def Reachable (s : Session) : Prop :=
  ∃ notes, Leads (start { Registry.empty with notes := notes }) s

theorem Leads.trans {s t u : Session} (first : Leads s t) (second : Leads t u) : Leads s u := by
  induction second with
  | refl => exact first
  | step _ env command ih => exact ih.step env command

theorem leads_run (env : Environment) (s : Session) (program : List Command) :
    Leads s (s.run env program) := by
  induction program generalizing s with
  | nil => exact .refl s
  | cons command rest ih => exact ((Leads.refl s).step env command).trans (ih _)

theorem reachable_run (env : Environment) (program : List Command) :
    Reachable ((start .empty).run env program) :=
  ⟨[], leads_run env _ program⟩

/-- A registry stays sound. -/
theorem Leads.sound {s t : Session} (h : Leads s t) (sound : s.registry.Sound) :
    t.registry.Sound := by
  induction h with
  | refl => exact sound
  | step _ env command ih => exact (records_perform env _ command).sound ih

theorem Reachable.sound {s : Session} (h : Reachable s) : s.registry.Sound := by
  obtain ⟨notes, path⟩ := h
  exact path.sound (.empty notes)

/-- Later commands only list declarations that begin later: one that has begun and is not listed now
never will be. -/
theorem Leads.notMem {s t : Session} (h : Leads s t) {id : RuleId}
    (begun : id < s.registry.started.length) (absent : id ∉ s.registry.listed) :
    id < t.registry.started.length ∧ id ∉ t.registry.listed := by
  induction h with
  | refl => exact ⟨begun, absent⟩
  | @step t _ env command ih =>
      have records := records_perform env t command
      refine ⟨Nat.lt_of_lt_of_le ih.1 (records.started ▸ Nat.le_add_right _ _), fun member => ?_⟩
      rw [record, records.listed] at member
      rcases List.mem_append.1 member with old | new
      · exact ih.2 old
      · exact Nat.not_le.2 ih.1 (records.kept_eq.1 id new).1

/-- The list after a command is the list before it and the rules of which the calls returned, each once
and in the order in which the calls began. The rule of a call that failed is listed at no later time. -/
theorem listed_perform {s : Session} (reachable : Reachable s) (env : Environment)
    (command : Command) :
    let happened := events env s command
    let after := (s.perform env command).1
    after.registry.listed = s.registry.listed ++ kept happened ∧
      after.registry.listed.Nodup ∧
      after.registry.rules.map some = after.registry.listed.map after.registry.rule? ∧
      ∀ id, failed id ∈ happened →
        ∀ later, Leads (after.record (s.perform env command).2) later →
          id ∉ later.registry.listed := by
  have records := records_perform env s command
  have sound := records.sound reachable.sound
  refine ⟨records.listed, sound.nodup, sound.map_rules, fun id member later path => ?_⟩
  obtain ⟨began, notReturned⟩ := records.failed id member
  have range := (records.began_iff id).1 began
  refine (path.notMem range.2 fun listed => ?_).2
  rw [record, records.listed] at listed
  rcases List.mem_append.1 listed with old | new
  · exact Nat.not_le.2 (reachable.sound.begun id old) range.1
  · exact notReturned (mem_kept.1 new).2

/-- Surroundings without files and modules. -/
def bareSurroundings : Environment :=
  ⟨⟨.directory [], ⟨.root, []⟩⟩, ⟨[]⟩, ⟨.root, []⟩, "/", []⟩

/-- A heading with a code and no place. -/
def plainHeading (code : String) : Heading := ⟨.text code, .text code, none, none⟩

/-- A declaration around four others: the second fails after its own body has declared a rule, and its
failure is caught; the last is ended by an interrupt that is caught too. -/
def nestedDeclarations : Command :=
  .ruleWith (plainHeading "A")
    [.rule (plainHeading "B"),
      .catching (.ruleWith (plainHeading "C") [.rule (plainHeading "D"), .raise "no"]),
      .ruleWith (plainHeading "E") [.rule (plainHeading "F")],
      .catching (.ruleWith (plainHeading "G") [.rule (plainHeading "H"), .interrupt])]

/-- After a rule that was there before, the list holds A, B, D, E, F and H; C and G have failed. -/
theorem listed_nestedDeclarations :
    let s := (start .empty).run bareSurroundings [.rule (plainHeading "X")]
    Reachable s ∧ s.registry.listed = [0] ∧
      (s.perform bareSurroundings nestedDeclarations).1.registry.listed = [0, 1, 2, 4, 5, 6, 8] := by
  intro s
  have reachable : Reachable s := reachable_run bareSurroundings _
  refine ⟨reachable, by decide, ?_⟩
  rw [(listed_perform reachable bareSurroundings nestedDeclarations).1]
  decide

end CookbookRules.Shell.Session
