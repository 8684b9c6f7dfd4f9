import CookbookRules.Proofs.Registry.Listed
import CookbookRules.Proofs.Rule.Changes

/-!
# What a registry gains

A number stays with its rule, which calls change in place, and rules are listed behind those that were
listed before. `Gains` names the rules that are listed in a run as they were when their declarations began,
and says that nothing is warned of meanwhile. Runs are put one after the other or around each other as the
calls are.
-/

namespace CookbookRules

/-- A rule becomes another one by the calls that change it. -/
inductive Rule.Becomes (first : Rule) : Rule → Prop
  | unchanged : Becomes first first
  | changed {rule after : Rule} {call : Rule.Call} (before : Becomes first rule)
      (made : call.change rule = .ok after) : Becomes first after

theorem Rule.Becomes.trans {first rule after : Rule} (h : first.Becomes rule)
    (h' : rule.Becomes after) : first.Becomes after := by
  induction h' with
  | unchanged => exact h
  | changed _ made ih => exact ih.changed made

/-- Calls leave a rule its code, its name and the place of its declaration. -/
theorem Rule.Becomes.same_heading {first rule : Rule} (h : first.Becomes rule) :
    rule.label = first.label ∧ rule.title = first.title ∧ rule.source = first.source ∧
      rule.line = first.line := by
  induction h with
  | unchanged => exact ⟨rfl, rfl, rfl, rfl⟩
  | @changed _ _ call _ made ih =>
      cases call with
      | addTags tags =>
          obtain ⟨new, rfl, -⟩ := Rule.addTags_eq_ok made
          exact ih
      | setMatcher kind callback =>
          obtain ⟨known, id, reply, -, -, rfl⟩ := Rule.setMatcher_eq_ok_iff.1 made
          exact ih

/-- So the codes of rules do not change. -/
theorem Rule.map_code_of_becomes {first rules : List Rule}
    (h : List.Forall₂ Rule.Becomes first rules) : rules.map (·.code) = first.map (·.code) := by
  induction h with
  | nil => rfl
  | cons becomes _ ih =>
      have own : Rule.code _ = Rule.code _ := congrArg Label.text becomes.same_heading.1
      rw [List.map_cons, List.map_cons, own, ih]

namespace Registry

variable {r middle after : Registry} {rule : Rule} {new more : List Rule} {id : RuleId}

/-! ## Warnings -/

/-- The notes that are warnings. -/
def warnings (r : Registry) : List Note := r.notes.filter fun note => note.level = .warning

theorem warnings_note {n : Note} (detail : n.level = .debug) : (r.note n).warnings = r.warnings := by
  simp [warnings, note, List.filter_append, detail]

@[simp] theorem warnings_begin : (r.begin rule).2.warnings = r.warnings := rfl

@[simp] theorem warnings_complete {d : Declaration} : (r.complete d).warnings = r.warnings := by
  unfold complete
  split
  · exact warnings_note rfl
  · rfl

/-! ## Gains -/

/-- A number is that of a rule, which has become what it is now. -/
def Holds (r : Registry) (id : RuleId) (rule : Rule) : Prop :=
  ∃ now, r.rule? id = some now ∧ rule.Becomes now

/-- Rules are listed behind those that were listed before, and every rule stays where it is. Nothing is
warned of. -/
structure Gains (r : Registry) (new : List Rule) (after : Registry) : Prop where
  keeps : ∀ id rule, r.rule? id = some rule → after.Holds id rule
  lists : ∃ ids, after.listed = r.listed ++ ids ∧ List.Forall₂ after.Holds ids new
  quiet : after.warnings = r.warnings

theorem holds_of_rule? (found : r.rule? id = some rule) : r.Holds id rule := ⟨rule, found, .unchanged⟩

theorem holds_congr (started : after.started = r.started) : after.Holds = r.Holds := by
  funext id rule
  rw [Holds, Holds, rule?, rule?, started]

theorem Holds.mono (h : r.Holds id rule) (gains : Gains r new after) : after.Holds id rule := by
  obtain ⟨now, found, becomes⟩ := h
  obtain ⟨later, found', becomes'⟩ := gains.keeps id now found
  exact ⟨later, found', becomes.trans becomes'⟩

/-- The rules under some numbers are what those that the numbers are of have become. -/
theorem becomes_filterMap {ids : List RuleId} (holds : List.Forall₂ r.Holds ids new) :
    List.Forall₂ Rule.Becomes new (ids.filterMap r.rule?) := by
  induction holds with
  | nil => exact .nil
  | cons held _ ih =>
      obtain ⟨now, found, becomes⟩ := held
      rw [List.filterMap_cons, found]
      exact .cons becomes ih

namespace Gains

/-- What only moves the cursor gains nothing. -/
theorem nothing (listed : after.listed = r.listed) (started : after.started = r.started)
    (quiet : after.warnings = r.warnings) : Gains r [] after where
  keeps id rule found := by
    rw [holds_congr started]
    exact holds_of_rule? found
  lists := ⟨[], by rw [listed, List.append_nil], .nil⟩
  quiet := quiet

theorem same (r : Registry) : Gains r [] r := nothing rfl rfl rfl

/-- One run after the other. -/
theorem trans (h : Gains r new middle) (h' : Gains middle more after) : Gains r (new ++ more) after where
  keeps id rule found := (h.keeps id rule found).mono h'
  lists := by
    obtain ⟨ids, listed, holds⟩ := h.lists
    obtain ⟨ids', listed', holds'⟩ := h'.lists
    refine ⟨ids ++ ids', by rw [listed', listed, List.append_assoc], ?_⟩
    exact List.rel_append (holds.imp fun _ _ held => held.mono h') holds'
  quiet := h'.quiet.trans h.quiet

theorem note (h : Gains r new after) {n : Note} (detail : n.level = .debug) :
    Gains r new (after.note n) := by
  have noted : Gains after [] (after.note n) := nothing rfl rfl (warnings_note detail)
  have both := h.trans noted
  rwa [List.append_nil] at both

/-- A rule is changed by a call. -/
theorem changed {call : Rule.Call} {old now : Rule} (found : r.rule? id = some old)
    (made : call.change old = .ok now) : Gains r [] { r with started := r.started.set id now } where
  keeps other rule found' := by
    -- The rule under the changed number has become the new one; under the others nothing has moved.
    by_cases same : id = other
    · subst same
      cases found.symm.trans found'
      have bound := (List.getElem?_eq_some_iff.1 found).1
      exact ⟨now, List.getElem?_set_self bound, .changed .unchanged made⟩
    · have frame : (r.started.set id now)[other]? = r.started[other]? := List.getElem?_set_ne same
      exact ⟨rule, frame.trans found', .unchanged⟩
  lists := ⟨[], (List.append_nil _).symm, .nil⟩
  quiet := rfl

/-- A declaration that has only begun lists nothing. -/
theorem begins (rule : Rule) : Gains r [] (r.begin rule).2 where
  keeps id old found := by
    have bound := (List.getElem?_eq_some_iff.1 found).1
    have stays : (r.begin rule).2.rule? id = some old :=
      (List.getElem?_append_left bound).trans found
    exact holds_of_rule? stays
  lists := ⟨[], (List.append_nil _).symm, .nil⟩
  quiet := rfl

section Around

variable (h : Gains (r.begin rule).2 new middle)

include h

/-- What a body lists stays, however the call around it ends. -/
theorem left : Gains r new middle := (begins rule).trans h

theorem abandoned : Gains r new (middle.abandon (r.begin rule).1) := by
  have abandons : Gains middle [] (middle.abandon (r.begin rule).1) := nothing rfl rfl rfl
  have both := h.left.trans abandons
  rwa [List.append_nil] at both

/-- A declaration of which the call returns is listed before those of its body. -/
theorem returned : Gains r (rule :: new) (middle.complete (r.begin rule).1) where
  keeps id old found := by
    rw [holds_congr complete_started]
    exact h.left.keeps id old found
  lists := by
    obtain ⟨ids, listed, holds⟩ := h.lists
    have own : (r.begin rule).2.rule? r.started.length = some rule := List.getElem?_concat_length
    refine ⟨r.started.length :: ids, ?_, ?_⟩
    -- The rule goes where the list ended when its declaration began: in front of what the body has listed.
    · rw [complete_listed, listed]
      exact List.modifyTailIdx_add (List.cons r.started.length) 0 r.listed ids
    · rw [holds_congr complete_started]
      exact .cons (h.keeps _ rule own) holds
  quiet := by rw [warnings_complete, h.quiet, warnings_begin]

end Around

/-- A rule that is declared whole. -/
theorem declared (r : Registry) (rule : Rule) : Gains r [rule] (r.declare rule).2 :=
  (same (r.begin rule).2).returned

/-- A registry that was empty lists what has become of the rules that it has gained. -/
theorem rules {notes : List Note} (h : Gains { empty with notes := notes } new after) :
    List.Forall₂ Rule.Becomes new after.rules := by
  obtain ⟨ids, listed, holds⟩ := h.lists
  have all : after.rules = ids.filterMap after.rule? := congrArg (List.filterMap after.rule?) listed
  rw [all]
  exact becomes_filterMap holds

end Gains

/-! ## Rules that are declared whole -/

/-- Rules are listed as they were declared, and no call changes a rule. Nothing is warned of. -/
structure AddsQuietly (r : Registry) (new : List Rule) (after : Registry) : Prop
    extends Gains r new after where
  rules : r.Sound → after.rules = r.rules ++ new

namespace AddsQuietly

theorem nothing (r : Registry) : AddsQuietly r [] r := ⟨.same r, fun _ => (List.append_nil _).symm⟩

theorem begins (r : Registry) (rule : Rule) : AddsQuietly r [] (r.begin rule).2 :=
  ⟨.begins rule, fun sound => (sound.begin_rules rule).trans (List.append_nil _).symm⟩

theorem note (h : AddsQuietly r new after) {n : Note} (detail : n.level = .debug) :
    AddsQuietly r new (after.note n) :=
  ⟨h.toGains.note detail, h.rules⟩

/-- The first of some rules is declared before the others. -/
theorem cons (h : AddsQuietly (r.declare rule).2 new after) : AddsQuietly r (rule :: new) after := by
  refine ⟨(Gains.declared r rule).trans h.toGains, fun sound => ?_⟩
  rw [h.rules (sound.declare rule), sound.declare_rules, List.append_assoc, List.singleton_append]

/-- What a run adds to every registry are the rules of the run on an empty one. -/
theorem gains_of_empty {run : Registry → Registry} (h : ∀ r, AddsQuietly r new (run r))
    (r : Registry) : Gains r (run .empty).rules (run r) := by
  have own : (run .empty).rules = new := (h .empty).rules (.empty [])
  rw [own]
  exact (h r).toGains

end AddsQuietly

end Registry

end CookbookRules
