import CookbookRules.Registry
import Mathlib.Data.List.Basic

/-!
# The list of a registry under its operations

Beginning a declaration reads the end of the list and changes only the rules that have begun; completing
it changes only the list. In a sound registry the list names rules that have begun, each once, so the
listed numbers and the listed rules are the same list seen in two ways. `Adds` says that some rules have
been declared whole, one behind the other.
-/

namespace CookbookRules.Registry

variable {r after : Registry} {rule : Rule} {d : Declaration} {id : RuleId}

/-! ## Operations -/

@[simp] theorem begin_id : (r.begin rule).1.id = r.started.length := rfl

@[simp] theorem begin_position : (r.begin rule).1.position = r.listed.length := rfl

@[simp] theorem begin_started : (r.begin rule).2.started = r.started ++ [rule] := rfl

@[simp] theorem begin_listed : (r.begin rule).2.listed = r.listed := rfl

@[simp] theorem begin_current : (r.begin rule).2.current = some r.started.length := rfl

@[simp] theorem complete_started : (r.complete d).started = r.started := by
  unfold complete
  split <;> rfl

@[simp] theorem complete_listed : (r.complete d).listed = r.listed.insertIdx d.position d.id := by
  unfold complete
  split <;> rfl

@[simp] theorem complete_current : (r.complete d).current = r.current := by
  unfold complete
  split <;> rfl

@[simp] theorem declare_started : (r.declare rule).2.started = r.started ++ [rule] := by
  simp [declare]

@[simp] theorem declare_current : (r.declare rule).2.current = some r.started.length := by
  simp [declare]

/-- A rule that is declared whole goes to the end of the list. -/
@[simp] theorem declare_listed :
    (r.declare rule).2.listed = r.listed ++ [r.started.length] := by
  simp [declare]

/-- A change replaces the rule that it is for; without such a rule there is nothing to change. -/
theorem modify_eq_ok {change : Rule → Except Rule.Fault Rule} (h : r.modify id change = .ok after) :
    (∃ old new, r.rule? id = some old ∧ change old = .ok new ∧
        after = { r with started := r.started.set id new }) ∨
      r.rule? id = none ∧ after = r := by
  unfold modify at h
  cases found : r.rule? id with
  | none =>
      rw [found] at h
      cases h
      exact .inr ⟨rfl, rfl⟩
  | some old =>
      rw [found] at h
      cases changed : change old with
      | error fault =>
          simp only [changed] at h
          cases h
      | ok new =>
          simp only [changed] at h
          cases h
          exact .inl ⟨old, new, rfl, changed, rfl⟩

/-! ## Sound registries -/

/-- The list names each rule once, and only rules whose declarations have begun. -/
structure Sound (r : Registry) : Prop where
  nodup : r.listed.Nodup
  begun : ∀ id : Nat, id ∈ r.listed → id < r.started.length

theorem Sound.empty (notes : List Note) : Sound { Registry.empty with notes := notes } :=
  ⟨List.nodup_nil, by simp [Registry.empty]⟩

/-- The rules of a sound registry are the listed numbers, one for one. -/
theorem Sound.map_rules (h : r.Sound) : r.rules.map some = r.listed.map r.rule? := by
  have all : ∀ ids : List RuleId, (∀ id : Nat, id ∈ ids → id < r.started.length) →
      (ids.filterMap r.rule?).map some = ids.map r.rule? := by
    intro ids
    induction ids with
    | nil => simp
    | cons id rest ih =>
        intro begun
        obtain ⟨rule, found⟩ : ∃ rule, r.rule? id = some rule :=
          ⟨_, List.getElem?_eq_getElem (begun id List.mem_cons_self)⟩
        simp [found, ih fun id h => begun id (List.mem_cons_of_mem _ h)]
  exact all r.listed h.begun

theorem Sound.note (h : r.Sound) (n : Note) : (r.note n).Sound := ⟨h.nodup, h.begun⟩

theorem Sound.declare (h : r.Sound) (rule : Rule) : (r.declare rule).2.Sound := by
  constructor
  · rw [declare_listed, List.nodup_append]
    refine ⟨h.nodup, by simp, fun id old other last same => ?_⟩
    rw [same, List.mem_singleton.1 last] at old
    exact Nat.lt_irrefl _ (h.begun _ old)
  · intro id member
    rw [declare_listed] at member
    rw [declare_started, List.length_append, List.length_singleton]
    rcases List.mem_append.1 member with old | last
    · exact Nat.lt_succ_of_lt (h.begun id old)
    · rw [List.mem_singleton.1 last]
      exact Nat.lt_succ_self _

/-- A rule that is declared whole stands behind those that were there before. -/
theorem Sound.declare_rules (h : r.Sound) : (r.declare rule).2.rules = r.rules ++ [rule] := by
  have same : ∀ id ∈ r.listed, (r.declare rule).2.rule? id = r.rule? id := by
    intro id member
    rw [rule?, declare_started]
    exact List.getElem?_append_left (h.begun id member)
  have last : (r.declare rule).2.rule? r.started.length = some rule := by
    rw [rule?, declare_started]
    exact List.getElem?_concat_length
  rw [rules, declare_listed, List.filterMap_append, List.filterMap_congr same]
  simp [rules, last]

/-- A declaration that begins leaves the list as it is. -/
theorem Sound.begin (h : r.Sound) (rule : Rule) : (r.begin rule).2.Sound := by
  refine ⟨h.nodup, fun id member => ?_⟩
  rw [begin_started, List.length_append, List.length_singleton]
  exact Nat.lt_succ_of_lt (h.begun id member)

theorem Sound.begin_rules (h : r.Sound) (rule : Rule) : (r.begin rule).2.rules = r.rules := by
  have same : ∀ id ∈ r.listed, (r.begin rule).2.rule? id = r.rule? id := by
    intro id member
    rw [rule?, begin_started]
    exact List.getElem?_append_left (h.begun id member)
  rw [rules, begin_listed, List.filterMap_congr same]
  rfl

/-! ## Rules at the end -/

/-- A registry has got some more rules: they have begun and are listed behind those that were there
before, and the last of them is the current one. -/
structure Adds (r : Registry) (new : List Rule) (after : Registry) : Prop where
  started : after.started = r.started ++ new
  listed : after.listed = r.listed ++ List.range' r.started.length new.length
  current : after.current = (List.range' r.started.length new.length).getLast?.or r.current

variable {new : List Rule}

theorem Adds.nothing (r : Registry) : Adds r [] r :=
  ⟨(List.append_nil _).symm, (List.append_nil _).symm, rfl⟩

theorem Adds.note (h : Adds r new after) (n : Note) : Adds r new (after.note n) :=
  ⟨h.started, h.listed, h.current⟩

/-- The first of some rules is declared before the others. -/
theorem adds_cons_iff : Adds r (rule :: new) after ↔ Adds (r.declare rule).2 new after := by
  have started : (r.declare rule).2.started ++ new = r.started ++ rule :: new := by
    rw [declare_started, List.append_assoc, List.singleton_append]
  have numbers : List.range' r.started.length (rule :: new).length =
      r.started.length :: List.range' (r.declare rule).2.started.length new.length := by
    rw [declare_started, List.length_append, List.length_cons, List.range'_succ]
    rfl
  have listed : (r.declare rule).2.listed ++
      List.range' (r.declare rule).2.started.length new.length =
        r.listed ++ List.range' r.started.length (rule :: new).length := by
    rw [numbers, declare_listed, List.append_assoc, List.singleton_append]
  have current : (List.range' r.started.length (rule :: new).length).getLast?.or r.current =
      (List.range' (r.declare rule).2.started.length new.length).getLast?.or
        (r.declare rule).2.current := by
    rw [numbers, List.getLast?_cons, declare_current]
    cases (List.range' (r.declare rule).2.started.length new.length).getLast? <;> rfl
  constructor
  · intro h
    exact ⟨h.started.trans started.symm, h.listed.trans listed.symm, h.current.trans current⟩
  · intro h
    exact ⟨h.started.trans started, h.listed.trans listed, h.current.trans current.symm⟩

theorem Adds.sound (h : Adds r new after) (sound : r.Sound) : after.Sound := by
  induction new generalizing r with
  | nil =>
      have listed : after.listed = r.listed := h.listed.trans (List.append_nil _)
      have started : after.started = r.started := h.started.trans (List.append_nil _)
      exact ⟨listed ▸ sound.nodup, by rw [listed, started]; exact sound.begun⟩
  | cons rule rest ih => exact ih (adds_cons_iff.1 h) (sound.declare rule)

/-- What is added to a sound registry stands behind its rules, which stay as they were. -/
theorem Adds.rules (h : Adds r new after) (sound : r.Sound) : after.rules = r.rules ++ new := by
  induction new generalizing r with
  | nil =>
      have started : after.started = r.started := h.started.trans (List.append_nil _)
      have listed : after.listed = r.listed := h.listed.trans (List.append_nil _)
      have same : after.rule? = r.rule? := by
        funext id
        rw [Registry.rule?, Registry.rule?, started]
      rw [Registry.rules, listed, same, List.append_nil]
      rfl
  | cons rule rest ih =>
      rw [ih (adds_cons_iff.1 h) (sound.declare rule), sound.declare_rules, List.append_assoc]
      rfl

/-- A registry is as it was exactly if nothing is added. -/
theorem Adds.same_iff (h : Adds r new after) (sound : r.Sound) :
    after.rules = r.rules ∧ after.current = r.current ↔ new = [] := by
  rw [h.rules sound, List.append_right_eq_self]
  constructor
  · exact And.left
  · rintro rfl
    exact ⟨rfl, h.current⟩

end CookbookRules.Registry
