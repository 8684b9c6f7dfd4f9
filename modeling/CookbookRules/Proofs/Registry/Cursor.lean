import CookbookRules.Proofs.Registry.Events

/-!
# The current rule by the events

Which rule is current, told by the events of declarations alone. A declaration stands from its beginning
on, unless it fails or one around it fails; the current rule is that of the declaration that began last
among those that stand. `Points.trans` puts runs one after the other, and a run inside a declaration is
told by the events around it.
-/

namespace CookbookRules

namespace Event

/-- A declaration is undone: it has failed, or it began inside one that has failed. -/
def Undone (events : List Event) (id : RuleId) : Prop :=
  ∃ outer within, began outer :: (within ++ [failed outer]) <:+: events ∧
    began id ∈ began outer :: within

/-- A declaration has begun and is not undone. -/
def Stands (events : List Event) (id : RuleId) : Prop :=
  began id ∈ events ∧ ¬ Undone events id

/-- A declaration stands, and none that began later does. -/
def Latest (events : List Event) (id : RuleId) : Prop :=
  ∃ before after, events = before ++ began id :: after ∧ Stands events id ∧
    ∀ other, began other ∈ after → ¬ Stands events other

/-- The current rule is the latest that stands, or the one that was held before if none does. -/
inductive Points (held : Option RuleId) (events : List Event) : Option RuleId → Prop
  | latest {id : RuleId} (latest : Latest events id) : Points held events (some id)
  | held (none : ∀ id, ¬ Stands events id) : Points held events held

variable {held middle current : Option RuleId} {events first second : List Event} {id : RuleId}

theorem Undone.began_mem (h : Undone events id) : began id ∈ events := by
  obtain ⟨outer, within, block, member⟩ := h
  apply block.subset
  exact List.mem_append_left [failed outer] member

theorem Undone.mono (h : Undone events id) (part : events <:+: first) : Undone first id := by
  obtain ⟨outer, within, block, member⟩ := h
  exact ⟨outer, within, block.trans part, member⟩

/-- Without failures nothing is undone. -/
theorem Undone.exists_failed (h : Undone events id) : ∃ outer, failed outer ∈ events := by
  obtain ⟨outer, within, block, -⟩ := h
  refine ⟨outer, block.subset ?_⟩
  exact List.mem_cons_of_mem _ (List.mem_append_right within (List.mem_singleton_self _))

/-- What is undone in one of two runs is undone in both together. If no declaration of the first run
fails in the second, nothing else is. -/
theorem undone_append (closed : ∀ outer, began outer ∈ first → failed outer ∉ second) :
    Undone (first ++ second) id ↔ Undone first id ∨ Undone second id := by
  constructor
  · rintro ⟨outer, within, block, member⟩
    rcases List.infix_append_iff.1 block with inFirst | inSecond | ⟨front, back, cut, suffix, pre⟩
    · exact .inl ⟨outer, within, inFirst, member⟩
    · exact .inr ⟨outer, within, inSecond, member⟩
    -- The block lies across the seam: one of its two parts has to be empty.
    · rcases List.cons_eq_append_iff.1 cut with ⟨-, whole⟩ | ⟨rest, opening, -⟩
      · exact .inr ⟨outer, within, whole ▸ pre.isInfix, member⟩
      · rcases List.eq_nil_or_concat back with nothing | ⟨part, last, ending⟩
        · rw [nothing, List.append_nil] at cut
          exact .inl ⟨outer, within, cut ▸ suffix.isInfix, member⟩
        · have same : failed outer = last := by
            rw [ending, List.concat_eq_append, ← List.append_assoc, ← List.cons_append] at cut
            exact List.singleton_inj.1 (List.append_inj' cut rfl).2
          have begins : began outer ∈ first := suffix.subset (opening ▸ List.mem_cons_self)
          have fails : failed outer ∈ second := by
            apply pre.subset
            rw [ending, List.concat_eq_append, same]
            exact List.mem_append_right part (List.mem_singleton_self last)
          exact absurd fails (closed outer begins)
  · rintro (inFirst | inSecond)
    · exact inFirst.mono (List.infix_append_left)
    · exact inSecond.mono (List.infix_append_right)

theorem not_stands_nil : ¬ Stands [] id := by
  rintro ⟨member, -⟩
  cases member

theorem not_stands_returned {other : RuleId} : ¬ Stands [returned other] id := by
  rintro ⟨member, -⟩
  cases List.mem_singleton.1 member

/-- Nothing stands of a declaration that fails. -/
theorem not_stands_failing {outer : RuleId} :
    ¬ Stands (began outer :: (events ++ [failed outer])) id := by
  rintro ⟨member, stays⟩
  refine stays ⟨outer, events, List.infix_rfl, ?_⟩
  rw [← List.cons_append] at member
  rcases List.mem_append.1 member with inside | ending
  · exact inside
  · cases List.mem_singleton.1 ending

/-- A declaration that has only begun stands. -/
theorem latest_began : Latest [began id] id := by
  refine ⟨[], [], rfl, ⟨List.mem_singleton_self _, ?_⟩, fun other member => nomatch member⟩
  rintro ⟨outer, within, block, -⟩
  have length := block.length_le
  simp at length

/-- If none was current before, the current rule stands. -/
theorem Points.stands (h : Points none events (some id)) : Stands events id := by
  cases h with
  | latest latest =>
      obtain ⟨before, after, -, stands, -⟩ := latest
      exact stands

theorem Points.eq_none_iff (h : Points none events current) :
    current = none ↔ ∀ id, ¬ Stands events id := by
  cases h with
  | @latest id latest =>
      constructor
      · intro absent
        cases absent
      · intro nothing
        exact absurd (Points.stands (.latest latest)) (nothing id)
  | held nothing => exact ⟨fun _ => nothing, fun _ => rfl⟩

section Append

variable (closed : ∀ outer, began outer ∈ first → failed outer ∉ second)
  (apart : ∀ id, began id ∈ first → began id ∉ second)

include closed apart

theorem stands_append : Stands (first ++ second) id ↔ Stands first id ∨ Stands second id := by
  rw [Stands, undone_append closed, not_or, List.mem_append]
  constructor
  · rintro ⟨inFirst | inSecond, stays, stays'⟩
    · exact .inl ⟨inFirst, stays⟩
    · exact .inr ⟨inSecond, stays'⟩
  · rintro (⟨begins, stays⟩ | ⟨begins, stays⟩)
    · exact ⟨.inl begins, stays, fun undone => apart id begins undone.began_mem⟩
    · exact ⟨.inr begins, fun undone => apart id undone.began_mem begins, stays⟩

/-- One run after the other: the second decides if one of its declarations stands. -/
theorem Points.trans (h : Points held first middle) (h' : Points middle second current) :
    Points held (first ++ second) current := by
  cases h' with
  | latest latest =>
      obtain ⟨before, after, rfl, stands, later⟩ := latest
      refine .latest ⟨first ++ before, after, by rw [List.append_assoc], ?_, ?_⟩
      · exact (stands_append closed apart).2 (.inr stands)
      · intro other member stands
        rcases (stands_append closed apart).1 stands with inFirst | inSecond
        · exact apart other inFirst.1 (List.mem_append_right _ (List.mem_cons_of_mem _ member))
        · exact later other member inSecond
  | held none =>
      cases h with
      | latest latest =>
          obtain ⟨before, after, rfl, stands, later⟩ := latest
          refine .latest ⟨before, after ++ second, by rw [List.append_assoc]; rfl, ?_, ?_⟩
          · exact (stands_append closed apart).2 (.inl stands)
          · intro other member stands
            rcases (stands_append closed apart).1 stands with inFirst | inSecond
            · rcases List.mem_append.1 member with inAfter | inSecond
              · exact later other inAfter inFirst
              · exact apart other inFirst.1 inSecond
            · exact none other inSecond
      | held none' =>
          refine .held fun id stands => ?_
          rcases (stands_append closed apart).1 stands with inFirst | inSecond
          · exact none' id inFirst
          · exact none id inSecond

end Append

end Event

end CookbookRules
