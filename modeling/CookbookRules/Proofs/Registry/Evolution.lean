import CookbookRules.Proofs.Registry.Cursor

/-!
# How a registry evolves

All that runs do to a registry, with the events of the declarations in it and the rules that changes are
meant for. What holds of every run is proved here by one induction each: the events tell the list and the
current rule, and a rule that no change is meant for stays as it is.
-/

namespace CookbookRules

open Event

/-- A registry evolves to another one. A declaration of which the call fails is abandoned, unless
something is `stray`: then its rule may stay the current one. -/
inductive Evolves (stray : Prop) : Registry → List Event → List RuleId → Registry → Prop
  | unchanged {r after : Registry} (hit : List RuleId) (listed : after.listed = r.listed)
      (started : after.started = r.started) (current : after.current = r.current) :
      Evolves stray r [] hit after
  | changed (r : Registry) (id : RuleId) (rule : Rule) :
      Evolves stray r [] [id] { r with started := r.started.set id rule }
  | trans {r middle after : Registry} {first second : List Event} {hit hit' : List RuleId}
      (before : Evolves stray r first hit middle) (later : Evolves stray middle second hit' after) :
      Evolves stray r (first ++ second) (hit ++ hit') after
  | returned {r middle : Registry} {rule : Rule} {events : List Event} {hit : List RuleId}
      (within : Evolves stray (r.begin rule).2 events hit middle) :
      Evolves stray r (began r.started.length :: (events ++ [.returned r.started.length])) hit
        (middle.complete (r.begin rule).1)
  | abandoned {r middle : Registry} {rule : Rule} {events : List Event} {hit : List RuleId}
      (within : Evolves stray (r.begin rule).2 events hit middle) :
      Evolves stray r (began r.started.length :: (events ++ [.failed r.started.length])) hit
        (middle.abandon (r.begin rule).1)
  | left {r middle : Registry} {rule : Rule} {events : List Event} {hit : List RuleId}
      (reason : stray) (within : Evolves stray (r.begin rule).2 events hit middle) :
      Evolves stray r (began r.started.length :: (events ++ [.failed r.started.length])) hit middle

namespace Evolves

variable {stray : Prop} {r middle after : Registry} {events : List Event} {hit : List RuleId}

theorem same (stray : Prop) (r : Registry) (hit : List RuleId) : Evolves stray r [] hit r :=
  .unchanged hit rfl rfl rfl

/-- Notes make no difference. -/
theorem note (h : Evolves stray r events hit after) (n : Note) :
    Evolves stray r events hit (after.note n) := by
  have noted : Evolves stray after [] [] (after.note n) := .unchanged [] rfl rfl rfl
  have both := h.trans noted
  rwa [List.append_nil, List.append_nil] at both

/-- A rule that is declared whole. -/
theorem declared (stray : Prop) (r : Registry) (rule : Rule) :
    Evolves stray r [began r.started.length, .returned r.started.length] [] (r.declare rule).2 :=
  (same stray (r.begin rule).2 []).returned

/-- The events of a run tell what became of the registry. -/
theorem records (h : Evolves stray r events hit after) : Records r events after := by
  induction h with
  | unchanged hit listed started current => exact .silent listed (by rw [started])
  | changed r id rule => exact .silent rfl List.length_set
  | trans _ _ ih ih' => exact ih.trans ih'
  | returned _ ih => exact ih.returning
  | abandoned _ ih => exact ih.failing rfl rfl
  | left _ _ ih => exact ih.failing rfl rfl

/-- The call of each declaration has ended after a run. -/
theorem ended (h : Evolves stray r events hit after) {id : RuleId} (begun : began id ∈ events) :
    .returned id ∈ events ∨ failed id ∈ events := by
  -- A declaration around a run ends behind it.
  have around {outer : RuleId} {events : List Event} {last : Event}
      (ends : last = .returned outer ∨ last = failed outer)
      (within : began id ∈ events → .returned id ∈ events ∨ failed id ∈ events)
      (begun : began id ∈ began outer :: (events ++ [last])) :
      .returned id ∈ began outer :: (events ++ [last]) ∨
        failed id ∈ began outer :: (events ++ [last]) := by
    rcases List.mem_cons.1 begun with own | later
    · cases own
      exact ends.imp (fun same => by simp [same]) (fun same => by simp [same])
    · have inside : began id ∈ events := by
        rcases ends with rfl | rfl
        · simpa using later
        · simpa using later
      have kept {event : Event} (member : event ∈ events) :
          event ∈ began outer :: (events ++ [last]) :=
        List.mem_cons_of_mem _ (List.mem_append_left _ member)
      exact (within inside).imp kept kept
  induction h with
  | unchanged hit listed started current => cases begun
  | changed r id rule => cases begun
  | trans _ _ ih ih' =>
      rcases List.mem_append.1 begun with inFirst | inSecond
      · exact (ih inFirst).imp (List.mem_append_left _) (List.mem_append_left _)
      · exact (ih' inSecond).imp (List.mem_append_right _) (List.mem_append_right _)
  | returned _ ih => exact around (.inl rfl) ih begun
  | abandoned _ ih => exact around (.inr rfl) ih begun
  | left _ _ ih => exact around (.inr rfl) ih begun

/-- A declaration of which the call has failed is undone, at all later times. -/
theorem undone (h : Evolves stray r events hit after) {id : RuleId} (fails : failed id ∈ events) :
    Undone events id := by
  -- What is undone inside a declaration stays so when the declaration has ended.
  have inside {outer : RuleId} {events : List Event} {last : Event} (undone : Undone events id) :
      Undone (began outer :: (events ++ [last])) id :=
    undone.mono ⟨[began outer], [last], rfl⟩
  have failing {outer : RuleId} {events : List Event}
      (within : failed id ∈ events → Undone events id)
      (fails : failed id ∈ began outer :: (events ++ [failed outer])) :
      Undone (began outer :: (events ++ [failed outer])) id := by
    rcases List.mem_append.1 (List.mem_of_ne_of_mem (by simp) fails) with member | own
    · exact inside (within member)
    · cases List.mem_singleton.1 own
      exact ⟨id, events, List.infix_rfl, List.mem_cons_self⟩
  induction h with
  | unchanged hit listed started current => cases fails
  | changed r id rule => cases fails
  | trans _ _ ih ih' =>
      rcases List.mem_append.1 fails with inFirst | inSecond
      · exact (ih inFirst).mono List.infix_append_left
      · exact (ih' inSecond).mono List.infix_append_right
  | returned _ ih => exact inside (ih (by simpa using fails))
  | abandoned _ ih => exact failing ih fails
  | left _ _ ih => exact failing ih fails

/-- The call of a declaration that stands after a run has returned. -/
theorem returned_of_stands (h : Evolves stray r events hit after) {id : RuleId}
    (stands : Stands events id) : .returned id ∈ events := by
  rcases h.ended stands.1 with returns | fails
  · exact returns
  · exact absurd (h.undone fails) stands.2

/-- The current rule after a run is the one before it, or one whose declaration began in the run. -/
theorem current_cases (h : Evolves stray r events hit after) :
    after.current = r.current ∨ ∃ id, began id ∈ events ∧ after.current = some id := by
  -- Inside a declaration, what was current before the run is the declaration itself.
  have within {r middle : Registry} {rule : Rule} {events : List Event} (last : Event)
      (inside : middle.current = (r.begin rule).2.current ∨
        ∃ id, began id ∈ events ∧ middle.current = some id) :
      ∃ id, began id ∈ began r.started.length :: (events ++ [last]) ∧ middle.current = some id := by
    rcases inside with same | ⟨id, begun, now⟩
    · exact ⟨r.started.length, List.mem_cons_self, same⟩
    · exact ⟨id, List.mem_cons_of_mem _ (List.mem_append_left _ begun), now⟩
  induction h with
  | unchanged hit listed started current => exact .inl current
  | changed r id rule => exact .inl rfl
  | trans _ _ ih ih' =>
      rcases ih' with same | ⟨id, begun, now⟩
      · rw [same]
        exact ih.imp_right fun ⟨id, begun, now⟩ => ⟨id, List.mem_append_left _ begun, now⟩
      · exact .inr ⟨id, List.mem_append_right _ begun, now⟩
  | returned _ ih =>
      rw [Registry.complete_current]
      exact .inr (within _ ih)
  | abandoned _ _ => exact .inl rfl
  | left _ _ ih => exact .inr (within _ ih)

/-- Rules that had begun before keep their numbers, and those that no change was meant for are as they
were. -/
theorem rule?_eq (h : Evolves stray r events hit after) :
    r.started.length ≤ after.started.length ∧
      ∀ id : Nat, id < r.started.length → id ∉ hit → after.rule? id = r.rule? id := by
  -- A declaration around a run adds its own rule behind those that had begun.
  have around {r middle : Registry} {rule : Rule} {hit : List RuleId}
      (within : (r.begin rule).2.started.length ≤ middle.started.length ∧
        ∀ id : Nat, id < (r.begin rule).2.started.length → id ∉ hit →
          middle.rule? id = (r.begin rule).2.rule? id) :
      r.started.length ≤ middle.started.length ∧
        ∀ id : Nat, id < r.started.length → id ∉ hit → middle.rule? id = r.rule? id := by
    rw [Registry.begin_started, List.length_append, List.length_singleton] at within
    refine ⟨by omega, fun id below absent => ?_⟩
    calc
      middle.rule? id = (r.begin rule).2.rule? id := within.2 id (by omega) absent
      _ = r.rule? id := List.getElem?_append_left below
  induction h with
  | @unchanged r after hit listed started current =>
      have length : r.started.length = after.started.length := by rw [started]
      refine ⟨Nat.le_of_eq length, fun id _ _ => ?_⟩
      rw [Registry.rule?, started, Registry.rule?]
  | changed r id rule =>
      refine ⟨Nat.le_of_eq List.length_set.symm, fun other _ absent => ?_⟩
      have apart : id ≠ other := fun same => absent (same ▸ List.mem_singleton_self id)
      exact List.getElem?_set_ne apart
  | trans _ _ ih ih' =>
      refine ⟨Nat.le_trans ih.1 ih'.1, fun id below absent => ?_⟩
      rw [List.mem_append, not_or] at absent
      rw [ih'.2 id (Nat.lt_of_lt_of_le below ih.1) absent.2, ih.2 id below absent.1]
  | returned _ ih => simpa [Registry.rule?] using around ih
  | abandoned _ ih => exact around ih
  | left _ _ ih => exact around ih

end Evolves

/-- One run after the other, each told by its own events. -/
theorem Records.points_trans {r middle after : Registry} {first second : List Event}
    {held between current : Option RuleId} (h : Records r first middle)
    (h' : Records middle second after) (before : Points held first between)
    (later : Points between second current) : Points held (first ++ second) current := by
  have closed : ∀ outer, began outer ∈ first → .failed outer ∉ second := by
    intro outer begins fails
    exact h.apart h' outer begins (h'.failed outer fails).1
  exact before.trans closed (h.apart h') later

/-- The events of a declaration that is in progress are those of its body after its beginning. -/
theorem Records.points_opening {r middle : Registry} {rule : Rule} {events : List Event}
    {held current : Option RuleId} (h : Records (r.begin rule).2 events middle)
    (inside : Points (some r.started.length) events current) :
    Points held (began r.started.length :: events) current :=
  (Records.begins rule).points_trans h (.latest latest_began) inside

/-- The current rule after a run in which nothing is stray is told by the events. -/
theorem Evolves.points {r after : Registry} {events : List Event} {hit : List RuleId}
    (h : Evolves False r events hit after) : Points r.current events after.current := by
  induction h with
  | unchanged hit listed started current =>
      rw [current]
      exact .held fun _ => not_stands_nil
  | changed r id rule => exact .held fun _ => not_stands_nil
  | trans before later ih ih' => exact before.records.points_trans later.records ih ih'
  | @returned r middle rule events hit within ih =>
      have opened : Points r.current (began r.started.length :: events) middle.current :=
        within.records.points_opening ih
      have ending : Points middle.current [.returned r.started.length] middle.current :=
        .held fun _ => not_stands_returned
      rw [Registry.complete_current, ← List.cons_append]
      exact opened.trans (by simp) (by simp) ending
  | abandoned _ _ => exact .held fun _ => not_stands_failing
  | left reason _ _ => exact reason.elim

end CookbookRules
