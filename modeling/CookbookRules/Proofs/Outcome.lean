import Mathlib.Data.List.Forall2

/-!
# Outcomes

When a computation that may fail succeeds: a sequence does if each of its steps does, and renaming the
faults of a computation changes nothing about its success.
-/

namespace CookbookRules.Outcome

variable {ε δ α β : Type}

@[simp] theorem ok_bind (a : α) (next : α → Except ε β) : (Except.ok a >>= next) = next a := rfl

@[simp] theorem error_bind (fault : ε) (next : α → Except ε β) :
    (Except.error fault >>= next) = .error fault := rfl

@[simp] theorem mapError_ok (a : α) (rename : ε → δ) : (Except.ok a).mapError rename = .ok a := rfl

@[simp] theorem mapError_error (fault : ε) (rename : ε → δ) :
    (Except.error fault : Except ε α).mapError rename = .error (rename fault) := rfl

theorem bind_eq_ok {run : Except ε α} {next : α → Except ε β} {result : β} :
    (run >>= next) = .ok result ↔ ∃ a, run = .ok a ∧ next a = .ok result := by
  cases run with
  | error fault => simp
  | ok a =>
      constructor
      · intro h
        exact ⟨a, rfl, h⟩
      · rintro ⟨b, h, later⟩
        cases h
        exact later

theorem bind_eq_error {run : Except ε α} {next : α → Except ε β} {fault : ε} :
    (run >>= next) = .error fault ↔
      run = .error fault ∨ ∃ a, run = .ok a ∧ next a = .error fault := by
  cases run with
  | error other => simp
  | ok a => simp

theorem map_eq_ok {run : Except ε α} {f : α → β} {result : β} :
    f <$> run = .ok result ↔ ∃ a, run = .ok a ∧ f a = result := by
  cases run with
  | error fault => simp [Functor.map, Except.map]
  | ok a => simp [Functor.map, Except.map]

theorem map_eq_error {run : Except ε α} {f : α → β} {fault : ε} :
    f <$> run = .error fault ↔ run = .error fault := by
  cases run with
  | error other => simp [Functor.map, Except.map]
  | ok a => simp [Functor.map, Except.map]

/-- A check succeeds before the rest does. -/
theorem then_eq_ok {check : Except ε Unit} {rest : Except ε β} {result : β} :
    (check >>= fun _ => rest) = .ok result ↔ check = .ok () ∧ rest = .ok result := by
  rw [bind_eq_ok]
  exact ⟨fun ⟨_, first, later⟩ => ⟨first, later⟩, fun ⟨first, later⟩ => ⟨(), first, later⟩⟩

/-- A check fails, or it succeeds and the rest fails. -/
theorem then_eq_error {check : Except ε Unit} {rest : Except ε β} {fault : ε} :
    (check >>= fun _ => rest) = .error fault ↔
      check = .error fault ∨ check = .ok () ∧ rest = .error fault := by
  rw [bind_eq_error]
  exact or_congr_right ⟨fun ⟨_, first, later⟩ => ⟨first, later⟩, fun ⟨first, later⟩ => ⟨(), first, later⟩⟩

theorem mapError_eq_error {run : Except ε α} {rename : ε → δ} {fault : δ} :
    run.mapError rename = .error fault ↔ ∃ cause, run = .error cause ∧ rename cause = fault := by
  cases run with
  | error cause => simp
  | ok a => simp

theorem mapError_eq_ok {run : Except ε α} {rename : ε → δ} {result : α} :
    run.mapError rename = .ok result ↔ run = .ok result := by
  cases run with
  | error fault => simp
  | ok a => simp

theorem toOption_eq_some {run : Except ε α} {result : α} :
    run.toOption = some result ↔ run = .ok result := by
  cases run with
  | error fault => simp [Except.toOption]
  | ok a => simp [Except.toOption]

/-- The fault of a computation that fails. -/
def faultOf? : Except ε α → Option ε
  | .ok _ => none
  | .error fault => some fault

theorem faultOf?_eq_some {run : Except ε α} {fault : ε} : faultOf? run = some fault ↔ run = .error fault := by
  cases run with
  | error other => simp [faultOf?]
  | ok a => simp [faultOf?]

/-- A check of all items succeeds if that of each item does. -/
theorem not_exists_ok_iff {run : Except ε α} :
    (¬ ∃ result, run = .ok result) ↔ ∃ fault, run = .error fault := by
  cases run <;> simp

theorem forM_eq_ok {check : α → Except ε Unit} {items : List α} :
    items.forM check = .ok () ↔ ∀ item ∈ items, check item = .ok () := by
  induction items with
  | nil => simp [List.forM, pure, Except.pure]
  | cons item rest ih =>
      rw [List.forall_mem_cons, ← ih]
      exact then_eq_ok

/-- A computation for all items succeeds if that for each item does. -/
theorem exists_mapM_eq_ok {compute : α → Except ε β} {items : List α}
    (each : ∀ item ∈ items, ∃ result, compute item = .ok result) :
    ∃ results, items.mapM compute = .ok results := by
  induction items with
  | nil => exact ⟨[], rfl⟩
  | cons item rest ih =>
      rw [List.forall_mem_cons] at each
      obtain ⟨first, computed⟩ := each.1
      obtain ⟨results, others⟩ := ih each.2
      exact ⟨first :: results, by rw [List.mapM_cons, computed, ok_bind, others]; rfl⟩

theorem exists_mapM_eq_ok_iff {compute : α → Except ε β} {items : List α} :
    (∃ results, items.mapM compute = .ok results) ↔
      ∀ item ∈ items, ∃ result, compute item = .ok result := by
  constructor
  · rintro ⟨results, h⟩
    induction items generalizing results with
    | nil => simp
    | cons item rest ih =>
        rw [List.mapM_cons] at h
        obtain ⟨first, computed, h⟩ := bind_eq_ok.1 h
        obtain ⟨others, later, -⟩ := bind_eq_ok.1 h
        exact List.forall_mem_cons.2 ⟨⟨first, computed⟩, ih others later⟩
  · exact exists_mapM_eq_ok

/-- A computation for all items gives what the computations for the items give. -/
theorem mem_of_mapM_eq_ok {compute : α → Except ε β} {items : List α} {results : List β}
    (h : items.mapM compute = .ok results) (result : β) :
    result ∈ results ↔ ∃ item ∈ items, compute item = .ok result := by
  induction items generalizing results with
  | nil =>
      cases h
      simp
  | cons item rest ih =>
      rw [List.mapM_cons] at h
      obtain ⟨first, computed, h⟩ := bind_eq_ok.1 h
      obtain ⟨others, later, ended⟩ := bind_eq_ok.1 h
      cases ended
      simp [ih later, computed, eq_comm]

/-- What is read of all items is what is read of the items, one by one. -/
theorem mapM_eq_some_iff_forall₂ {compute : α → Option β} {items : List α} {results : List β} :
    items.mapM compute = some results ↔
      List.Forall₂ (fun item result => compute item = some result) items results := by
  induction items generalizing results with
  | nil => simp [eq_comm]
  | cons item rest ih =>
      rw [List.mapM_cons, Option.bind_eq_bind, Option.bind_eq_some_iff, List.forall₂_cons_left_iff]
      refine exists_congr fun first => ?_
      simp only [Option.bind_eq_bind, Option.bind_eq_some_iff, ih]
      constructor
      · rintro ⟨computed, others, later, ended⟩
        exact ⟨others, computed, later, (Option.some.inj ended).symm⟩
      · rintro ⟨others, computed, later, rfl⟩
        exact ⟨computed, others, later, rfl⟩

theorem exists_of_mem_forall₂ {related : α → β → Prop} {items : List α} {results : List β} {result : β}
    (each : List.Forall₂ related items results) (member : result ∈ results) :
    ∃ item ∈ items, related item result := by
  induction each with
  | nil => cases member
  | cons first _ ih =>
      rcases List.mem_cons.1 member with rfl | later
      · exact ⟨_, List.mem_cons_self, first⟩
      · obtain ⟨item, listed, holds⟩ := ih later
        exact ⟨item, List.mem_cons_of_mem _ listed, holds⟩

/-- Items are related to some results one by one if each of them is to one. -/
theorem exists_forall₂_iff {related : α → β → Prop} {items : List α} :
    (∃ results, List.Forall₂ related items results) ↔ ∀ item ∈ items, ∃ result, related item result := by
  induction items with
  | nil => simp
  | cons item rest ih =>
      rw [List.forall_mem_cons, ← ih]
      constructor
      · rintro ⟨_, related⟩
        obtain ⟨first, results, own, others, -⟩ := List.forall₂_cons_left_iff.1 related
        exact ⟨⟨first, own⟩, results, others⟩
      · rintro ⟨⟨first, own⟩, results, others⟩
        exact ⟨first :: results, .cons own others⟩

theorem exists_mapM_eq_some_iff {compute : α → Option β} {items : List α} :
    (∃ results, items.mapM compute = some results) ↔
      ∀ item ∈ items, ∃ result, compute item = some result := by
  simp only [mapM_eq_some_iff_forall₂, exists_forall₂_iff]

/-- A computation for all items fails as that for the first of them for which it does. -/
theorem mapM_eq_error_iff {compute : α → Except ε β} {items : List α} {fault : ε} :
    items.mapM compute = .error fault ↔ ∃ before item after, items = before ++ item :: after ∧
      (∀ earlier ∈ before, ∃ result, compute earlier = .ok result) ∧ compute item = .error fault := by
  constructor
  · intro h
    induction items with
    | nil => cases h
    | cons item rest ih =>
        rw [List.mapM_cons] at h
        rcases bind_eq_error.1 h with own | ⟨first, computed, later⟩
        · exact ⟨[], item, rest, rfl, List.forall_mem_nil _, own⟩
        · rcases bind_eq_error.1 later with failed | ⟨results, -, ended⟩
          · obtain ⟨before, other, after, rfl, front, stops⟩ := ih failed
            exact ⟨item :: before, other, after, rfl,
              List.forall_mem_cons.2 ⟨⟨first, computed⟩, front⟩, stops⟩
          · cases ended
  · rintro ⟨before, item, after, rfl, front, stops⟩
    obtain ⟨results, computed⟩ := exists_mapM_eq_ok front
    rw [List.mapM_append, computed, ok_bind, List.mapM_cons, stops]
    rfl

/-- A check of all items fails as that of one of them does. -/
theorem exists_of_forM_eq_error {check : α → Except ε Unit} {items : List α} {fault : ε}
    (h : items.forM check = .error fault) : ∃ item ∈ items, check item = .error fault := by
  induction items with
  | nil => cases h
  | cons item rest ih =>
      rcases then_eq_error.1 h with own | ⟨-, later⟩
      · exact ⟨item, List.mem_cons_self, own⟩
      · obtain ⟨other, member, failed⟩ := ih later
        exact ⟨other, List.mem_cons_of_mem _ member, failed⟩

/-- A check of all items fails as the first one of them that fails. -/
theorem forM_eq_error {check : α → Except ε Unit} {before after : List α} {item : α} {fault : ε}
    (passed : ∀ earlier ∈ before, check earlier = .ok ()) (failed : check item = .error fault) :
    (before ++ item :: after).forM check = .error fault := by
  induction before with
  | nil =>
      change (check item >>= fun _ => after.forM check) = .error fault
      rw [failed]
      rfl
  | cons earlier rest ih =>
      rw [List.forall_mem_cons] at passed
      change (check earlier >>= fun _ => (rest ++ item :: after).forM check) = .error fault
      rw [passed.1]
      exact ih passed.2

/-- A run through some items that succeeds has made a step at each of them. -/
theorem exists_step_of_foldlM_eq_ok {step : β → α → Except ε β} {items : List α} {init last : β} {item : α}
    (h : items.foldlM step init = .ok last) (member : item ∈ items) :
    ∃ middle next, step middle item = .ok next := by
  induction items generalizing init with
  | nil => cases member
  | cons first rest ih =>
      rw [List.foldlM_cons] at h
      obtain ⟨next, passed, later⟩ := bind_eq_ok.1 h
      rcases List.mem_cons.1 member with rfl | behind
      · exact ⟨init, next, passed⟩
      · exact ih later behind

/-- A run through some items fails at the first of them at which it does. -/
theorem foldlM_eq_error {step : β → α → Except ε β} {items : List α} {init : β} {fault : ε}
    (h : items.foldlM step init = .error fault) :
    ∃ before item after middle, items = before ++ item :: after ∧
      before.foldlM step init = .ok middle ∧ step middle item = .error fault := by
  induction items generalizing init with
  | nil => cases h
  | cons item rest ih =>
      rw [List.foldlM_cons] at h
      rcases bind_eq_error.1 h with own | ⟨next, passed, later⟩
      · exact ⟨[], item, rest, init, rfl, rfl, own⟩
      · obtain ⟨before, other, after, middle, rfl, front, failed⟩ := ih later
        refine ⟨item :: before, other, after, middle, rfl, ?_, failed⟩
        rw [List.foldlM_cons, passed]
        exact front

/-- Which item of a list is the first without a property is settled by the list. -/
theorem first_unique {P : α → Prop} {before behind front back : List α} {a b : α}
    (same : before ++ a :: behind = front ++ b :: back) (each : ∀ item ∈ before, P item) (stops : ¬ P a)
    (each' : ∀ item ∈ front, P item) (stops' : ¬ P b) : before = front ∧ a = b ∧ behind = back := by
  classical
  have ahead {before behind : List α} {a : α} (each : ∀ item ∈ before, P item) (stops : ¬ P a) :
      (before ++ a :: behind).takeWhile (fun item => decide (P item)) = before := by
    rw [List.takeWhile_append_of_pos (by simpa using each), List.takeWhile_cons_of_neg (by simpa using stops),
      List.append_nil]
  obtain rfl : before = front := by
    rw [← ahead each stops, same, ahead each' stops']
  exact ⟨rfl, List.cons.inj (List.append_cancel_left same)⟩

end CookbookRules.Outcome
