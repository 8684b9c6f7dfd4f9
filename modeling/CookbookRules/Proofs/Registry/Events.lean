import CookbookRules.Proofs.Registry.Listed

/-!
# What happens to declarations

A run of declarations as the row of its events, in the order in which they happen. `Records` says that
such a row tells what became of a registry: the declarations are numbered as they begin, each ends once
at most, and the list has grown at its end by the declarations of which the call returned, in the order
in which they began. Rows of events are put one after the other or around each other as the calls are.
-/

namespace CookbookRules

/-- A declaration begins; later its call returns, or fails. -/
inductive Event
  | began (id : RuleId)
  | returned (id : RuleId)
  | failed (id : RuleId)
  deriving DecidableEq, Repr

namespace Event

/-- The declaration that begins with an event. -/
def begun? : Event → Option RuleId
  | began id => some id
  | _ => none

/-- The declarations that begin, in their order. -/
def begun (events : List Event) : List RuleId := events.filterMap begun?

/-- The declarations that begin and of which the call returns, in the order in which they begin. -/
def kept (events : List Event) : List RuleId :=
  (begun events).filter fun id => returned id ∈ events

@[simp] theorem begun_cons_began (id : RuleId) (events : List Event) :
    begun (began id :: events) = id :: begun events := rfl

@[simp] theorem begun_returned (id : RuleId) : begun [returned id] = [] := rfl

@[simp] theorem begun_failed (id : RuleId) : begun [failed id] = [] := rfl

@[simp] theorem begun_append (first second : List Event) :
    begun (first ++ second) = begun first ++ begun second :=
  List.filterMap_append

theorem mem_begun {id : RuleId} {events : List Event} :
    id ∈ begun events ↔ began id ∈ events := by
  rw [begun, List.mem_filterMap]
  constructor
  · rintro ⟨event, member, found⟩
    cases event with
    | began other => cases found; exact member
    | returned other => cases found
    | failed other => cases found
  · intro member
    exact ⟨began id, member, rfl⟩

theorem mem_kept {id : RuleId} {events : List Event} :
    id ∈ kept events ↔ began id ∈ events ∧ returned id ∈ events := by
  simp [kept, mem_begun]

end Event

open Event

/-- A registry has become another one by the events of some declarations. -/
structure Records (r : Registry) (events : List Event) (after : Registry) : Prop where
  begun : begun events = List.range' r.started.length (begun events).length
  started : after.started.length = r.started.length + (Event.begun events).length
  returned : ∀ id, returned id ∈ events → began id ∈ events
  failed : ∀ id, failed id ∈ events → began id ∈ events ∧ .returned id ∉ events
  listed : after.listed = r.listed ++ kept events

namespace Records

variable {r middle after : Registry} {events first second : List Event} {rule : Rule}

/-- The declarations that begin are those with a number that the first registry has not given yet. -/
theorem began_iff (h : Records r events after) (id : Nat) :
    began id ∈ events ↔ r.started.length ≤ id ∧ id < after.started.length := by
  rw [← mem_begun, h.begun, h.started, List.mem_range'_1]

/-- Nothing is declared. -/
theorem silent (listed : after.listed = r.listed)
    (started : after.started.length = r.started.length) : Records r [] after where
  begun := rfl
  started := started
  returned := by simp
  failed := by simp
  listed := by simp [listed, kept]

/-- Later declarations have later numbers, so none begins in both of two runs. -/
theorem apart (h : Records r first middle) (h' : Records middle second after) (id : Nat) :
    began id ∈ first → began id ∉ second := by
  intro inFirst inSecond
  have below := ((h.began_iff id).1 inFirst).2
  have above := ((h'.began_iff id).1 inSecond).1
  omega

/-- One run after the other. -/
theorem trans (h : Records r first middle) (h' : Records middle second after) :
    Records r (first ++ second) after := by
  have apart : ∀ id, began id ∈ first → began id ∉ second := h.apart h'
  have keptFirst : (Event.begun first).filter (fun id => .returned id ∈ first ++ second) =
      kept first := by
    apply List.filter_congr
    intro id member
    have absent : Event.returned id ∉ second := fun inSecond =>
      apart id (mem_begun.1 member) (h'.returned id inSecond)
    simp [absent]
  have keptSecond : (Event.begun second).filter (fun id => .returned id ∈ first ++ second) =
      kept second := by
    apply List.filter_congr
    intro id member
    have absent : Event.returned id ∉ first := fun inFirst =>
      apart id (h.returned id inFirst) (mem_begun.1 member)
    simp [absent]
  refine ⟨?_, ?_, ?_, ?_, ?_⟩
  · rw [begun_append, List.length_append, h.begun, h'.begun, h.started]
    simp
  · rw [h'.started, h.started, begun_append, List.length_append, Nat.add_assoc]
  · intro id member
    rcases List.mem_append.1 member with member | member
    · exact List.mem_append_left _ (h.returned id member)
    · exact List.mem_append_right _ (h'.returned id member)
  · intro id member
    rcases List.mem_append.1 member with member | member
    · obtain ⟨inFirst, absent⟩ := h.failed id member
      refine ⟨List.mem_append_left _ inFirst, fun found => ?_⟩
      rcases List.mem_append.1 found with found | found
      · exact absent found
      · exact apart id inFirst (h'.returned id found)
    · obtain ⟨inSecond, absent⟩ := h'.failed id member
      refine ⟨List.mem_append_right _ inSecond, fun found => ?_⟩
      rcases List.mem_append.1 found with found | found
      · exact apart id (h.returned id found) inSecond
      · exact absent found
  · calc
      after.listed = r.listed ++ kept first ++ kept second := by rw [h'.listed, h.listed]
      _ = r.listed ++ kept (first ++ second) := by
        rw [List.append_assoc, ← keptFirst, ← keptSecond, ← List.filter_append, ← begun_append]
        rfl

/-- A declaration has only begun. -/
theorem begins (rule : Rule) : Records r [began r.started.length] (r.begin rule).2 where
  begun := rfl
  started := List.length_append
  returned := by simp
  failed := by simp
  listed := by simp [kept]

section Around

variable (h : Records (r.begin rule).2 events middle)

include h

/-- The declaration around a run is not among those of the run. -/
theorem began_notMem : began r.started.length ∉ events := by
  intro member
  have above := ((h.began_iff _).1 member).1
  rw [Registry.begin_started, List.length_append, List.length_singleton] at above
  omega

theorem returned_notMem : Event.returned r.started.length ∉ events :=
  fun member => h.began_notMem (h.returned _ member)

/-- The declaration around a run begins before it, so its number comes first. -/
theorem begun_around : r.started.length :: Event.begun events =
    List.range' r.started.length ((Event.begun events).length + 1) := by
  rw [h.begun, List.length_range', List.range'_succ, Registry.begin_started, List.length_append]
  rfl

theorem started_around :
    middle.started.length = r.started.length + ((Event.begun events).length + 1) := by
  have grown := h.started
  rw [Registry.begin_started, List.length_append, List.length_singleton] at grown
  omega

/-- A declaration of which the call returns is kept before those of its body. -/
theorem kept_returning :
    kept (began r.started.length :: (events ++ [.returned r.started.length])) =
      r.started.length :: kept events := by
  have others : (Event.begun events).filter
      (fun id => .returned id ∈ began r.started.length :: (events ++ [.returned r.started.length])) =
        kept events := by
    apply List.filter_congr
    intro id member
    have other : id ≠ r.started.length := fun same =>
      h.began_notMem (same ▸ mem_begun.1 member)
    simp [other]
  rw [← others]
  simp [kept]

/-- A declaration of which the call fails leaves those of its body. -/
theorem kept_failing :
    kept (began r.started.length :: (events ++ [.failed r.started.length])) = kept events := by
  simp [kept, h.returned_notMem]

/-- A declaration whose body has run and of which the call returns. -/
theorem returning :
    Records r (began r.started.length :: (events ++ [.returned r.started.length]))
      (middle.complete (r.begin rule).1) where
  begun := by simpa using h.begun_around
  started := by simpa using h.started_around
  returned := by
    intro id member
    rcases List.mem_cons.1 member with member | member
    · cases member
    · rcases List.mem_append.1 member with member | member
      · exact List.mem_cons_of_mem _ (List.mem_append_left _ (h.returned id member))
      · cases List.mem_singleton.1 member
        exact List.mem_cons_self
  failed := by
    intro id member
    obtain ⟨inside, absent⟩ := h.failed id (by simpa using member)
    have other : id ≠ r.started.length := fun same => h.began_notMem (same ▸ inside)
    exact ⟨by simp [inside], by simp [absent, other]⟩
  listed := by
    rw [Registry.complete_listed, h.listed, h.kept_returning]
    exact List.modifyTailIdx_add (List.cons r.started.length) 0 r.listed (kept events)

/-- A declaration whose body has run and of which the call fails; the list stays as the body left it. -/
theorem failing (listed : after.listed = middle.listed) (started : after.started = middle.started) :
    Records r (began r.started.length :: (events ++ [.failed r.started.length])) after where
  begun := by simpa using h.begun_around
  started := by simpa [started] using h.started_around
  returned := by
    intro id member
    have inside := h.returned id (by simpa using member)
    exact List.mem_cons_of_mem _ (List.mem_append_left _ inside)
  failed := by
    intro id member
    rcases List.mem_cons.1 member with member | member
    · cases member
    · rcases List.mem_append.1 member with member | member
      · obtain ⟨inside, absent⟩ := h.failed id member
        exact ⟨by simp [inside], by simp [absent]⟩
      · cases List.mem_singleton.1 member
        exact ⟨List.mem_cons_self, by simp [h.returned_notMem]⟩
  listed := by rw [listed, h.listed, h.kept_failing, Registry.begin_listed]

end Around

/-- A rule that is declared whole. -/
theorem declared (rule : Rule) :
    Records r [began r.started.length, .returned r.started.length] (r.declare rule).2 :=
  (silent rfl rfl : Records (r.begin rule).2 [] _).returning

/-- Nothing is kept exactly if no call returns. -/
theorem kept_eq_nil_iff (h : Records r events after) :
    kept events = [] ↔ ∀ id, .returned id ∉ events := by
  rw [List.eq_nil_iff_forall_not_mem]
  constructor
  · intro nothing id returns
    exact nothing id (mem_kept.2 ⟨h.returned id returns, returns⟩)
  · intro silent id member
    exact silent id (mem_kept.1 member).2

/-- Declarations that are kept are new, and they stand in the order of their numbers. -/
theorem kept_eq (h : Records r events after) :
    (∀ id : Nat, id ∈ kept events → r.started.length ≤ id ∧ id < after.started.length) ∧
      (kept events).Pairwise (· < ·) := by
  constructor
  · intro id member
    exact (h.began_iff id).1 (mem_kept.1 member).1
  · have ascending : (Event.begun events).Pairwise (· < ·) := by
      rw [h.begun]
      exact List.pairwise_lt_range'
    exact ascending.sublist List.filter_sublist

theorem sound (h : Records r events after) (sound : r.Sound) : after.Sound := by
  obtain ⟨fresh, ascending⟩ := h.kept_eq
  constructor
  · rw [h.listed, List.nodup_append]
    refine ⟨sound.nodup, ascending.imp Nat.ne_of_lt, fun id old other new same => ?_⟩
    subst same
    exact Nat.not_le.2 (sound.begun id old) (fresh id new).1
  · intro id member
    rw [h.listed] at member
    rcases List.mem_append.1 member with old | new
    · have below := sound.begun id old
      have grown := h.started
      omega
    · exact (fresh id new).2

end Records

end CookbookRules
