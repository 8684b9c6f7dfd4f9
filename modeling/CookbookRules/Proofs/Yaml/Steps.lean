import CookbookRules.Proofs.Outcome
import CookbookRules.Yaml.Fault

/-!
# Steps that stay in a text

The steps that read a text change a state or give up at a place. What is shown of each is that it keeps an
invariant of the state, in which the places lie in the text, and that the place at which it gives up does
too; a row of such steps does the same.
-/

namespace CookbookRules.Yaml

/-- The place that a fault points at, if it points at one, lies in a text of so many characters. -/
def Fault.IsWithin (size : Nat) : Fault → Prop
  | .malformed mark => mark ≤ size
  | .notAllowed | .scalar _ => True

/-- An outcome has a property, or it is a fault in a text of so many characters. -/
def Ends {α : Type} (size : Nat) (outcome : Except Fault α) (P : α → Prop) : Prop :=
  match outcome with
  | .ok a => P a
  | .error fault => fault.IsWithin size

/-- Where an invariant holds, a step keeps it, its answer has a property, and it gives up in a text of so many
characters. -/
def Stays {σ α : Type} (size : Nat) (I : σ → Prop) (step : StateT σ (Except Fault) α) (P : α → Prop) : Prop :=
  ∀ s, I s → Ends size (step.run s) fun result => P result.1 ∧ I result.2

section Outcomes

variable {size : Nat} {α β : Type} {outcome : Except Fault α} {next : α → Except Fault β} {P : α → Prop}
  {Q : β → Prop}

theorem Ends.of_ok {a : α} (h : Ends size outcome P) (ended : outcome = .ok a) : P a := by
  subst ended
  exact h

theorem Ends.of_error {fault : Fault} (h : Ends size outcome P) (ended : outcome = .error fault) :
    fault.IsWithin size := by
  subst ended
  exact h

theorem Ends.bind (first : Ends size outcome P) (rest : ∀ a, P a → Ends size (next a) Q) :
    Ends size (outcome >>= next) Q := by
  cases outcome with
  | ok a => exact rest a first
  | error fault => exact first

/-- Behind an outcome that is a fault nothing is done. -/
theorem Ends.bind_never (never : Ends size outcome fun _ => False) : Ends size (outcome >>= next) Q :=
  never.bind fun _ => False.elim

theorem ends_ite {c : Prop} [Decidable c] {other : Except Fault α} (yes : Ends size outcome P)
    (no : Ends size other P) : Ends size (if c then outcome else other) P := by
  split
  · exact yes
  · exact no

end Outcomes

section Steps

variable {size : Nat} {σ α β : Type} {I : σ → Prop} {step : StateT σ (Except Fault) α}
  {next : α → StateT σ (Except Fault) β} {P : α → Prop} {Q : β → Prop}

theorem stays_pure {a : α} (h : P a) : Stays size I (pure a) P :=
  fun _ kept => ⟨h, kept⟩

theorem stays_throw {fault : Fault} (within : fault.IsWithin size) : Stays size I (throw fault) P :=
  fun _ _ => within

/-- A scalar without a value is no place's fault. -/
theorem stays_throw_scalar (fault : ScalarFault) : Stays size I (throw (.scalar fault)) P :=
  fun _ _ => trivial

theorem Stays.bind (first : Stays size I step P) (rest : ∀ a, P a → Stays size I (next a) Q) :
    Stays size I (step >>= next) Q :=
  fun s kept => (first s kept).bind fun result held => rest result.1 held.1 result.2 held.2

theorem Stays.map {f : α → β} (h : Stays size I step P) (each : ∀ a, P a → Q (f a)) :
    Stays size I (f <$> step) Q := by
  rw [map_eq_pure_bind]
  exact h.bind fun a held => stays_pure (each a held)

theorem Stays.mapped {f : α → β} (h : Stays size I step P) : Stays size I (f <$> step) fun _ => True :=
  h.map fun _ _ => trivial

theorem stays_get : Stays size I get I :=
  fun _ kept => ⟨kept, kept⟩

theorem stays_set {s : σ} (h : I s) : Stays size I (set s) fun _ => True :=
  fun _ _ => ⟨trivial, h⟩

theorem stays_modify {f : σ → σ} (h : ∀ s, I s → I (f s)) : Stays size I (modify f) fun _ => True :=
  fun s kept => ⟨trivial, h s kept⟩

theorem stays_mapM {f : α → StateT σ (Except Fault) β} {items : List α}
    (each : ∀ item, Stays size I (f item) Q) :
    Stays size I (items.mapM f) fun answers => ∀ answer ∈ answers, Q answer := by
  induction items with
  | nil => exact stays_pure (List.forall_mem_nil _)
  | cons item rest ih =>
      rw [List.mapM_cons]
      refine (each item).bind fun answer own => ih.bind fun answers others => ?_
      exact stays_pure (List.forall_mem_cons.2 ⟨own, others⟩)

theorem stays_forM {f : α → StateT σ (Except Fault) PUnit} {items : List α}
    (each : ∀ item, Stays size I (f item) fun _ => True) :
    Stays size I (items.forM f) fun _ => True := by
  induction items with
  | nil => exact stays_pure trivial
  | cons item rest ih => exact (each item).bind fun _ _ => ih

/-- Behind a step that gives up nothing is done. -/
theorem Stays.bind_never (never : Stays size I step fun _ => False) : Stays size I (step >>= next) Q :=
  never.bind fun _ => False.elim

end Steps

end CookbookRules.Yaml
