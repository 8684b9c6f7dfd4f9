import CookbookRules.Files.Glob
import CookbookRules.Proofs.Outcome
import Mathlib.Data.List.Infix

/-!
# Texts as patterns

Which texts are read as patterns: those with a component in which two stars stand side by side only where
they are the whole of it.
-/

namespace CookbookRules.Glob

open Outcome

/-- A text that is read as a pattern: it has a component, and two stars stand side by side only where they
are a whole component. -/
structure IsPattern (s : String) : Prop where
  filled : Path.components s.toList ≠ []
  stars : ∀ part ∈ Path.components s.toList, ['*', '*'] <:+: part.toList → part = "**"

variable {s part : String} {cs : List Char}

theorem hasDoubleStar_iff : hasDoubleStar cs = true ↔ ['*', '*'] <:+: cs := by
  fun_induction hasDoubleStar cs with
  | case1 rest => exact iff_of_true rfl ⟨[], rest, rfl⟩
  | case2 c rest other ih =>
      rw [ih, List.infix_cons_iff]
      constructor
      · exact .inr
      · rintro (⟨behind, begins⟩ | later)
        · cases begins
          exact (other behind rfl rfl).elim
        · exact later
  | case3 => simp

/-- A component is read unless it mixes two stars with something else. -/
theorem exists_component_iff :
    (∃ component, Component.ofString part = .ok component) ↔
      (['*', '*'] <:+: part.toList → part = "**") := by
  rw [Component.ofString]
  by_cases whole : part = "**"
  · simp [whole]
  · rw [if_neg whole, ← hasDoubleStar_iff]
    cases hasDoubleStar part.toList with
    | true => simp [whole]
    | false => simp

theorem exists_pattern_iff : (∃ pattern, Pattern.ofString s = .ok pattern) ↔ IsPattern s := by
  have parts : IsPattern s ↔ Path.components s.toList ≠ [] ∧
      ∃ components, (Path.components s.toList).mapM Component.ofString = .ok components := by
    simp only [exists_mapM_eq_ok_iff, exists_component_iff]
    exact ⟨fun h => ⟨h.filled, h.stars⟩, fun h => ⟨h.1, h.2⟩⟩
  rw [parts, Pattern.ofString]
  by_cases empty : s = ""
  · subst empty
    simp [Path.components, Text.splitOn]
  · rw [if_neg empty]
    cases split : Path.components s.toList with
    | nil => simp
    | cons first rest =>
        cases (first :: rest).mapM Component.ofString with
        | error fault => simp
        | ok components => simp

end CookbookRules.Glob
