import CookbookRules.Problem
import Mathlib.Data.Prod.Lex
import Mathlib.Data.String.Basic

/-!
# The order of a report

Problems are compared by their keys: code, path, line and field, one after the other. A sorted list of
problems is one in which the keys ascend, and sorting it again changes nothing.
-/

namespace CookbookRules.Problem

/-- What a problem is sorted by; an unknown line counts as zero. -/
def key (p : Problem) : String ×ₗ String ×ₗ Int ×ₗ String :=
  toLex (p.code, toLex (p.path, toLex (p.line.getD 0, p.field)))

variable {p q : Problem} {problems : List Problem}

theorem mayPrecede_iff : p.mayPrecede q = true ↔ p.key ≤ q.key := by
  simp only [mayPrecede, key, Prod.Lex.toLex_le_toLex]
  split
  · next other => simp [other]
  · next same =>
    rw [not_not] at same
    split
    · next other => simp [same, other]
    · next same' =>
      rw [not_not] at same'
      split
      · next other => simp [same, same', other]
      · next same'' =>
        rw [not_not] at same''
        simp [same, same', same'']

/-- In a report the keys ascend. -/
theorem pairwise_sort (problems : List Problem) :
    (sort problems).Pairwise fun p q => p.key ≤ q.key := by
  have sorted : (sort problems).Pairwise fun p q => p.mayPrecede q = true := by
    apply List.pairwise_mergeSort
    · intro p q r before behind
      rw [mayPrecede_iff] at before behind ⊢
      exact before.trans behind
    · intro p q
      rw [Bool.or_eq_true, mayPrecede_iff, mayPrecede_iff]
      exact le_total p.key q.key
  exact sorted.imp mayPrecede_iff.1

/-- The report of problems whose keys ascend keeps their order. -/
theorem report_of_pairwise (ascending : problems.Pairwise fun p q => p.key ≤ q.key) :
    report problems = String.intercalate "\n" (problems.map format) := by
  have sorted : sort problems = problems :=
    List.mergeSort_of_pairwise (ascending.imp mayPrecede_iff.2)
  rw [report, sorted]

end CookbookRules.Problem
