import CookbookRules.Number.Binary64
import Mathlib.Data.Rat.Cast.Order

/-!
# The rational value of a floating point number

A finite number is a significand with a sign times a power of two; the others have no rational value.
-/

namespace CookbookRules.Number.Binary64

/-- The rational value of a number, if it is finite. -/
def rational? : Binary64 → Option ℚ
  | finite s m e => some ((if s then -(m : ℚ) else m) * 2 ^ e)
  | _ => none

/-- A ratio is the magnitude that it is made of. -/
theorem ratio_eq (m : Nat) (e : Int) :
    ((ratio m e).1 : ℚ) / (ratio m e).2 = m * 2 ^ e := by
  unfold ratio
  split
  · next nonneg =>
    obtain ⟨k, rfl⟩ := Int.eq_ofNat_of_zero_le nonneg
    simp
  · next negative =>
    obtain ⟨k, rfl⟩ : ∃ k : Nat, e = -(k : Int) := ⟨(-e).toNat, by omega⟩
    simp [div_eq_mul_inv]

theorem ratio_pos (m : Nat) (e : Int) : 0 < (ratio m e).2 := by
  unfold ratio
  split
  · exact Nat.one_pos
  · exact Nat.pow_pos (by decide)

/-- A number is an integer exactly if that is its rational value. -/
theorem isInt_iff {x : Binary64} {n : Int} : x.isInt n = true ↔ x.rational? = some (n : ℚ) := by
  cases x with
  | nan => simp [isInt, rational?]
  | infinite s => simp [isInt, rational?]
  | finite s m e =>
      have positive : ((ratio m e).2 : ℚ) ≠ 0 := by
        exact_mod_cast (ratio_pos m e).ne'
      have value : ((if s then -(m : ℚ) else m) * 2 ^ e) =
          ((if s then -((ratio m e).1 : Int) else (ratio m e).1 : Int) : ℚ) / (ratio m e).2 := by
        cases s with
        | false => simpa using (ratio_eq m e).symm
        | true => simp [← ratio_eq m e, neg_div]
      rw [rational?, value, Option.some.injEq, div_eq_iff positive]
      simp only [isInt, beq_iff_eq]
      exact_mod_cast Iff.rfl

end CookbookRules.Number.Binary64
