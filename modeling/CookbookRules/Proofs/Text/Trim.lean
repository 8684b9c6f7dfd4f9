import CookbookRules.Text.Blank
import Mathlib.Data.List.DropRight
import Mathlib.Data.List.TakeWhile

/-!
# Trimmed texts

What trimming leaves: nothing exactly of a blank text, and all of a text but the blanks on the side that has
them.
-/

namespace CookbookRules.Text

theorem trimList_eq_nil_iff {cs : List Char} :
    trimList cs = [] ↔ ∀ c ∈ cs, isBlank c = true := by
  constructor
  · intro h c member
    rw [trimList, List.reverse_eq_nil_iff, List.dropWhile_eq_nil_iff] at h
    -- What the front leaves is blank throughout, so the front leaves nothing.
    have front : cs.dropWhile isBlank = [] := by
      cases rest : cs.dropWhile isBlank with
      | nil => rfl
      | cons d ds =>
          have blank : isBlank d = true := h d (by simp [rest])
          have stopped := List.head?_dropWhile_not isBlank cs
          simp [rest, blank] at stopped
    exact List.dropWhile_eq_nil_iff.1 front c member
  · intro h
    rw [trimList, List.dropWhile_eq_nil_iff.2 h, List.reverse_nil, List.dropWhile_nil,
      List.reverse_nil]

theorem allBlank_iff {s : String} : allBlank s = true ↔ trim s = "" := by
  rw [allBlank, List.all_eq_true, ← trimList_eq_nil_iff, trim]
  constructor
  · intro h
    rw [h]
  · intro h
    simpa using congrArg String.toList h

/-- A tilde is not blank, so trimming leaves it in front. -/
theorem trimList_tilde (cs : List Char) : trimList ('~' :: cs) = '~' :: cs.rdropWhile isBlank := by
  have kept : isBlank '~' = false := by decide
  rw [trimList, List.dropWhile_cons_of_neg (by simp [kept]), List.reverse_cons, List.dropWhile_append,
    List.rdropWhile]
  cases cs.reverse.dropWhile isBlank with
  | nil => simp [kept]
  | cons c rest => simp

theorem rdropWhile_isBlank_eq_self_iff {cs : List Char} :
    cs.rdropWhile isBlank = cs ↔ ∀ c, cs.getLast? = some c → isBlank c = false := by
  rcases List.eq_nil_or_concat cs with rfl | ⟨front, last, rfl⟩
  · simp
  · simp

/-- A text that no blank ends is trimmed in front only. -/
theorem trimList_of_rdropWhile {cs : List Char} (h : cs.rdropWhile isBlank = cs) :
    trimList cs = cs.dropWhile isBlank := by
  change (cs.dropWhile isBlank).rdropWhile isBlank = cs.dropWhile isBlank
  rw [List.rdropWhile_eq_self_iff] at h ⊢
  intro filled
  rw [(List.dropWhile_suffix isBlank (l := cs)).getLast filled]
  exact h _

end CookbookRules.Text
