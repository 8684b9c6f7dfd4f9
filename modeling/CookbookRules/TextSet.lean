/-!
# Sets of texts

A set of texts as a list that ascends strictly, so that equal sets are equal data and a listing needs no
sorting. `mem_insert` and `mem_insertAll` say which texts a set holds after it has grown.
-/

namespace CookbookRules

/-- Puts a text into an ascending list, unless it is there. -/
def insertAscending (s : String) : List String → List String
  | [] => [s]
  | head :: rest =>
    if s < head then s :: head :: rest
    else if s = head then head :: rest
    else head :: insertAscending s rest

theorem mem_insertAscending {s t : String} {texts : List String} :
    t ∈ insertAscending s texts ↔ t = s ∨ t ∈ texts := by
  induction texts with
  | nil => simp [insertAscending]
  | cons head rest ih =>
    simp only [insertAscending]
    split
    · simp
    · split
      · next h => subst h; simp
      · simp only [List.mem_cons, ih]
        constructor
        · rintro (h | h | h) <;> simp [h]
        · rintro (h | h | h) <;> simp [h]

theorem pairwise_insertAscending {s : String} {texts : List String}
    (h : texts.Pairwise (· < ·)) : (insertAscending s texts).Pairwise (· < ·) := by
  induction texts with
  | nil => simp [insertAscending]
  | cons head rest ih =>
    obtain ⟨first, others⟩ := List.pairwise_cons.1 h
    simp only [insertAscending]
    split
    · next less =>
      refine List.pairwise_cons.2 ⟨fun t member => ?_, h⟩
      rcases List.mem_cons.1 member with rfl | member
      · exact less
      · exact String.lt_trans less (first t member)
    · split
      · exact h
      · next notLess different =>
        refine List.pairwise_cons.2 ⟨fun t member => ?_, ih others⟩
        rcases mem_insertAscending.1 member with rfl | member
        · exact Std.lt_of_le_of_ne (String.not_lt.1 notLess) (Ne.symm different)
        · exact first t member

/-- A set of texts. -/
structure TextSet where
  toList : List String
  ascending : toList.Pairwise (· < ·)
  deriving DecidableEq

namespace TextSet

instance : Membership String TextSet := ⟨fun set s => s ∈ set.toList⟩

theorem mem_def {set : TextSet} {s : String} : s ∈ set ↔ s ∈ set.toList := Iff.rfl

instance (s : String) (set : TextSet) : Decidable (s ∈ set) :=
  inferInstanceAs (Decidable (s ∈ set.toList))

/-- No texts. -/
def empty : TextSet := ⟨[], .nil⟩

/-- The set with one more text. -/
def insert (s : String) (set : TextSet) : TextSet :=
  ⟨insertAscending s set.toList, pairwise_insertAscending set.ascending⟩

/-- The set with the texts of a list. -/
def insertAll (new : List String) (set : TextSet) : TextSet :=
  new.foldl (fun all s => all.insert s) set

/-- The set of the texts of a list. -/
def ofList (texts : List String) : TextSet := insertAll texts empty

@[simp] theorem not_mem_empty (s : String) : ¬ s ∈ empty := List.not_mem_nil

@[simp] theorem mem_insert {t s : String} {set : TextSet} :
    t ∈ set.insert s ↔ t = s ∨ t ∈ set :=
  mem_insertAscending

@[simp] theorem mem_insertAll {t : String} {new : List String} {set : TextSet} :
    t ∈ set.insertAll new ↔ t ∈ new ∨ t ∈ set := by
  induction new generalizing set with
  | nil => simp [insertAll]
  | cons s rest ih =>
    rw [show set.insertAll (s :: rest) = (set.insert s).insertAll rest from rfl, ih]
    simp only [mem_insert, List.mem_cons]
    constructor
    · rintro (h | h | h) <;> simp [h]
    · rintro ((h | h) | h) <;> simp [h]

@[simp] theorem mem_ofList {t : String} {texts : List String} :
    t ∈ ofList texts ↔ t ∈ texts := by
  simp [ofList]

end TextSet

end CookbookRules
