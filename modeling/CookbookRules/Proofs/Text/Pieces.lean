import CookbookRules.Text.Blank
import Mathlib.Algebra.GroupWithZero.Nat
import Mathlib.Data.List.Basic

/-!
# Pieces of a text

What stands between separators: no piece holds one, a text without separators is one piece, and a piece
stays one where more characters separate, unless it holds one of them.
-/

namespace CookbookRules.Text

variable {sep : Char → Bool} {cs piece : List Char} {c : Char}

/-- Texts are cut as lists are. -/
theorem splitOn_eq_splitOnP (sep : Char → Bool) (cs : List Char) : splitOn sep cs = cs.splitOnP sep := by
  induction cs with
  | nil => rfl
  | cons c rest ih =>
      rw [List.splitOnP_cons_eq_if_modifyHead, splitOn, ih]
      split
      · rfl
      · cases pieces : rest.splitOnP sep with
        | nil => exact absurd pieces (List.splitOnP_ne_nil sep rest)
        | cons piece pieces' => rfl

theorem splitOn_eq (sep : Char) (cs : List Char) : splitOn (· == sep) cs = cs.splitOn sep :=
  splitOn_eq_splitOnP (· == sep) cs

/-- A separator cuts what stands before it from what stands behind it. -/
theorem splitOn_append_cons (front rest : List Char) (cut : sep c = true) :
    splitOn sep (front ++ c :: rest) = splitOn sep front ++ splitOn sep rest := by
  simp only [splitOn_eq_splitOnP]
  exact List.splitOnP_append_cons front rest cut

/-- There is one more piece than there are separators. -/
theorem length_splitOn (sep : Char → Bool) (cs : List Char) :
    (splitOn sep cs).length = cs.countP sep + 1 := by
  induction cs with
  | nil => rfl
  | cons c rest ih =>
      rw [splitOn, List.countP_cons]
      split
      · rw [List.length_cons, ih]
      · cases pieces : splitOn sep rest with
        | nil => exact absurd pieces (splitOn_ne_nil sep rest)
        | cons piece pieces' =>
            rw [pieces] at ih
            exact ih

/-- No piece holds a separator. -/
theorem sep_eq_false_of_mem_splitOn (member : piece ∈ splitOn sep cs) (inside : c ∈ piece) :
    sep c = false := by
  induction cs generalizing piece with
  | nil =>
      cases List.mem_singleton.1 member
      cases inside
  | cons d rest ih =>
      rw [splitOn] at member
      split at member
      · rcases List.mem_cons.1 member with rfl | later
        · cases inside
        · exact ih later inside
      · next other =>
        cases pieces : splitOn sep rest with
        | nil => exact absurd pieces (splitOn_ne_nil sep rest)
        | cons first more =>
            rw [pieces] at member ih
            rcases List.mem_cons.1 member with rfl | later
            · rcases List.mem_cons.1 inside with rfl | inside
              · simpa using other
              · exact ih List.mem_cons_self inside
            · exact ih (List.mem_cons_of_mem _ later) inside

/-- A piece holds nothing that the text does not. -/
theorem mem_of_mem_splitOn (member : piece ∈ splitOn sep cs) (inside : c ∈ piece) : c ∈ cs := by
  induction cs generalizing piece with
  | nil =>
      cases List.mem_singleton.1 member
      cases inside
  | cons d rest ih =>
      rw [splitOn] at member
      split at member
      · rcases List.mem_cons.1 member with rfl | later
        · cases inside
        · exact List.mem_cons_of_mem d (ih later inside)
      · cases pieces : splitOn sep rest with
        | nil => exact absurd pieces (splitOn_ne_nil sep rest)
        | cons first more =>
            rw [pieces] at member ih
            rcases List.mem_cons.1 member with rfl | later
            · rcases List.mem_cons.1 inside with rfl | inside
              · exact List.mem_cons_self
              · exact List.mem_cons_of_mem d (ih List.mem_cons_self inside)
            · exact List.mem_cons_of_mem d (ih (List.mem_cons_of_mem _ later) inside)

/-- A piece is not cut by further separators that it does not hold. -/
theorem mem_splitOn_of_finer {finer : Char → Bool} (more : ∀ c, sep c = true → finer c = true)
    (member : piece ∈ splitOn sep cs) (whole : ∀ c ∈ piece, finer c = false) :
    piece ∈ splitOn finer cs := by
  rw [splitOn_eq_splitOnP] at member ⊢
  -- The induction is on what stands behind the part of the first piece that has been read.
  have behind (front rest : List Char) (apart : ∀ c ∈ front, sep c = false)
      (member : piece ∈ (front ++ rest).splitOnP sep) : piece ∈ (front ++ rest).splitOnP finer := by
    induction rest generalizing front with
    | nil =>
        rw [List.append_nil] at member ⊢
        rw [List.splitOnP_eq_singleton apart, List.mem_singleton] at member
        subst member
        rw [List.splitOnP_eq_singleton whole]
        exact List.mem_singleton_self piece
    | cons c rest ih =>
        cases cut : sep c with
        | true =>
            rw [List.splitOnP_append_cons_of_forall_mem apart c cut] at member
            rw [List.splitOnP_append_cons front rest (more c cut), List.mem_append]
            rcases List.mem_cons.1 member with rfl | later
            · rw [List.splitOnP_eq_singleton whole]
              exact .inl (List.mem_singleton_self piece)
            · exact .inr (ih [] (by simp) later)
        | false =>
            have longer : ∀ d ∈ front ++ [c], sep d = false := by
              intro d inside
              rcases List.mem_append.1 inside with old | last
              · exact apart d old
              · rw [List.mem_singleton.1 last, cut]
            have next := ih (front ++ [c]) longer
            rw [List.append_assoc, List.singleton_append] at next
            exact next member
  exact behind [] cs (by simp) member

/-! ## Texts -/

variable {s : String} {texts : List String}

theorem length_pieces (c : Char) (s : String) : (pieces c s).length = s.toList.count c + 1 := by
  rw [pieces, List.length_map, length_splitOn]
  rfl

theorem pieces_of_notMem (whole : c ∉ s.toList) : pieces c s = [s] := by
  have apart : ∀ d ∈ s.toList, (d == c) = false := fun d inside => by
    simpa using fun same : d = c => whole (same ▸ inside)
  rw [pieces, splitOn_eq_splitOnP, List.splitOnP_eq_singleton apart, List.map_singleton,
    String.ofList_toList]

theorem pieces_append (c : Char) (s other : String) :
    pieces c (s ++ (String.singleton c ++ other)) = pieces c s ++ pieces c other := by
  simp only [pieces, String.toList_append, String.toList_singleton, List.singleton_append]
  rw [@splitOn_append_cons (· == c) c _ _ (beq_self_eq_true c), List.map_append]

/-- The pieces of texts that are put together around a separator are those of each text. -/
theorem pieces_intercalate (c : Char) (filled : texts ≠ []) :
    pieces c (String.intercalate (String.singleton c) texts) = texts.flatMap (pieces c) := by
  induction texts with
  | nil => exact absurd rfl filled
  | cons first rest ih =>
      cases rest with
      | nil => rw [String.intercalate_singleton, List.flatMap_singleton]
      | cons second others =>
          rw [List.flatMap_cons, ← ih (List.cons_ne_nil _ _), String.intercalate_cons_cons,
            String.append_assoc, pieces_append]

/-- What stands between texts adds no occurrence of a character that it does not hold. -/
theorem count_intercalate {between : String} (apart : c ∉ between.toList) :
    (String.intercalate between texts).toList.count c = (texts.map fun t => t.toList.count c).sum := by
  induction texts with
  | nil => rfl
  | cons first rest ih =>
      cases rest with
      | nil => simp
      | cons second others =>
          rw [String.intercalate_cons_cons, List.map_cons, List.sum_cons, ← ih]
          simp [List.count_append, List.count_eq_zero_of_not_mem apart]

end CookbookRules.Text
