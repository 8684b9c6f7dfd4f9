import CookbookRules.Proofs.Text.Pieces
import CookbookRules.Rule.Listing
import Mathlib.Algebra.BigOperators.Group.List.Basic
import Mathlib.Algebra.GroupWithZero.Nat
import Mathlib.Data.List.Forall2

/-!
# Lines of a listing

A listing is meant to have one line for each rule, with the names below each other, then an empty line and the
count. Codes, names and tags stand in it as they are. So each line feed in one of them cuts the line of its
rule, and a listing is aligned exactly if none holds one.
-/

namespace CookbookRules.Listing

variable {rule : Rule} {rules : List Rule} {items : List String} {width other : Nat}

/-! ## What is meant -/

/-- The length of the longest code. -/
def IsCodeWidth (rules : List Rule) (width : Nat) : Prop :=
  (∃ rule ∈ rules, rule.label.length = width) ∧ ∀ rule ∈ rules, rule.label.length ≤ width

/-- A line that starts with the code of a rule, blanks up to a width, two blanks and the name. -/
def IsLineOf (width : Nat) (rule : Rule) (line : String) : Prop :=
  ∃ rest, line = rule.code ++ String.ofList (List.replicate (width - rule.label.length) ' ') ++ "  " ++
    rule.name ++ rest

/-- One line for each rule in order, all of them aligned, then an empty line and the count. -/
def IsAligned (rules : List Rule) (lines : List String) : Prop :=
  ∃ width own, IsCodeWidth rules width ∧ List.Forall₂ (IsLineOf width) rules own ∧
    lines = own ++ ["", s!"{rules.length} rule(s)"]

/-- No text of a rule that is listed holds a line feed. -/
structure IsOnOneLine (rule : Rule) : Prop where
  code : '\n' ∉ rule.code.toList
  name : '\n' ∉ rule.name.toList
  tags : ∀ tag ∈ rule.tags, '\n' ∉ tag.toList

/-- The number of line feeds in the texts of a rule that are listed. -/
def feeds (rule : Rule) : Nat :=
  rule.code.toList.count '\n' + rule.name.toList.count '\n' +
    (rule.tags.toList.map fun tag => tag.toList.count '\n').sum

theorem feeds_eq_zero_iff : feeds rule = 0 ↔ IsOnOneLine rule := by
  simp only [feeds, Nat.add_eq_zero_iff, List.sum_eq_zero_iff_forall_eq_nat, List.forall_mem_map,
    List.count_eq_zero]
  constructor
  · rintro ⟨⟨code, name⟩, tags⟩
    exact ⟨code, name, tags⟩
  · intro h
    exact ⟨⟨h.code, h.name⟩, h.tags⟩

/-! ## What is there -/

theorem isCodeWidth_codeWidth (filled : rules ≠ []) : IsCodeWidth rules (codeWidth rules) := by
  have some : rules.map (·.label.length) ≠ [] := by simpa using filled
  have greatest : codeWidth rules = (rules.map (·.label.length)).max some := by
    rw [codeWidth, List.foldl_max_eq_max some, Nat.zero_max]
  rw [greatest]
  constructor
  · exact List.mem_map.1 (List.max_mem some)
  · intro rule member
    have listed : rule.label.length ∈ rules.map (·.label.length) := List.mem_map.2 ⟨rule, member, rfl⟩
    exact List.le_max_of_mem listed

theorem notMem_count (n : Nat) : '\n' ∉ (s!"{n} rule(s)").toList := by
  intro inside
  have told : (s!"{n} rule(s)").toList = n.repr.toList ++ " rule(s)".toList := by
    simp [toString]
  rw [told, List.mem_append, Nat.toList_repr] at inside
  rcases inside with digit | fixed
  · exact absurd (Nat.isDigit_of_mem_toDigits (by decide) (by decide) digit) (by decide)
  · exact absurd fixed (by decide)

theorem count_commaList :
    (commaList items).toList.count '\n' = (items.map fun item => item.toList.count '\n').sum := by
  have all := @Text.count_intercalate '\n' items ", " (by decide)
  unfold commaList
  dsimp only
  split
  · next nothing =>
    rw [← all, String.isEmpty_iff.1 nothing]
    rfl
  · exact all

/-- What a line shows, where the name shows as it is. -/
theorem line_eq (shows : rule.title.shown = rule.name) (width : Nat) :
    line width rule = rule.code ++ String.ofList (List.replicate (width - rule.label.length) ' ') ++ "  " ++
      rule.name ++ ("  [" ++ commaList rule.tags.toList ++ "]  (" ++
        commaList (rule.kinds.map (·.name)) ++ ")") := by
  simp only [line, padded, shows, Rule.code, toString, String.append_assoc]

/-- The line of a rule holds the line feeds of its code, its name and its tags. -/
theorem count_line (shows : rule.title.shown = rule.name) (width : Nat) :
    (line width rule).toList.count '\n' = feeds rule := by
  have kinds : ((rule.kinds.map (·.name)).map fun name => name.toList.count '\n').sum = 0 := by
    simp only [List.sum_eq_zero_iff_forall_eq_nat, List.forall_mem_map]
    exact fun kind _ => by cases kind <;> decide
  have blanks : ((List.replicate (width - rule.label.length) ' ').count '\n') = 0 :=
    List.count_eq_zero.2 fun inside => by cases (List.mem_replicate.1 inside).2
  have fixed : "  ".toList.count '\n' = 0 ∧ "  [".toList.count '\n' = 0 ∧ "]  (".toList.count '\n' = 0 ∧
      ")".toList.count '\n' = 0 := by decide
  simp only [line_eq shows, String.toList_append, String.toList_ofList, List.count_append, count_commaList,
    kinds, blanks, fixed, feeds]
  omega

/-- The lines of the text are those that the line of each rule is cut into, an empty one, and the count. -/
theorem pieces_text (filled : rules ≠ []) :
    Text.pieces '\n' (text rules) =
      (rules.flatMap fun rule => Text.pieces '\n' (line (codeWidth rules) rule)) ++
        ["", s!"{rules.length} rule(s)"] := by
  have some : rules.isEmpty = false := by simpa using filled
  have between : "\n" = String.singleton '\n' := by decide
  have last := Text.pieces_of_notMem (notMem_count rules.length)
  rw [text, some, if_neg Bool.false_ne_true, between, Text.pieces_intercalate _ (by simp [lines]), lines,
    List.flatMap_append, List.flatMap_map, List.flatMap_cons, List.flatMap_singleton, last]
  rfl

theorem length_pieces_text (filled : rules ≠ [])
    (shows : ∀ rule ∈ rules, rule.title.shown = rule.name) :
    (Text.pieces '\n' (text rules)).length = rules.length + 2 + (rules.map feeds).sum := by
  have each : (rules.map fun rule => (Text.pieces '\n' (line (codeWidth rules) rule)).length) =
      rules.map fun rule => feeds rule + 1 :=
    List.map_congr_left fun rule member => by rw [Text.length_pieces, count_line (shows rule member)]
  rw [pieces_text filled, List.length_append, List.length_flatMap, each, List.sum_map_add]
  simp only [List.map_const', List.sum_replicate_nat, List.length_cons, List.length_nil]
  omega

/-- A listing is aligned exactly if no rule in it has a line feed. -/
theorem isAligned_pieces_text_iff (filled : rules ≠ [])
    (shows : ∀ rule ∈ rules, rule.title.shown = rule.name) :
    IsAligned rules (Text.pieces '\n' (text rules)) ↔ ∀ rule ∈ rules, IsOnOneLine rule := by
  constructor
  · rintro ⟨width, own, -, each, whole⟩ rule member
    have counted := congrArg List.length whole
    rw [length_pieces_text filled shows, List.length_append, ← each.length_eq] at counted
    have none : (rules.map feeds).sum = 0 := by simpa using counted
    rw [List.sum_eq_zero_iff_forall_eq_nat, List.forall_mem_map] at none
    exact feeds_eq_zero_iff.1 (none rule member)
  · intro each
    refine ⟨_, rules.map (line (codeWidth rules)), isCodeWidth_codeWidth filled, ?_, ?_⟩
    · rw [List.forall₂_map_right_iff, List.forall₂_same]
      intro rule member
      exact ⟨_, line_eq (shows rule member) _⟩
    · have whole (rule : Rule) (member : rule ∈ rules) :
          Text.pieces '\n' (line (codeWidth rules) rule) = [line (codeWidth rules) rule] := by
        apply Text.pieces_of_notMem
        rw [← List.count_eq_zero, count_line (shows rule member)]
        exact feeds_eq_zero_iff.2 (each rule member)
      rw [pieces_text filled, List.flatMap_congr whole, List.map_eq_flatMap]

end CookbookRules.Listing
