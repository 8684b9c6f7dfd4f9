import CookbookRules.Proofs.Text.Pieces
import CookbookRules.Proofs.Text.Trim
import CookbookRules.Rule.Selection

/-!
# Tags as tag expressions

When a rule can be selected by one of its tags. A tag is any text, while an expression is cut at commas,
trimmed and read for a tilde, so that not every tag is an expression that means it.
-/

namespace CookbookRules.Rule

open Text

/-- A tag selects a rule, and a tilde in front of it leaves the rule out. -/
structure AnswersTo (rule : Rule) (tag : String) : Prop where
  selected : select [tag] [rule] = [rule]
  excluded : select ["~" ++ tag] [rule] = []

/-- A tag that an expression leaves whole: it is not cut at a comma, and no blank behind it is lost. -/
structure IsWhole (tag : String) : Prop where
  noComma : ',' ∉ tag.toList
  noBlankBehind : ∀ c, tag.toList.getLast? = some c → isBlank c = false

/-- A tag that an expression means: nor is a blank in front of it lost or a tilde in front of it read as a
negation. A tilde alone denies the empty tag, so that one does no harm. -/
structure IsSelectable (tag : String) : Prop extends IsWhole tag where
  begins : (∀ c, tag.toList.head? = some c → isBlank c = false ∧ c ≠ '~') ∨
    tag.toList.dropWhile isBlank = ['~']

variable {rule : Rule} {tag text : String} {first : List Char} {rest : List (List Char)}

theorem select_eq_self_iff :
    select [text] [rule] = [rule] ↔ rule.satisfies (.ofString text) = true := by
  simp [select, matchesTags]

theorem select_eq_nil_iff :
    select [text] [rule] = [] ↔ rule.satisfies (.ofString text) = false := by
  simp [select, matchesTags]

/-! ## Tags that are whole -/

theorem IsWhole.splitOn_eq (h : IsWhole tag) : splitOn (· == ',') tag.toList = [tag.toList] := by
  rw [splitOn_eq_splitOnP, List.splitOnP_eq_singleton]
  intro c member
  rw [beq_eq_false_iff_ne]
  rintro rfl
  exact h.noComma member

/-- The first term of a text behind a tilde is what must be absent: the first piece of the text without
the blanks behind it. -/
theorem ofString_tilde (cut : splitOn (· == ',') tag.toList = first :: rest) :
    TagExpression.ofString ("~" ++ tag) = .lacks (String.ofList (first.rdropWhile isBlank)) ::
      (((rest.map String.ofList).map trim).filter (· != "")).map .ofString := by
  have tilde : ("~" ++ tag).toList = '~' :: tag.toList := by rw [String.toList_append]; rfl
  have apart : splitOn (· == ',') ("~" ++ tag).toList = ('~' :: first) :: rest := by
    rw [tilde, splitOn, cut]
    rfl
  have term : trim (String.ofList ('~' :: first)) =
      String.ofList ('~' :: first.rdropWhile isBlank) := by
    rw [trim, String.toList_ofList, trimList_tilde]
  rw [TagExpression.ofString, pieces, apart, List.map_cons, List.map_cons, term,
    List.filter_cons_of_pos (by simp), List.map_cons]
  simp [TagTerm.ofString]

/-- If the first piece without the blanks behind it is the tag, the tag is whole. -/
theorem isWhole_of_first (cut : splitOn (· == ',') tag.toList = first :: rest)
    (same : String.ofList (first.rdropWhile isBlank) = tag) : IsWhole tag := by
  have chars : first.rdropWhile isBlank = tag.toList := by rw [← same, String.toList_ofList]
  constructor
  · intro member
    rw [← chars] at member
    have inside := (List.rdropWhile_prefix isBlank (l := first)).subset member
    have apart := sep_eq_false_of_mem_splitOn (cut ▸ List.mem_cons_self) inside
    cases apart
  · rw [← rdropWhile_isBlank_eq_self_iff, ← chars]
    exact List.rdropWhile_idempotent _ _

/-- A whole tag behind a tilde leaves out the rules that have it. -/
theorem IsWhole.excluded (h : IsWhole tag) (member : tag ∈ rule.effectiveTags) :
    select ["~" ++ tag] [rule] = [] := by
  rw [select_eq_nil_iff, ofString_tilde h.splitOn_eq, rdropWhile_isBlank_eq_self_iff.2 h.noBlankBehind]
  simp [satisfies, meets, member]

/-- Any other tag behind a tilde does not leave out a rule that has no further tag. -/
theorem excluded_ne_nil (h : ¬ IsWhole tag) (only : ∀ other ∈ rule.effectiveTags, other = tag) :
    select ["~" ++ tag] [rule] ≠ [] := by
  rw [Ne, select_eq_nil_iff, Bool.not_eq_false]
  cases cut : splitOn (· == ',') tag.toList with
  | nil => exact absurd cut (splitOn_ne_nil _ _)
  | cons first rest =>
      have absent : String.ofList (first.rdropWhile isBlank) ∉ rule.effectiveTags :=
        fun member => h (isWhole_of_first cut (only _ member))
      rw [ofString_tilde cut]
      simp [satisfies, meets, absent]

/-- A whole tag is one term, trimmed in front. -/
theorem IsWhole.ofString_eq (h : IsWhole tag) (filled : trim tag ≠ "") :
    TagExpression.ofString tag = [.ofString (String.ofList (tag.toList.dropWhile isBlank))] := by
  have trimmed : trim tag = String.ofList (tag.toList.dropWhile isBlank) := by
    rw [trim, trimList_of_rdropWhile (rdropWhile_isBlank_eq_self_iff.2 h.noBlankBehind)]
  rw [trimmed] at filled
  simp [TagExpression.ofString, pieces, h.splitOn_eq, trimmed, filled]

/-- A text that begins with no tilde must be there. -/
theorem ofString_of_head (h : ∀ c, text.toList.head? = some c → c ≠ '~') :
    TagTerm.ofString text = .has text := by
  unfold TagTerm.ofString
  split
  · next rest chars => exact absurd rfl (h '~' (by rw [chars]; rfl))
  · rfl

/-! ## Tags that select -/

/-- A rule answers to each of its tags that is selectable. -/
theorem IsSelectable.answersTo (h : IsSelectable tag) (filled : trim tag ≠ "")
    (member : tag ∈ rule.effectiveTags) (named : "" ∉ rule.effectiveTags) : rule.AnswersTo tag := by
  refine ⟨?_, h.excluded member⟩
  rw [select_eq_self_iff, h.ofString_eq filled]
  rcases h.begins with plain | tilde
  · have kept : tag.toList.dropWhile isBlank = tag.toList := by
      cases chars : tag.toList with
      | nil => rfl
      | cons c cs =>
          rw [chars] at plain
          exact List.dropWhile_cons_of_neg (by simp [(plain c rfl).1])
    have term : TagTerm.ofString (String.ofList (tag.toList.dropWhile isBlank)) = .has tag := by
      rw [kept, String.ofList_toList, ofString_of_head fun c h => (plain c h).2]
    rw [term]
    simp [satisfies, meets, member]
  · rw [tilde]
    simp [TagTerm.ofString, satisfies, meets, named]

theorem IsWhole.isSelectable (h : IsWhole tag)
    (kept : tag.toList.dropWhile isBlank = tag.toList) (noTilde : tag.toList.head? ≠ some '~') :
    IsSelectable tag := by
  refine ⟨h, .inl fun c head => ⟨?_, ?_⟩⟩
  · have stopped := List.head?_dropWhile_not isBlank tag.toList
    rw [kept, head] at stopped
    simpa using stopped
  · rintro rfl
    exact noTilde head

/-- What stands behind a tilde in a whole tag is not blank, unless nothing does. -/
theorem IsWhole.trim_ne_empty (h : IsWhole tag) {cs : List Char}
    (front : tag.toList.dropWhile isBlank = '~' :: cs) (more : cs ≠ []) :
    trim (String.ofList cs) ≠ "" := by
  intro blank
  rw [trim, String.toList_ofList, String.ofList_eq_empty_iff, trimList_eq_nil_iff] at blank
  have suffix : cs <:+ tag.toList :=
    (List.suffix_cons '~' cs).trans (front ▸ List.dropWhile_suffix isBlank)
  have last := h.noBlankBehind _ (List.getLast?_eq_some_getLast (suffix.ne_nil more))
  rw [← suffix.getLast more, blank _ (List.getLast_mem more)] at last
  cases last

/-- A tag with a tilde in front does not select a rule that has what stands behind the tilde. -/
theorem IsWhole.selected_ne_self (h : IsWhole tag) (filled : trim tag ≠ "") {cs : List Char}
    (front : tag.toList.dropWhile isBlank = '~' :: cs)
    (member : String.ofList cs ∈ rule.effectiveTags) : select [tag] [rule] ≠ [rule] := by
  rw [Ne, select_eq_self_iff, h.ofString_eq filled, front]
  simp [TagTerm.ofString, satisfies, meets, member]

/-- A tag that is trimmed does not select a rule that has no further tag. -/
theorem IsWhole.selected_ne_self_of_trimmed (h : IsWhole tag) (filled : trim tag ≠ "")
    (trimmed : String.ofList (tag.toList.dropWhile isBlank) ≠ tag)
    (noTilde : (tag.toList.dropWhile isBlank).head? ≠ some '~')
    (only : ∀ other ∈ rule.effectiveTags, other = tag) : select [tag] [rule] ≠ [rule] := by
  have term : TagTerm.ofString (String.ofList (tag.toList.dropWhile isBlank)) =
      .has (String.ofList (tag.toList.dropWhile isBlank)) := by
    apply ofString_of_head
    rintro c head rfl
    rw [String.toList_ofList] at head
    exact noTilde head
  have absent : String.ofList (tag.toList.dropWhile isBlank) ∉ rule.effectiveTags :=
    fun member => trimmed (only _ member)
  rw [Ne, select_eq_self_iff, h.ofString_eq filled, term]
  simp [satisfies, meets, absent]

/-- To a tag that is not selectable a rule with some further tags does not answer. -/
theorem exists_not_answersTo (h : ¬ IsSelectable tag) (filled : trim tag ≠ "") :
    ∃ others : List String, (∀ other ∈ others, trim other ≠ "") ∧
      ∀ rule : Rule, (∀ t, t ∈ rule.effectiveTags ↔ t = tag ∨ t ∈ others) →
        ¬ rule.AnswersTo tag := by
  by_cases whole : IsWhole tag
  · by_cases tilde : ∃ cs, tag.toList.dropWhile isBlank = '~' :: cs
    · obtain ⟨cs, front⟩ := tilde
      have more : cs ≠ [] := by
        rintro rfl
        exact h ⟨whole, .inr front⟩
      refine ⟨[String.ofList cs], ?_, fun rule tags answers => ?_⟩
      · simpa using whole.trim_ne_empty front more
      · have member : String.ofList cs ∈ rule.effectiveTags := (tags _).2 (.inr (by simp))
        exact whole.selected_ne_self filled front member answers.selected
    · refine ⟨[], by simp, fun rule tags answers => ?_⟩
      have noTilde : (tag.toList.dropWhile isBlank).head? ≠ some '~' := by
        intro head
        obtain ⟨cs, front⟩ := List.head?_eq_some_iff.1 head
        exact tilde ⟨cs, front⟩
      refine whole.selected_ne_self_of_trimmed filled (fun same => ?_) noTilde ?_ answers.selected
      · have kept : tag.toList.dropWhile isBlank = tag.toList := by
          rw [← String.toList_ofList (l := tag.toList.dropWhile isBlank), same]
        exact h (whole.isSelectable kept (kept ▸ noTilde))
      · intro other member
        simpa using (tags other).1 member
  · refine ⟨[], by simp, fun rule tags answers => excluded_ne_nil whole ?_ answers.excluded⟩
    intro other member
    simpa using (tags other).1 member

end CookbookRules.Rule
