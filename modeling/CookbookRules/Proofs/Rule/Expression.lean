import CookbookRules.Proofs.Text.Pieces
import CookbookRules.Proofs.Text.Trim
import CookbookRules.Rule.Selection

/-!
# Tag expressions as conditions

What a list of tag expressions asks of a rule, told by the texts of their terms: of every expression that has
a term, one of the terms. Selection therefore does not depend on how the expressions are put together, nor on
how the terms of each are.
-/

namespace CookbookRules

open Text

/-! ## Terms -/

/-- A term of an expression: what stands between two of its commas, without the blanks around it, unless
nothing else stands there. -/
structure IsTerm (term expression : String) : Prop where
  filled : term ≠ ""
  trimmed : ∃ piece ∈ pieces ',' expression, trim piece = term

/-- Two rows of texts with the same terms, whatever their order, their repetitions, the blanks around them
and the blank texts among them. -/
def SameTerms (row row' : List String) : Prop :=
  ∀ term, term ≠ "" → (term ∈ row.map trim ↔ term ∈ row'.map trim)

variable {term expression other : String} {row row' : List String}

theorem pieces_comma (expression other : String) :
    pieces ',' (expression ++ "," ++ other) = pieces ',' expression ++ pieces ',' other := by
  rw [String.append_assoc]
  exact pieces_append ',' expression other

/-- The terms of two expressions with a comma between them are those of both. -/
theorem isTerm_comma_iff :
    IsTerm term (expression ++ "," ++ other) ↔ IsTerm term expression ∨ IsTerm term other := by
  constructor
  · rintro ⟨filled, piece, member, trimmed⟩
    rw [pieces_comma, List.mem_append] at member
    rcases member with first | second
    · exact .inl ⟨filled, piece, first, trimmed⟩
    · exact .inr ⟨filled, piece, second, trimmed⟩
  · rintro (⟨filled, piece, member, trimmed⟩ | ⟨filled, piece, member, trimmed⟩)
    · exact ⟨filled, piece, pieces_comma _ _ ▸ List.mem_append_left _ member, trimmed⟩
    · exact ⟨filled, piece, pieces_comma _ _ ▸ List.mem_append_right _ member, trimmed⟩

theorem isTerm_intercalate_iff (whole : ∀ text ∈ row, ',' ∉ text.toList) :
    IsTerm term (",".intercalate row) ↔ term ≠ "" ∧ term ∈ row.map trim := by
  by_cases filled : row = []
  · subst filled
    refine iff_of_false ?_ (by simp)
    rintro ⟨filled, piece, member, rfl⟩
    cases List.mem_singleton.1 member
    exact filled rfl
  · have cut : pieces ',' (",".intercalate row) = row := calc
      _ = row.flatMap (pieces ',') := pieces_intercalate ',' filled
      _ = row.flatMap fun text => [text] := List.flatMap_congr fun text member =>
        pieces_of_notMem (whole text member)
      _ = row := List.flatMap_singleton' row
    rw [List.mem_map]
    exact ⟨fun h => ⟨h.filled, cut ▸ h.trimmed⟩, fun h => ⟨h.1, cut.symm ▸ h.2⟩⟩

/-- A blank expression has no term. -/
theorem not_isTerm_of_allBlank (blank : allBlank expression = true) : ¬ IsTerm term expression := by
  rintro ⟨filled, piece, member, rfl⟩
  have whole : ',' ∉ expression.toList := by
    intro comma
    cases List.all_eq_true.1 blank ',' comma
  rw [pieces_of_notMem whole, List.mem_singleton] at member
  exact filled (member ▸ allBlank_iff.1 blank)

namespace Rule

variable {rule : Rule} {expressions : List String}

/-! ## What a rule has to meet -/

/-- A term holds for a rule: behind a tilde stands a tag that the rule has not, or without a tilde the term is
a tag that it has. -/
inductive Holds (rule : Rule) : String → Prop
  | lacks {tag : String} (absent : tag ∉ rule.effectiveTags) : Holds rule ("~" ++ tag)
  | has {tag : String} (plain : ∀ denied, tag ≠ "~" ++ denied) (member : tag ∈ rule.effectiveTags) :
      Holds rule tag

/-- A rule heeds an expression: if the expression has a term, one of its terms holds. -/
def Heeds (rule : Rule) (expression : String) : Prop :=
  (∃ term, IsTerm term expression) → ∃ term, IsTerm term expression ∧ rule.Holds term

theorem ofString_denial (tag : String) : TagTerm.ofString ("~" ++ tag) = .lacks tag := by
  simp [TagTerm.ofString]

theorem ofString_plain (plain : ∀ denied, term ≠ "~" ++ denied) : TagTerm.ofString term = .has term := by
  unfold TagTerm.ofString
  split
  · next rest letters =>
    refine absurd (String.toList_inj.1 ?_) (plain (String.ofList rest))
    simp [letters]
  · rfl

theorem meets_iff : rule.meets (.ofString term) = true ↔ rule.Holds term := by
  by_cases denial : ∃ tag, term = "~" ++ tag
  · obtain ⟨tag, rfl⟩ := denial
    rw [ofString_denial, meets, decide_eq_true_iff]
    refine ⟨.lacks, fun holds => ?_⟩
    generalize same : "~" ++ tag = term at holds
    cases holds with
    | lacks absent => rwa [(String.append_right_inj "~").1 same]
    | has plain _ => exact absurd same.symm (plain tag)
  · have plain : ∀ denied, term ≠ "~" ++ denied := fun denied same => denial ⟨denied, same⟩
    rw [ofString_plain plain, meets, decide_eq_true_iff]
    refine ⟨.has plain, fun holds => ?_⟩
    cases holds with
    | lacks _ => exact absurd rfl (plain _)
    | has _ member => exact member

theorem mem_ofString {t : TagTerm} :
    t ∈ TagExpression.ofString expression ↔ ∃ term, IsTerm term expression ∧ .ofString term = t := by
  simp only [TagExpression.ofString, List.mem_map, List.mem_filter, bne_iff_ne]
  constructor
  · rintro ⟨term, ⟨⟨piece, member, trimmed⟩, filled⟩, read⟩
    exact ⟨term, ⟨filled, piece, member, trimmed⟩, read⟩
  · rintro ⟨term, ⟨filled, piece, member, trimmed⟩, read⟩
    exact ⟨term, ⟨⟨piece, member, trimmed⟩, filled⟩, read⟩

theorem satisfies_iff : rule.satisfies (.ofString expression) = true ↔ rule.Heeds expression := by
  rw [satisfies, Bool.or_eq_true, List.any_eq_true, List.isEmpty_iff]
  constructor
  · rintro (idle | ⟨t, member, met⟩) ⟨term, isTerm⟩
    · have member := mem_ofString.2 ⟨term, isTerm, rfl⟩
      rw [idle] at member
      cases member
    · obtain ⟨met', isTerm', rfl⟩ := mem_ofString.1 member
      exact ⟨_, isTerm', meets_iff.1 met⟩
  · intro heeds
    by_cases some : ∃ term, IsTerm term expression
    · obtain ⟨term, isTerm, holds⟩ := heeds some
      exact .inr ⟨_, mem_ofString.2 ⟨term, isTerm, rfl⟩, meets_iff.2 holds⟩
    · refine .inl (List.eq_nil_iff_forall_not_mem.2 fun t member => ?_)
      obtain ⟨term, isTerm, -⟩ := mem_ofString.1 member
      exact some ⟨term, isTerm⟩

instance (rule : Rule) : DecidablePred rule.Heeds :=
  fun _ => decidable_of_iff _ satisfies_iff

theorem matchesTags_iff :
    matchesTags expressions rule = true ↔ ∀ expression ∈ expressions, rule.Heeds expression := by
  simp only [matchesTags, List.all_eq_true, satisfies_iff]

/-! ## Selection -/

theorem select_congr {expressions' : List String} {rules : List Rule}
    (same : ∀ rule : Rule, (∀ expression ∈ expressions, rule.Heeds expression) ↔
      ∀ expression ∈ expressions', rule.Heeds expression) :
    select expressions rules = select expressions' rules := by
  refine List.filter_congr fun rule _ => ?_
  rw [Bool.eq_iff_iff, matchesTags_iff, matchesTags_iff, same]

/-- A blank expression asks for nothing. -/
theorem heeds_of_allBlank (blank : allBlank expression = true) : rule.Heeds expression :=
  fun ⟨_, isTerm⟩ => absurd isTerm (not_isTerm_of_allBlank blank)

/-- Expressions with the same terms ask for the same. -/
theorem heeds_congr (same : ∀ term, IsTerm term expression ↔ IsTerm term other) :
    rule.Heeds expression ↔ rule.Heeds other := by
  simp only [Heeds, same]

/-- Of two expressions that have terms, joined by a comma, one has to be heeded. -/
theorem heeds_comma_iff (first : ∃ term, IsTerm term expression) (second : ∃ term, IsTerm term other) :
    rule.Heeds (expression ++ "," ++ other) ↔ rule.Heeds expression ∨ rule.Heeds other := by
  obtain ⟨term, isTerm⟩ := first
  constructor
  · intro heeds
    obtain ⟨term, either, holds⟩ := heeds ⟨term, isTerm_comma_iff.2 (.inl isTerm)⟩
    rcases isTerm_comma_iff.1 either with own | own
    · exact .inl fun _ => ⟨term, own, holds⟩
    · exact .inr fun _ => ⟨term, own, holds⟩
  · rintro (heeds | heeds) -
    · obtain ⟨term, own, holds⟩ := heeds ⟨term, isTerm⟩
      exact ⟨term, isTerm_comma_iff.2 (.inl own), holds⟩
    · obtain ⟨term, own, holds⟩ := heeds second
      exact ⟨term, isTerm_comma_iff.2 (.inr own), holds⟩

/-- What expressions select from rules: the rules that heed all of them, in order and as often as they are
there. One list of expressions after another selects as both at once. Neither the order of the expressions
counts, nor repetitions, nor blank ones, and of an expression that is put together of terms only the terms
count. Two expressions with terms, joined by a comma, select what either of them does. -/
structure Selects (rules : List Rule) : Prop where
  exact : ∀ expressions : List String, select expressions rules =
    rules.filter fun rule => decide (∀ expression ∈ expressions, rule.Heeds expression)
  stepwise : ∀ expressions more : List String,
    select more (select expressions rules) = select (expressions ++ more) rules
  rearranged : ∀ expressions expressions' : List String,
    (∀ expression, allBlank expression = false →
      (expression ∈ expressions ↔ expression ∈ expressions')) →
    select expressions rules = select expressions' rules
  reworded : ∀ (before after row row' : List String), (∀ text ∈ row ++ row', ',' ∉ text.toList) →
    SameTerms row row' → select (before ++ ",".intercalate row :: after) rules =
      select (before ++ ",".intercalate row' :: after) rules
  joined : ∀ expression other : String, (∃ term, IsTerm term expression) → (∃ term, IsTerm term other) →
    select [expression ++ "," ++ other] rules =
      rules.filter fun rule => decide (rule.Heeds expression ∨ rule.Heeds other)

/-- Selection is a conjunction over the expressions of disjunctions over their terms. -/
theorem selects_rules (rules : List Rule) : Selects rules := by
  constructor
  · intro expressions
    refine List.filter_congr fun rule _ => ?_
    rw [Bool.eq_iff_iff, matchesTags_iff, decide_eq_true_iff]
  · intro expressions more
    simp only [select, List.filter_filter]
    refine List.filter_congr fun rule _ => ?_
    rw [matchesTags, matchesTags, matchesTags, List.all_append, Bool.and_comm]
  · intro expressions expressions' same
    refine select_congr fun rule => forall_congr' fun expression => ?_
    cases blank : allBlank expression with
    | true => simp only [heeds_of_allBlank blank, implies_true]
    | false => rw [same expression blank]
  · intro before after row row' whole same
    rw [List.forall_mem_append] at whole
    refine select_congr fun rule => ?_
    have terms : rule.Heeds (",".intercalate row) ↔ rule.Heeds (",".intercalate row') := by
      refine heeds_congr fun term => ?_
      rw [isTerm_intercalate_iff whole.1, isTerm_intercalate_iff whole.2]
      exact and_congr_right (same term)
    simp only [List.forall_mem_append, List.forall_mem_cons, terms]
  · intro expression other first second
    refine List.filter_congr fun rule _ => ?_
    rw [Bool.eq_iff_iff, matchesTags_iff, List.forall_mem_singleton, decide_eq_true_iff,
      heeds_comma_iff first second]

end Rule

end CookbookRules
