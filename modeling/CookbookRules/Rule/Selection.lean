import CookbookRules.Rule.Basic

/-!
# Selecting rules by tags

A tag expression is a list of terms between commas; it holds for a rule if one of its terms does. A term
is a tag that the rule must have, or a tilde and a tag that it must not have, and a rule's code counts
among its tags. A rule is selected if every expression that has a term holds for it.
-/

namespace CookbookRules

/-- A term of a tag expression. -/
inductive TagTerm
  | has (tag : String)
  | lacks (tag : String)
  deriving DecidableEq, Repr

namespace TagTerm

/-- The term that a text without blanks around it stands for. -/
def ofString (s : String) : TagTerm :=
  match s.toList with
  | '~' :: rest => lacks (String.ofList rest)
  | _ => has s

/-- The text of a term. -/
def toString : TagTerm → String
  | has tag => tag
  | lacks tag => "~" ++ tag

end TagTerm

/-- Terms of which one has to hold. -/
abbrev TagExpression := List TagTerm

/-- The terms of a text between commas; blank ones are left out. -/
def TagExpression.ofString (s : String) : TagExpression :=
  (((Text.pieces ',' s).map Text.trim).filter (· != "")).map TagTerm.ofString

namespace Rule

/-- The tags that a rule can be selected by: its own and its code. -/
def effectiveTags (rule : Rule) : TextSet := rule.tags.insert rule.code

/-- Whether a term holds for a rule. -/
def meets (rule : Rule) : TagTerm → Bool
  | .has tag => tag ∈ rule.effectiveTags
  | .lacks tag => tag ∉ rule.effectiveTags

/-- Whether an expression holds for a rule; one without terms always does. -/
def satisfies (rule : Rule) (expression : TagExpression) : Bool :=
  expression.isEmpty || expression.any rule.meets

/-- Whether all expressions hold for a rule. -/
def matchesTags (expressions : List String) (rule : Rule) : Bool :=
  expressions.all fun text => rule.satisfies (TagExpression.ofString text)

/-- The rules that all expressions hold for, in their order. -/
def select (expressions : List String) (rules : List Rule) : List Rule :=
  rules.filter (matchesTags expressions)

end Rule

end CookbookRules
