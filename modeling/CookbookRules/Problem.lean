import CookbookRules.RuleFile.LoadError

/-!
# Problems

What validation reports: a stable code, the place, what is wrong, and where it helps the rule concerned
and a hint. A report lists problems by code, then path, line and field.
-/

namespace CookbookRules

/-- A problem of a rule file. -/
structure Problem where
  code : String
  path : String
  message : String
  line : Option Int
  field : String
  ruleCode : String
  hint : String
  deriving DecidableEq, Repr

namespace Problem

/-- The problem that a load error is. -/
def ofLoadError (e : RuleFile.LoadError) : Problem :=
  ⟨e.cause.code, e.path, e.cause.message, e.cause.line, e.cause.field, "", ""⟩

/-- Where a problem is. -/
def location (p : Problem) : String := RuleFile.locationOf p.path p.line

/-- A problem as a line of a report. -/
def format (p : Problem) : String :=
  let rule := if p.ruleCode.isEmpty then [] else [p.ruleCode]
  let hint := if p.hint.isEmpty then [] else [s!"({p.hint})"]
  String.intercalate " " ([s!"[{p.code}]", p.location] ++ rule ++ [p.message] ++ hint)

/-- Whether one of two problems may stand before the other in a report. -/
def mayPrecede (p q : Problem) : Bool :=
  if p.code ≠ q.code then p.code < q.code
  else if p.path ≠ q.path then p.path < q.path
  else if p.line.getD 0 ≠ q.line.getD 0 then p.line.getD 0 < q.line.getD 0
  else p.field ≤ q.field

/-- Problems in the order of a report; those that are equal in it keep their order. -/
def sort (problems : List Problem) : List Problem := problems.mergeSort mayPrecede

/-- The report of problems. -/
def report (problems : List Problem) : String :=
  String.intercalate "\n" ((sort problems).map format)

end Problem

end CookbookRules
