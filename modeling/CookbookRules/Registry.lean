import CookbookRules.Note
import CookbookRules.Rule.Selection

/-!
# The registry

Rules are declared on a registry. A declaration begins by making its rule the current one; the rule is
listed only when the declaration is completed, before the rules that were declared inside it, and an
abandoned declaration gives the cursor back. Every rule whose declaration has begun stays reachable by
its number, listed or not, so later changes reach exactly the rule that they name.
-/

namespace CookbookRules

/-- The number of a rule: how many declarations had begun before its own. -/
abbrev RuleId := Nat

/-- The rules whose declarations have begun, the listed ones in order, and the current one. -/
structure Registry where
  started : List Rule
  listed : List RuleId
  current : Option RuleId
  notes : List Note

/-- A declaration that is in progress: its rule, how many rules were listed when it began, and the rule
that was current before. -/
structure Declaration where
  id : RuleId
  position : Nat
  previous : Option RuleId
  deriving DecidableEq, Repr

namespace Registry

/-- A registry without rules. -/
def empty : Registry := ⟨[], [], none, []⟩

/-- The rule of a number. -/
def rule? (r : Registry) (id : RuleId) : Option Rule := r.started[id]?

/-- The listed rules in their order. -/
def rules (r : Registry) : List Rule := r.listed.filterMap r.rule?

/-- The codes of the listed rules. -/
def codes (r : Registry) : List String := r.rules.map (·.code)

/-- The current rule. -/
def currentRule? (r : Registry) : Option Rule := r.current.bind r.rule?

/-- Takes a note. -/
def note (n : Note) (r : Registry) : Registry := { r with notes := r.notes ++ [n] }

/-! ## Declarations -/

/-- Begins the declaration of a rule. -/
def begin (rule : Rule) (r : Registry) : Declaration × Registry :=
  let id := r.started.length
  (⟨id, r.listed.length, r.current⟩, { r with started := r.started ++ [rule], current := some id })

/-- Completes a declaration: its rule is listed where the list ended when it began. -/
def complete (d : Declaration) (r : Registry) : Registry :=
  let listed := { r with listed := r.listed.insertIdx d.position d.id }
  match r.rule? d.id with
  | some rule => listed.note (.declared rule.label.shown rule.title.shown)
  | none => listed

/-- Abandons a declaration: the rule that was current before is current again. -/
def abandon (d : Declaration) (r : Registry) : Registry :=
  { r with current := d.previous }

/-- Declares a rule that is given whole. -/
def declare (rule : Rule) (r : Registry) : RuleId × Registry :=
  let (d, begun) := r.begin rule
  (d.id, begun.complete d)

/-! ## Changes to one rule -/

/-- Changes the rule of a number, unless the change fails. -/
def modify (id : RuleId) (change : Rule → Except Rule.Fault Rule) (r : Registry) :
    Except Rule.Fault Registry :=
  match r.rule? id with
  | some rule => do pure { r with started := r.started.set id (← change rule) }
  | none => .ok r

/-- Changes the current rule; there has to be one. -/
def modifyCurrent (change : Rule → Except Rule.Fault Rule) (r : Registry) :
    Except Rule.Fault Registry :=
  match r.current with
  | some id => r.modify id change
  | none => .error .noCurrentRule

/-! ## Questions -/

/-- The first listed rule with a code, and its place in the list. -/
def find? (code : String) (r : Registry) : Option (Nat × Rule) :=
  (r.rules.zipIdx.find? fun (rule, _) => rule.code == code).map fun (rule, index) => (index, rule)

/-- A list without its repetitions, each item where it comes first. -/
def firsts (items : List String) : List String :=
  items.foldl (fun kept item => if kept.contains item then kept else kept ++ [item]) []

/-- The codes that more than one of some rules has, in the order in which they come first. -/
def repeatedCodes (rules : List Rule) : List String :=
  let codes := rules.map (·.code)
  (firsts codes).filter fun code => 1 < codes.count code

/-- The codes that more than one listed rule has. -/
def duplicateCodes (r : Registry) : List String := repeatedCodes r.rules

/-- Where a rule was declared. -/
def sourceOf (rule : Rule) : String :=
  match rule.source with
  | some source => if source.isEmpty then "<declared in code>" else source
  | none => "<declared in code>"

/-- The sources of the rules with a code, each once and in ascending order. -/
def sourcesOf (code : String) (rules : List Rule) : List String :=
  (TextSet.ofList ((rules.filter (·.code == code)).map sourceOf)).toList

/-- A code as the first of the rules that have it shows it. -/
def shownCode (code : String) (rules : List Rule) : String :=
  ((rules.find? (·.code == code)).map (·.label.shown)).getD code

/-- One warning for each code that is declared more than once. -/
def duplicateNotes (r : Registry) : List Note :=
  r.duplicateCodes.map fun code => .repeatedCode (shownCode code r.rules) (sourcesOf code r.rules)

end Registry

end CookbookRules
