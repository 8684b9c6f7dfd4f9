/-!
# Artifact kinds

The four kinds of artifact that a rule can look at, in the order in which rules list them.
-/

namespace CookbookRules

/-- What a matcher is run on. -/
inductive Kind
  | recipe
  | resource
  | provider
  | cookbook
  deriving DecidableEq, Repr

namespace Kind

/-- All kinds, in their order. -/
def all : List Kind := [.recipe, .resource, .provider, .cookbook]

/-- The name that rule files and messages use. -/
def name : Kind → String
  | recipe => "recipe"
  | resource => "resource"
  | provider => "provider"
  | cookbook => "cookbook"

/-- The name in capitals. -/
def label : Kind → String
  | recipe => "RECIPE"
  | resource => "RESOURCE"
  | provider => "PROVIDER"
  | cookbook => "COOKBOOK"

/-- The kind of a name. -/
def ofName? (name : String) : Option Kind :=
  all.find? (·.name == name)

theorem mem_all (kind : Kind) : kind ∈ all := by
  cases kind <;> decide

@[simp] theorem ofName?_name (kind : Kind) : ofName? kind.name = some kind := by
  cases kind <;> decide

theorem name_of_ofName? {name : String} {kind : Kind} (h : ofName? name = some kind) :
    kind.name = name := by
  simpa using List.find?_some h

end Kind

end CookbookRules
