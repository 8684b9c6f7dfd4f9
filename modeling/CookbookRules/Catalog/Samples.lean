import CookbookRules.Catalog

/-!
# Sample modules

Small modules to try rule files with: functions that find something, find nothing, fail or return what
no finding is made of, a package with a module inside, and two modules that cannot be imported.
-/

namespace CookbookRules.Catalog

open CookbookRules (Value)

/-- A mapping with text keys. -/
def record (entries : List (String × Value)) : Value :=
  .map .plain (entries.map fun (name, value) => (.text name, value))

/-- A function without options. -/
def simple (name parameter : String) (body : Value → Except CallFault Value) :
    String × Except Escape Entity :=
  (name, .ok (.function ⟨name, parameter, [], none, false, fun artifact _ => body artifact⟩))

/-- A mapping with the line of each symbol that a recipe lists. -/
def symbolAccess (recipe : Value) : Except CallFault Value :=
  match recipe with
  | .map .. =>
    let lines := (recipe.get? "symbol_lines").getD (.list [])
    match lines.items? with
    | some items => .ok (.list (items.map fun line => record [("line", line)]))
    | none => .error (.notIterable lines.longTypeName)
  | other => .error (.noAttribute other.longTypeName "get")

/-- The artifact under a severity, which is a warning unless the options say otherwise. -/
def flagged : Entity :=
  .function ⟨"flagged", "artifact", ["severity"], none, false, fun artifact options =>
    let severity := (options.get? "severity").getD (.text "warning")
    .ok (record [("severity", severity), ("artifact", artifact)])⟩

/-- The artifact and all options. -/
def opts : Entity :=
  .function ⟨"opts", "artifact", [], none, true, fun artifact options =>
    let given := options.map fun (name, value) => (name.value, value)
    .ok (record [("artifact", artifact), ("options", .map .plain given)])⟩

/-- The level, which has to be given. -/
def strict : Entity :=
  .function ⟨"strict", "artifact", [], some "level", false, fun _ options =>
    .ok (record [("level", (options.get? "level").getD .none)])⟩

/-- The function of a group, which is named with the group. -/
def inner : Entity :=
  .function ⟨"group.inner", "artifact", [], none, false, fun _ _ =>
    .ok (record [("from", .text "group.inner")])⟩

/-- The functions of the sample module. -/
def sampleMembers : Members :=
  [simple "symbol_access" "recipe" symbolAccess,
    ("flagged", .ok flagged),
    simple "never" "artifact" fun _ => .ok .none,
    simple "no" "artifact" fun _ => .ok (.bool false),
    simple "always" "artifact" fun _ => .ok (.bool true),
    simple "echo" "artifact" .ok,
    simple "pair" "artifact" fun _ => .ok (.tuple [record [("n", .int 1)], record [("n", .int 2)]]),
    simple "count" "artifact" fun _ => .ok (.int 42),
    simple "lines" "artifact" fun _ => .ok (.list [.text "line 3"]),
    ("opts", .ok opts),
    ("strict", .ok strict),
    simple "boom" "artifact" fun _ => .error (.raised "boom in matcher"),
    ("group", .ok (.group "group" [("inner", .ok inner), ("VALUE", .ok .constant)])),
    ("NOT_CALLABLE", .ok .constant),
    ("NOTHING", .ok .constant)]

/-- The function of the module inside the sample package. -/
def checkMembers : Members :=
  [simple "check" "artifact" fun _ => .ok (record [("from", .text "sample_pkg.sub")])]

/-- The sample modules. -/
def samples : Catalog :=
  ⟨[("sample_matchers", .plain sampleMembers),
    ("sample_pkg", .package [("sub", .ok (.container checkMembers))]),
    ("sample_pkg.sub", .plain checkMembers),
    ("sample_broken", .broken (.fault (.raised ⟨"RuntimeError", "boom at import"⟩))),
    ("sample_needs_missing", .broken (.fault (.unimportable "No module named 'cookcritic_absent_dependency'")))]⟩

end CookbookRules.Catalog
