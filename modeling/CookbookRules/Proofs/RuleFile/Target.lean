import CookbookRules.Proofs.Outcome
import CookbookRules.RuleFile.Strategy
import Mathlib.Data.List.TakeWhile

/-!
# Targets

A target names a function if it has two parts around its first colon, the first part can be imported,
and the second leads from there to something that can be called. In every other case it fails, or what its
code raises escapes.
-/

namespace CookbookRules.RuleFile

open Outcome

/-- A target is the name of a module and a path inside it, with a colon between them. The name holds no
colon, and both have a character. -/
def IsTarget (target name path : String) : Prop :=
  target.toList = name.toList ++ ':' :: path.toList ∧ ':' ∉ name.toList ∧ name ≠ "" ∧ path ≠ ""

/-- A target leads to a function: the module is imported, and the path inside it ends at something that can
be called. -/
inductive Reaches (catalog : Catalog) (target : String) (function : Callable) : Prop
  | function {name path : String} {found entity : Entity} (parts : IsTarget target name path)
      (imported : catalog.importModule name = .ok found)
      (present : found.follow (Text.pieces '.' path) = .ok (some entity))
      (callable : entity.asCallable? = some function) : Reaches catalog target function

/-- Why a target names no function: it is malformed, its module cannot be imported, the path is missing
in the module, or what is found cannot be called. -/
inductive TargetFails (catalog : Catalog) (target : String) : Prop
  | malformed (none : ∀ name path, ¬ IsTarget target name path)
  | notImportable {name path : String} {fault : ImportFault} (parts : IsTarget target name path)
      (imported : catalog.importModule name = .error (.fault fault))
  | missing {name path : String} {found : Entity} (parts : IsTarget target name path)
      (imported : catalog.importModule name = .ok found)
      (absent : found.follow (Text.pieces '.' path) = .ok none)
  | notCallable {name path : String} {found entity : Entity} (parts : IsTarget target name path)
      (imported : catalog.importModule name = .ok found)
      (present : found.follow (Text.pieces '.' path) = .ok (some entity))
      (stuck : entity.asCallable? = none)

/-- What the code of a target raises: an exit where its module is imported, or whatever is raised where a name
in the path is looked up. -/
inductive TargetEscapes (catalog : Catalog) (target : String) : Escape → Prop
  | importing {name path : String} {what : Raised} (parts : IsTarget target name path)
      (imported : catalog.importModule name = .error (.exit what)) :
      TargetEscapes catalog target (.exit what)
  | following {name path : String} {found : Entity} {escape : Escape} (parts : IsTarget target name path)
      (imported : catalog.importModule name = .ok found)
      (raises : found.follow (Text.pieces '.' path) = .error escape) : TargetEscapes catalog target escape

/-- What looking for the function of a target comes to. -/
inductive Seeks (catalog : Catalog) (target : String) : Except DescriptionFault Callable → Prop
  | reaches {function : Callable} (how : Reaches catalog target function) :
      Seeks catalog target (.ok function)
  | fails (fault : StrategyFault) (why : TargetFails catalog target) :
      Seeks catalog target (.error (.strategy fault))
  | escapes {escape : Escape} (why : TargetEscapes catalog target escape) :
      Seeks catalog target (.error (.escape escape))

variable {catalog : Catalog} {target given name path : String}

/-- What stands before and behind the first colon, where something stands behind it. -/
theorem around_colon_iff {cs front back : List Char} (filled : back ≠ []) :
    cs.takeWhile (· != ':') = front ∧ (cs.dropWhile (· != ':')).drop 1 = back ↔
      cs = front ++ ':' :: back ∧ ':' ∉ front := by
  constructor
  · rintro ⟨rfl, rfl⟩
    cases rest : cs.dropWhile (· != ':') with
    | nil => simp [rest] at filled
    | cons c behind =>
        have colon : c = ':' := by
          have stopped := List.head?_dropWhile_not (· != ':') cs
          simpa [rest] using stopped
        subst colon
        constructor
        · rw [List.drop_one, List.tail_cons, ← rest, List.takeWhile_append_dropWhile]
        · intro member
          simpa using List.mem_takeWhile_imp member
  · rintro ⟨rfl, absent⟩
    have before : ∀ c ∈ front, (c != ':') = true := by
      intro c member
      simpa using fun same : c = ':' => absent (same ▸ member)
    rw [List.takeWhile_append_of_pos before, List.dropWhile_append_of_pos before]
    simp

theorem splitTarget?_eq_some_iff :
    splitTarget? target = some (name, path) ↔ IsTarget target name path := by
  have split : splitTarget? target = some (name, path) ↔
      (target.toList.takeWhile (· != ':') = name.toList ∧
        (target.toList.dropWhile (· != ':')).drop 1 = path.toList) ∧ name ≠ "" ∧ path ≠ "" := by
    unfold splitTarget?
    dsimp only
    constructor
    · intro h
      split at h
      · cases h
      · next filled =>
        cases h
        simpa using filled
    · rintro ⟨⟨front, back⟩, filled⟩
      rw [front, back, if_neg (by simpa using filled)]
      simp
  have back (filled : path ≠ "") : path.toList ≠ [] := by simpa using filled
  rw [split]
  constructor
  · rintro ⟨around, filledName, filledPath⟩
    obtain ⟨parts, absent⟩ := (around_colon_iff (back filledPath)).1 around
    exact ⟨parts, absent, filledName, filledPath⟩
  · rintro ⟨parts, absent, filledName, filledPath⟩
    exact ⟨(around_colon_iff (back filledPath)).2 ⟨parts, absent⟩, filledName, filledPath⟩

theorem seeks_findFunction (catalog : Catalog) (target given : String) :
    Seeks catalog target (findFunction catalog target given) := by
  rw [findFunction, findTarget]
  cases parts : splitTarget? target with
  | none =>
      refine .fails _ (.malformed fun name path isTarget => ?_)
      rw [splitTarget?_eq_some_iff.2 isTarget] at parts
      cases parts
  | some pair =>
      obtain ⟨name, path⟩ := pair
      have isTarget := splitTarget?_eq_some_iff.1 parts
      dsimp only
      cases imported : catalog.importModule name with
      | error failure =>
          cases failure with
          | fault fault => exact .fails _ (.notImportable isTarget imported)
          | exit what => exact .escapes (.importing isTarget imported)
      | ok found =>
          dsimp only
          cases present : found.follow (Text.pieces '.' path) with
          | error escape => exact .escapes (.following isTarget imported present)
          | ok member =>
              cases member with
              | none => exact .fails _ (.missing isTarget imported present)
              | some entity =>
                  rw [ok_bind]
                  cases called : entity.asCallable? with
                  | none => exact .fails _ (.notCallable isTarget imported present called)
                  | some function => exact .reaches (.function isTarget imported present called)

theorem findFunction_eq_ok_iff {function : Callable} :
    findFunction catalog target given = .ok function ↔ Reaches catalog target function := by
  constructor
  · intro found
    have seeks := seeks_findFunction catalog target given
    rw [found] at seeks
    cases seeks with
    | reaches how => exact how
  · rintro ⟨parts, imported, present, callable⟩
    simp only [findFunction, findTarget, splitTarget?_eq_some_iff.2 parts, imported, present, ok_bind,
      callable]
    rfl

/-- A target fails where looking for its function is a fault of the strategy. -/
theorem findFunction_eq_strategy_iff :
    (∃ fault, findFunction catalog target given = .error (.strategy fault)) ↔
      TargetFails catalog target := by
  constructor
  · rintro ⟨fault, failed⟩
    have seeks := seeks_findFunction catalog target given
    rw [failed] at seeks
    cases seeks with
    | fails _ why => exact why
  · intro fails
    rw [findFunction, findTarget]
    cases fails with
    | malformed none =>
        cases parts : splitTarget? target with
        | none => exact ⟨_, rfl⟩
        | some pair => exact absurd (splitTarget?_eq_some_iff.1 parts) (none pair.1 pair.2)
    | notImportable parts imported =>
        simp only [splitTarget?_eq_some_iff.2 parts, imported]
        exact ⟨_, rfl⟩
    | missing parts imported absent =>
        simp only [splitTarget?_eq_some_iff.2 parts, imported, absent]
        exact ⟨_, rfl⟩
    | notCallable parts imported present stuck =>
        simp only [splitTarget?_eq_some_iff.2 parts, imported, present, ok_bind, stuck]
        exact ⟨_, rfl⟩

/-- What the code of a target raises escapes. -/
theorem findFunction_eq_escape_iff {escape : Escape} :
    findFunction catalog target given = .error (.escape escape) ↔ TargetEscapes catalog target escape := by
  constructor
  · intro failed
    have seeks := seeks_findFunction catalog target given
    rw [failed] at seeks
    cases seeks with
    | escapes why => exact why
  · intro escapes
    rw [findFunction, findTarget]
    cases escapes with
    | importing parts imported =>
        simp only [splitTarget?_eq_some_iff.2 parts, imported]
        rfl
    | following parts imported raises =>
        simp only [splitTarget?_eq_some_iff.2 parts, imported, raises]
        rfl

end CookbookRules.RuleFile
