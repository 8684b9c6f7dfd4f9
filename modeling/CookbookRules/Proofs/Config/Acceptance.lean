import CookbookRules.Proofs.Config.Failure
import CookbookRules.Proofs.Text.Trim
import Mathlib.Algebra.Group.Int.Defs

/-!
# Accepted configurations

Which documents describe a configuration, and which one: `Describes` says it of the keys and the values, and
`StandsFor` of an entry, which is a path itself or is seen from a home directory or from the directory of the
file. So all rule paths are absolute, and they depend on nothing but the file and the home directory.
-/

namespace CookbookRules.Config

open Outcome

/-! ## What is described -/

/-- A text that is not blank, without the blanks around it. -/
def IsFilledText (item : Value) (s : String) : Prop :=
  s ≠ "" ∧ ∃ given, item.IsText given ∧ s = Text.trim given

/-- The texts under a key: none where there is nothing, or those of a list. -/
inductive Lists (document : Value) (key : String) : List String → Prop
  | absent (none : ∀ given, ¬ document.Holds key given) : Lists document key []
  | null (held : document.Holds key .none) : Lists document key []
  | items {items : List Value} {all : List String} (held : document.Holds key (.list items))
      (each : List.Forall₂ IsFilledText items all) : Lists document key all

/-- Whether the bundled rules are used: it is said by a boolean, and else they are. -/
inductive Switches (document : Value) : Bool → Prop
  | absent (none : ∀ given, ¬ document.Holds "include_bundled" given) : Switches document true
  | given {b : Bool} (held : document.Holds "include_bundled" (.bool b)) : Switches document b

/-- What a document says: nothing, or what is under the keys of a mapping that has no others. -/
inductive Describes : Value → (entries tags : List String) → (includeBundled : Bool) → Prop
  | nothing : Describes .none [] [] true
  | mapping {document : Value} {entries tags : List String} {b : Bool}
      (keys : document.KeysWithin allowedKeys) (switch : Switches document b)
      (paths : Lists document "rule_paths" entries) (expressions : Lists document "tags" tags) :
      Describes document entries tags b

/-- The path that an entry stands for: an absolute one itself, else one below the home directory if it begins
with a tilde, or below the directory that it is seen from. -/
inductive StandsFor (home base : Path) (entry : String) : Path → Prop
  | itself (absolute : (Path.ofString entry).isAbsolute = true) :
      StandsFor home base entry (Path.ofString entry)
  | atHome {rest : List String} (parts : Path.ofString entry = ⟨.relative, "~" :: rest⟩) :
      StandsFor home base entry (home.descend rest)
  | below {parts : List String} (relative : Path.ofString entry = ⟨.relative, parts⟩)
      (plain : parts.head? ≠ some "~") : StandsFor home base entry (base.descend parts)

variable {env other : Environment} {path root base home : Path} {asked : Option Path} {document item : Value}
  {key entry s text : String} {all entries tags : List String} {b : Bool} {config : Config}

/-! ## What is read -/

theorem StandsFor.isAbsolute (h : StandsFor home base entry path) (fromHome : home.isAbsolute = true)
    (fromBase : base.isAbsolute = true) : path.isAbsolute = true := by
  cases h with
  | itself absolute => exact absolute
  | atHome => exact fromHome
  | below => exact fromBase

/-! ## Documents -/

end CookbookRules.Config
