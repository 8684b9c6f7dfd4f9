import CookbookRules.Catalog
import CookbookRules.Files.Tree

/-!
# Environments

What a run depends on beside its arguments: the files it can see, the modules it can import, the
directory of the bundled rule files, and the home directories.
-/

namespace CookbookRules

/-- The surroundings of a run. Home directories, that of a lone tilde and those of users, are as a tilde is
replaced by them: without slashes at the end, and a slash where nothing else is left. -/
structure Environment where
  files : Files
  catalog : Catalog
  bundled : Path
  home : String
  users : List (String × String)

/-- A home directory as it is written down, in the form that a tilde is replaced by. -/
def homeText (written : String) : String :=
  let home := (written.toList.reverse.dropWhile (· = '/')).reverse
  if home.isEmpty then "/" else String.ofList home

end CookbookRules
