/-!
# The bundled rule file

The rule file that comes with the program: four rules on the files that every cookbook should have.
-/

namespace CookbookRules.RuleFile

/-- The name of the bundled rule file. -/
def bundledName : String := "cookbook.yaml"

/-- The lines of the bundled rule file. -/
def bundledLines : List String :=
  ["version: 1",
    "rules:",
    "  - code: FC011",
    "    name: Missing README in markdown format",
    "    tags: [readme, supermarket]",
    "    cookbook:",
    "      strategy: missing_file",
    "      path: README.md",
    "  - code: FC012",
    "    name: README should be in Markdown format",
    "    tags: [readme]",
    "    cookbook:",
    "      strategy: file_exists",
    "      path: README.rdoc",
    "  - code: FC031",
    "    name: Cookbook without metadata.rb file",
    "    tags: [correctness, metadata]",
    "    cookbook:",
    "      strategy: missing_file",
    "      path: metadata.rb",
    "  - code: FC071",
    "    name: Missing LICENSE file",
    "    tags: [style, license]",
    "    cookbook:",
    "      strategy: missing_file",
    "      path: LICENSE"]

/-- The text of the bundled rule file. -/
def bundledText : String := String.join (bundledLines.map (· ++ "\n"))

end CookbookRules.RuleFile
