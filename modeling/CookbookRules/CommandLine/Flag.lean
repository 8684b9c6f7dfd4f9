/-!
# Commands and flags

The commands of the program, the flags that each level of the command line knows, and the texts that
tell how they are used.
-/

namespace CookbookRules.CommandLine

/-- The commands. -/
inductive Command
  | rules
  | validateRules
  | shell
  deriving DecidableEq, Repr

namespace Command

/-- All commands, in the order of the help text. -/
def all : List Command := [.rules, .validateRules, .shell]

/-- The word for a command. -/
def name : Command → String
  | rules => "rules"
  | validateRules => "validate-rules"
  | shell => "shell"

/-- The command of a word. -/
def ofName? (name : String) : Option Command :=
  all.find? (·.name == name)

end Command

/-- The flags of all levels. -/
inductive Flag
  | help
  | version
  | verbose
  | root
  | config
  | included
  | noBundled
  | tags
  | format
  deriving DecidableEq, Repr

namespace Flag

/-- The spellings of a flag. -/
def names : Flag → List String
  | help => ["-h", "--help"]
  | version => ["--version"]
  | verbose => ["-v", "--verbose"]
  | root => ["-r", "--root"]
  | config => ["-c", "--config"]
  | included => ["-I", "--include"]
  | noBundled => ["--no-bundled"]
  | tags => ["-t", "--tags"]
  | format => ["--format"]

/-- Whether a flag takes a value. -/
def takesValue : Flag → Bool
  | help | version | verbose | noBundled => false
  | root | config | included | tags | format => true

/-- A flag as messages name it. -/
def title (flag : Flag) : String := String.intercalate "/" flag.names

end Flag

/-- Where a word of the command line stands: before the command, or behind it. -/
inductive Level
  | top
  | under (command : Command)
  deriving DecidableEq, Repr

namespace Level

/-- The flags of a level. -/
def flags : Level → List Flag
  | top => [.help, .version, .verbose]
  | under .rules => [.help, .root, .config, .included, .noBundled, .tags, .format]
  | under .validateRules => [.help]
  | under .shell => [.help, .root, .config, .included, .noBundled]

/-- The spellings of a level's flags, each with its flag. -/
def spellings (level : Level) : List (String × Flag) :=
  level.flags.flatMap fun flag => flag.names.map fun name => (name, flag)

/-- The name under which a level reports its errors. -/
def program : Level → String
  | top => "cookcritic"
  | under command => "cookcritic " ++ command.name

/-- Lines, each with its end. -/
def paragraph (lines : List String) : String :=
  String.join (lines.map (· ++ "\n"))

/-- How a level is used, in short. -/
def usage : Level → String
  | top => "usage: cookcritic [-h] [--version] [-v] \x7brules,validate-rules,shell\x7d ...\n"
  | under .rules =>
    paragraph
      ["usage: cookcritic rules [-h] [-r ROOT] [-c CONFIG] [-I INCLUDE] [--no-bundled]",
        "                        [-t TAGS] [--format \x7bjson,text\x7d]"]
  | under .validateRules => "usage: cookcritic validate-rules [-h] paths [paths ...]\n"
  | under .shell =>
    "usage: cookcritic shell [-h] [-r ROOT] [-c CONFIG] [-I INCLUDE] [--no-bundled]\n"

/-- The lines on the flags that choose the rules. -/
def sourceLines : List String :=
  ["  -h, --help            show this help message and exit",
    "  -r ROOT, --root ROOT  Project root holding cookcritic.yaml",
    "  -c CONFIG, --config CONFIG",
    "                        Explicit config file",
    "  -I INCLUDE, --include INCLUDE",
    "                        Additional rule file or directory (repeat flag for",
    "                        multiple paths)",
    "  --no-bundled          Do not load the rules shipped with cookcritic"]

/-- The lines of a level's help below its usage. -/
def helpLines : Level → List String
  | top =>
    ["",
      "cookcritic: lint rule registry for infrastructure-as-code cookbooks",
      "",
      "positional arguments:",
      "  \x7brules,validate-rules,shell\x7d",
      "    rules               List the rules that would be applied",
      "    validate-rules      Validate rule files without loading them for use",
      "    shell               Load rules and open an interactive shell on the",
      "                        registry",
      "",
      "options:",
      "  -h, --help            show this help message and exit",
      "  --version             show program's version number and exit",
      "  -v, --verbose         Show debug diagnostics"]
  | under .rules =>
    ["", "options:"] ++ sourceLines ++
      ["  -t TAGS, --tags TAGS  Tag expression, e.g. 'style,correctness' or '~FC011'",
        "                        (repeat to require all)",
        "  --format \x7bjson,text\x7d  Listing format (default: text)"]
  | under .validateRules =>
    ["",
      "positional arguments:",
      "  paths       Rule files or directories",
      "",
      "options:",
      "  -h, --help  show this help message and exit"]
  | under .shell => ["", "options:"] ++ sourceLines

/-- The help of a level. -/
def help (level : Level) : String := level.usage ++ paragraph level.helpLines

end Level

/-- What the version flag shows. -/
def versionLine : String := "cookcritic 0.1.0\n"

/-- The greeting of the rule shell. -/
def shellBanner : String :=
  Level.paragraph
    ["cookcritic rule shell",
      "The live registry is `registry`; `registry.rules` lists every declared rule.",
      "Declare more with rule(code, name), tags([...]), recipe(fn), resource(fn), provider(fn), " ++
        "cookbook(fn)."]

end CookbookRules.CommandLine
