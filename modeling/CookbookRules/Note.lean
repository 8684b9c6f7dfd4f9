/-!
# Notes

What a run says about itself on the side: details of what it did, and warnings.
-/

namespace CookbookRules

/-- How much a note matters. -/
inductive NoteLevel
  | debug
  | warning
  deriving DecidableEq, Repr

/-- The name of a level in a log. -/
def NoteLevel.name : NoteLevel → String
  | debug => "DEBUG"
  | warning => "WARNING"

/-- What happened. -/
inductive Note
  | expanded (directory : String) (files : Nat)
  | declared (code name : String)
  | compiled (rules : Nat) (source : String)
  | fileLoaded (rules : Nat) (source : String)
  | allLoaded (rules files : Nat)
  | shellOpened (rules : Nat)
  | repeatedCode (code : String) (sources : List String)
  | configLoaded (path : String)
  | selected (rules total : Nat)
  deriving DecidableEq, Repr

namespace Note

/-- A repeated code is a warning. -/
def level : Note → NoteLevel
  | repeatedCode .. => .warning
  | _ => .debug

/-- The wording of a note. -/
def message : Note → String
  | expanded directory files => s!"Expanded {directory} to {files} rule file(s)"
  | declared code name => s!"Declared rule {code} ({name})"
  | compiled rules source => s!"Compiled {rules} rule(s) from {source}"
  | fileLoaded rules source => s!"Loaded {rules} rule(s) from {source}"
  | allLoaded rules files => s!"Loaded {rules} rule(s) from {files} file(s)"
  | shellOpened rules => s!"Opening rule shell with {rules} rule(s)"
  | repeatedCode code sources =>
    let all := String.intercalate ", " sources
    s!"Rule code {code} is declared more than once ({all})"
  | configLoaded path => s!"Loaded config from {path}"
  | selected rules total => s!"Selected {rules} of {total} rule(s)"

/-- A note as a line of a log. -/
def line (note : Note) : String :=
  note.level.name ++ " " ++ note.message

end Note

end CookbookRules
