import CookbookRules.RuleFile.Compile
import CookbookRules.Yaml.Fault

/-!
# Load errors

Why a rule file is not loaded, with the file, a code that stays the same over versions, and the line
where it is known.
-/

namespace CookbookRules.RuleFile

/-- A place in a file: the path, and the line where it is known. -/
def locationOf (path : String) : Option Int → String
  | some line => s!"{path}:{line}"
  | none => path

/-- What went wrong with a file. The last two causes are a fault of a rule's own checks and an error that
is stated by its parts. -/
inductive LoadCause
  | unreadable (fault : ReadFault)
  | malformed (line : Option Int)
  | refused (violation : Located Violation)
  | strategy (code : String) (kind : Kind) (fault : StrategyFault) (line : Option Int)
  | rule (fault : Rule.Fault)
  | stated (code message field : String) (line : Option Int)

namespace LoadCause

/-- The code of a cause. -/
def code : LoadCause → String
  | unreadable _ => "RULE002"
  | malformed _ => "RULE003"
  | refused _ | rule _ => "RULE004"
  | strategy .. => "RULE005"
  | stated code .. => code

/-- The wording of a cause; that of a malformed text is left to the reader of the text. -/
def message : LoadCause → String
  | unreadable fault => s!"failed to read rule file: {fault.message}"
  | malformed _ => s!"invalid YAML: {Yaml.malformedWording}"
  | refused violation => violation.cause.message
  | strategy code kind fault line => (EntryFault.matcher code kind fault line).message
  | rule fault => fault.message
  | stated _ message _ _ => message

/-- The line of a cause. -/
def line : LoadCause → Option Int
  | malformed line | strategy _ _ _ line | stated _ _ _ line => line
  | refused violation => violation.line
  | unreadable _ | rule _ => none

/-- The field that a cause names. -/
def field : LoadCause → String
  | refused violation => violation.cause.field
  | strategy _ kind _ _ => kind.name
  | stated _ _ field _ => field
  | unreadable _ | malformed _ | rule _ => ""

end LoadCause

/-- An error of loading a file. -/
structure LoadError where
  path : String
  cause : LoadCause

namespace LoadError

/-- Where the error is. -/
def location (e : LoadError) : String := locationOf e.path e.cause.line

/-- The location and the message. -/
def text (e : LoadError) : String := s!"{e.location}: {e.cause.message}"

end LoadError

end CookbookRules.RuleFile
