import CookbookRules.Text.Spelling
import CookbookRules.Yaml.Fault

/-!
# Tokens

The pieces that a text is made of, each with the marks where it starts and stops. Indentation appears as
tokens too: the start of a block collection, and its end.
-/

namespace CookbookRules.Yaml

/-- What a token is. -/
inductive TokenKind
  | streamStart
  | streamEnd
  | versionDirective (major minor : Nat)
  | tagDirective (handle replacement : String)
  | otherDirective
  | documentStart
  | documentEnd
  | blockSequenceStart
  | blockMappingStart
  | blockEnd
  | flowSequenceStart
  | flowSequenceEnd
  | flowMappingStart
  | flowMappingEnd
  | blockEntry
  | flowEntry
  | key
  | value
  | alias (name : String)
  | anchor (name : String)
  | tag (handle : Option String) (suffix : String)
  | scalar (plain : Bool) (spelling : Text.Spelling)
  deriving DecidableEq, Repr

/-- A token and its place. -/
structure Token where
  kind : TokenKind
  start : Mark
  stop : Mark
  deriving DecidableEq, Repr

/-- The tokens of a text up to its end, or up to the fault that ends it. -/
structure TokenStream where
  tokens : List Token
  fault : Option Fault
  deriving Repr

end CookbookRules.Yaml
