import CookbookRules.Yaml.Building
import CookbookRules.Yaml.Node.Reader
import CookbookRules.Yaml.Token.Lexer

/-!
# From a text to its value

A text is read as a document of nodes, and its value is that of the outermost node. Collections may stand
inside each other to any depth: that reading gives up in a text where they are very deep, since calls cannot
be nested without bound, is left out.
-/

namespace CookbookRules.Yaml

/-- The value of a text; an empty text is null. With `located`, mappings know their lines. -/
def read (located : Bool) (text : String) : Except Fault Value := do
  let cs := text.toList
  if !cs.all isAllowed then throw .notAllowed
  match ← Graph.ofTokens (TokenStream.ofText cs) with
  | none => pure .none
  | some graph => graph.value ⟨located, cs⟩

end CookbookRules.Yaml
