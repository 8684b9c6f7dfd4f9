import CookbookRules.Proofs.Outcome
import CookbookRules.Yaml.Document

/-!
# A text of one long key

A question mark says that a key follows, so the text `? word` is a mapping from the word to nothing. A
word of more than 1024 characters cannot be the beginning of a key without that mark: the lexer forgets
that one may have begun there, and delivers it as it is.
-/

namespace CookbookRules.Yaml

open Outcome

/-! ## Words -/

variable {word : List Char}

section
variable {l next : Lexer} {token : Token} {queued sent : List Token}

end

variable {s : String} {stop : Mark} {n : Int}

variable (setting : Setting)

end CookbookRules.Yaml
