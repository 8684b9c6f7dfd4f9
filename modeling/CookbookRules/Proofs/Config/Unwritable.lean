import CookbookRules.Proofs.Config.Acceptance
import CookbookRules.Proofs.Yaml.LongKey

/-!
# An unknown key that cannot be written

A configuration with an unknown key is refused by a message with the key in it. A key that is an integer
of more than 4300 digits has no text, so there the message fails, and no fault of a configuration is told.
In base 16 such an integer can be read: only the number of decimal digits is limited.
-/

namespace CookbookRules.Number

end CookbookRules.Number

namespace CookbookRules.Yaml

end CookbookRules.Yaml

namespace CookbookRules.Text.Utf8

end CookbookRules.Text.Utf8

namespace CookbookRules.Config

open Yaml Number

variable (n : Nat)

variable {n}

end CookbookRules.Config
