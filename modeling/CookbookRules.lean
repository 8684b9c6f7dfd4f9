import CookbookRules.Catalog.Samples
import CookbookRules.Main
import CookbookRules.Shell.Session
import CookbookRules.Proofs.RuleFile.Agreement
import CookbookRules.Proofs.RuleFile.Compilation
import CookbookRules.Proofs.Shell.Declarations
import CookbookRules.Proofs.Shell.Targets
import CookbookRules.Proofs.Shell.Remains
import CookbookRules.Proofs.RuleFile.Failure
import CookbookRules.Proofs.RuleFile.Remainder
import CookbookRules.Proofs.RuleFile.Permutation
import CookbookRules.Proofs.RuleFile.Confinement
import CookbookRules.Proofs.RuleFile.Running
import CookbookRules.Proofs.RuleFile.Concatenation
import CookbookRules.Proofs.RuleFile.Selection
import CookbookRules.Proofs.RuleFile.Resolution
import CookbookRules.Proofs.Rule.Expression
import CookbookRules.Proofs.CommandLine.Composition
import CookbookRules.Proofs.CommandLine.Configuration
import CookbookRules.Proofs.RuleFile.Calling
import CookbookRules.Proofs.RuleFile.Lines
import CookbookRules.Proofs.Rule.Changes
import CookbookRules.Proofs.Config.Unwritable
import CookbookRules.Proofs.Shell.Loading
