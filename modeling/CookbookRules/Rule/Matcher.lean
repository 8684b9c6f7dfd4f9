import CookbookRules.Catalog
import CookbookRules.Files.Glob
import CookbookRules.Finding
import CookbookRules.Value.Printer

/-!
# Matchers

A matcher looks at an artifact and answers a finding. It is a callback, a function of a module with its
options, or one of three looks at the files of a cookbook: a file is missing, a file exists, or a pattern
selects files.
-/

namespace CookbookRules

/-- What is run on an artifact. -/
inductive Matcher
  | callback (id : String) (reply : Reply Value)
  | callable (target : String) (function : Callable) (options : List (Value × Value))
  | missingFile (path : String)
  | fileExists (path : String)
  | glob (pattern : String)

namespace Matcher

/-- Why running a matcher fails. -/
inductive Fault
  | finding (fault : Finding.Fault)
  | call (fault : CallFault)
  | notPath (typeName : String)
  | bytesAsPath
  | pattern (fault : Glob.Fault)
  | file (fault : ReadFault)
  deriving DecidableEq, Repr

/-- The wording of a fault. -/
def Fault.message : Fault → String
  | finding fault => fault.message
  | call fault => fault.message
  | notPath typeName => s!"expected str, bytes or os.PathLike object, not {typeName}"
  | bytesAsPath =>
    "argument should be a str object or an os.PathLike object returning str, not <class 'bytes'>"
  | pattern fault => fault.message
  | file fault => fault.message

/-- The matcher that a value is: only functions are. -/
def ofValue? : Value → Option Matcher
  | .function id reply => some (callback id reply)
  | _ => none

/-- The text of a value that names a path. -/
def pathText : Value → Except Fault String
  | .text s => .ok s
  | .brokenText codes => .ok (String.ofList (Text.mend codes))
  | .kind k => .ok (Value.kind k).plainText
  | .bytes _ => .error .bytesAsPath
  | v => .error (.notPath v.longTypeName)

/-- Calls a function of one argument. -/
def reply (artifact : Value) : Reply Value → Except Fault Value
  | .returns value => .ok value
  | .echo => .ok artifact
  | .fails message => .error (.call (.raised message))

/-- A finding with a path and a reason. -/
def foundPath (path : Path) (reason : String) : Finding :=
  .found (.map .plain [(.text "path", .text path.toString), (.text "reason", .text reason)])

/-- The path of a file in a cookbook. -/
def inCookbook (relative : String) (cookbook : Value) : Except Fault Path := do
  pure ((Path.ofString (← pathText cookbook)).join (Path.ofString relative))

/-- The finding that files are selected by a pattern. -/
def foundFiles (pattern : String) (hits : List String) : Finding :=
  if hits.isEmpty then .nothing
  else
    .found (.map .plain
      [(.text "pattern", .text pattern), (.text "paths", .list (hits.map .text))])

/-- Runs a matcher on an artifact. -/
def run (files : Files) (artifact : Value) : Matcher → Except Fault Finding
  | callback _ answer => do
    (Finding.ofValue (← reply artifact answer)).mapError .finding
  | callable _ function options => do
    let value ← (function.call options artifact).mapError .call
    (Finding.ofValue value).mapError .finding
  | missingFile relative => do
    let path ← inCookbook relative artifact
    let there ← (files.exists? path).mapError .file
    pure (if there then .nothing else foundPath path s!"{relative} is missing")
  | fileExists relative => do
    let path ← inCookbook relative artifact
    let there ← (files.exists? path).mapError .file
    pure (if there then foundPath path s!"{relative} is present" else .nothing)
  | glob text => do
    let root := Path.ofString (← pathText artifact)
    let pattern ← (Glob.Pattern.ofString text).mapError .pattern
    foundFiles text <$> (pattern.run files root).mapError .file

/-- What a matcher returns where it is called: a callback a value of its own, any other matcher a
finding. -/
def call (files : Files) (artifact : Value) : Matcher → Except Fault Value
  | callback _ answer => reply artifact answer
  | matcher => Finding.toValue <$> matcher.run files artifact

section Text

variable (files : Files) (cookbook s : String)

theorem run_missingFile : (missingFile s).run files (.text cookbook) =
    (files.exists? ((Path.ofString cookbook).join (.ofString s))).mapError .file >>= fun there =>
      .ok (if there then .nothing
        else foundPath ((Path.ofString cookbook).join (.ofString s)) s!"{s} is missing") := rfl

theorem run_fileExists : (fileExists s).run files (.text cookbook) =
    (files.exists? ((Path.ofString cookbook).join (.ofString s))).mapError .file >>= fun there =>
      .ok (if there then foundPath ((Path.ofString cookbook).join (.ofString s)) s!"{s} is present"
        else .nothing) := rfl

theorem run_glob : (glob s).run files (.text cookbook) =
    (Glob.Pattern.ofString s).mapError .pattern >>= fun pattern =>
      foundFiles s <$> (pattern.run files (.ofString cookbook)).mapError .file := rfl

end Text

end Matcher

/-- At most one matcher for each kind. -/
structure Matchers where
  recipe : Option Matcher
  resource : Option Matcher
  provider : Option Matcher
  cookbook : Option Matcher

namespace Matchers

/-- No matchers. -/
def empty : Matchers := ⟨none, none, none, none⟩

/-- The matcher of a kind. -/
def get? (matchers : Matchers) : Kind → Option Matcher
  | .recipe => matchers.recipe
  | .resource => matchers.resource
  | .provider => matchers.provider
  | .cookbook => matchers.cookbook

/-- Gives a kind a matcher in place of the one it had. -/
def set (kind : Kind) (matcher : Matcher) (matchers : Matchers) : Matchers :=
  match kind with
  | .recipe => { matchers with recipe := some matcher }
  | .resource => { matchers with resource := some matcher }
  | .provider => { matchers with provider := some matcher }
  | .cookbook => { matchers with cookbook := some matcher }

/-- The kinds that have a matcher, in their order. -/
def kinds (matchers : Matchers) : List Kind :=
  Kind.all.filter fun kind => (matchers.get? kind).isSome

@[simp] theorem get?_empty (kind : Kind) : empty.get? kind = none := by
  cases kind <;> rfl

@[simp] theorem get?_set (kind other : Kind) (matcher : Matcher) (matchers : Matchers) :
    (matchers.set kind matcher).get? other =
      if other = kind then some matcher else matchers.get? other := by
  cases kind <;> cases other <;> rfl

end Matchers

end CookbookRules
