import CookbookRules.Value.Label
import CookbookRules.Value.Mapping
import CookbookRules.Text.Blank
import CookbookRules.Text.Quoted

/-!
# Catalogs of modules

Rule files name functions by a module and a path of names inside it. A catalog holds the modules that
can be named. Importing walks through the dotted name of a module from the left, and the first part that
is not there is the fault; calling binds the artifact and the options to the function's parameters. The
code of a module, and that behind a name in it, may raise an error or an exit. What else an import does,
such as what it writes or changes in other modules, is left out: a catalog is the same at every import.
-/

namespace CookbookRules

/-- Why a function of a module fails. -/
inductive CallFault
  | keywordNotText
  | unexpectedKeyword (function keyword : String)
  | repeatedArgument (function argument : String)
  | missingKeyword (function keyword : String)
  | takesNothing (function : String)
  | noAttribute (typeName name : String)
  | notIterable (typeName : String)
  | raised (message : String)
  deriving DecidableEq, Repr

/-- The wording of a fault. -/
def CallFault.message : CallFault → String
  | keywordNotText => "keywords must be strings"
  | unexpectedKeyword function keyword =>
    s!"{function}() got an unexpected keyword argument '{keyword}'"
  | repeatedArgument function argument =>
    s!"{function}() got multiple values for argument '{argument}'"
  | missingKeyword function keyword =>
    s!"{function}() missing 1 required keyword-only argument: '{keyword}'"
  | takesNothing function => s!"{function}() takes no arguments"
  | noAttribute typeName name => s!"'{typeName}' object has no attribute '{name}'"
  | notIterable typeName => s!"'{typeName}' object is not iterable"
  | raised message => message

/-- The options of a call, by name. -/
abbrev Options := List (Label × Value)

/-- The value of an option. -/
def Options.get? (name : String) (options : Options) : Option Value :=
  (options.find? (·.1.text == name)).map (·.2)

/-- A function of one artifact: the name of its parameter, the optional keywords, one keyword that may be
required, and whether it takes any other keyword. -/
structure Callable where
  name : String
  parameter : String
  optional : List String
  required : Option String
  takesAny : Bool
  body : Value → Options → Except CallFault Value

namespace Callable

/-- Whether a keyword is one of the function's own. -/
def knows (f : Callable) (keyword : String) : Bool :=
  f.takesAny || f.optional.contains keyword || f.required == some keyword

/-- What is wrong with a keyword. -/
def keywordFault? (f : Callable) (keyword : Label) : Option CallFault :=
  if keyword.text = f.parameter then some (.repeatedArgument f.name keyword.shown)
  else if f.knows keyword.text then none
  else some (.unexpectedKeyword f.name keyword.shown)

/-- Binds the options: all names must be texts, then the first wrong keyword is the fault, then the
keyword that is missing. -/
def bind (f : Callable) (options : List (Value × Value)) : Except CallFault Options :=
  match options.mapM fun (key, value) => (Label.ofValue? key).map fun name => (name, value) with
  | none => .error .keywordNotText
  | some named =>
    match named.findSome? fun option => f.keywordFault? option.1 with
    | some fault => .error fault
    | none =>
      match f.required with
      | some keyword =>
        if (Options.get? keyword named).isSome then .ok named
        else .error (.missingKeyword f.name keyword)
      | none => .ok named

/-- Calls the function. -/
def call (f : Callable) (options : List (Value × Value)) (artifact : Value) :
    Except CallFault Value := do
  f.body artifact (← f.bind options)

end Callable

/-- What code raises: the name of its type, and its text. -/
structure Raised where
  typeName : String
  message : String
  deriving DecidableEq, Repr

/-- How code ends that raises something: with an error, or with an exit that handlers of errors let pass. -/
inductive Escape
  | error (what : Raised)
  | exit (what : Raised)
  deriving DecidableEq, Repr

/-- What a name inside a module stands for. Looking up a member can raise something instead. -/
inductive Entity
  | function (callable : Callable)
  | group (name : String) (members : List (String × Except Escape Entity))
  | container (members : List (String × Except Escape Entity))
  | constant

/-- The names inside an entity, each with what looking it up comes to. -/
abbrev Members := List (String × Except Escape Entity)

namespace Entity

/-- The names inside an entity. -/
def members : Entity → Members
  | group _ members | container members => members
  | function _ | constant => []

/-- Follows names from an entity; there need not be such a name. -/
def follow : Entity → List String → Except Escape (Option Entity)
  | entity, [] => .ok (some entity)
  | entity, name :: rest =>
    match entity.members.lookup name with
    | none => .ok none
    | some (.error escape) => .error escape
    | some (.ok next) => next.follow rest
termination_by _ names => names.length

/-- Calling a group fails: it takes no artifact. -/
def asCallable? : Entity → Option Callable
  | function callable => some callable
  | group name _ => some ⟨name, "", [], none, true, fun _ _ => .error (.takesNothing name)⟩
  | container _ | constant => none

end Entity

/-- Why a module cannot be imported: it is not there, its own code says so, or its code raises an error. -/
inductive ImportFault
  | absent (name : String)
  | notPackage (name parent : String)
  | relative (name : String)
  | unimportable (message : String)
  | raised (what : Raised)
  deriving DecidableEq, Repr

/-- How an import fails: with a fault, or with an exit. -/
inductive ImportFailure
  | fault (fault : ImportFault)
  | exit (what : Raised)
  deriving DecidableEq, Repr

/-- What stands under the full name of a module. -/
inductive Module
  | plain (members : Members)
  | package (members : Members)
  | broken (failure : ImportFailure)

/-- The modules that can be imported, by their full names. -/
structure Catalog where
  modules : List (String × Module)

namespace Catalog

/-- The full names of a dotted name's parents and of itself, the outermost first. -/
def lineage (parts : List String) : List String :=
  (List.range parts.length).map fun n => String.intercalate "." (parts.take (n + 1))

/-- Imports one module; `parent` is the module around it, if there is one. -/
def importOne (catalog : Catalog) (parent : Option (String × Module)) (name : String) :
    Except ImportFailure Module :=
  match parent, catalog.modules.lookup name with
  | some (outer, .plain _), _ => .error (.fault (.notPackage name outer))
  | _, none => .error (.fault (.absent name))
  | _, some (.broken failure) => .error failure
  | _, some found => .ok found

/-- Imports the modules of a lineage, one inside the other. -/
def importAll (catalog : Catalog) : Option (String × Module) → List String →
    Except ImportFailure (Option Module)
  | parent, [] => .ok (parent.map (·.2))
  | parent, name :: rest => do
    let found ← catalog.importOne parent name
    catalog.importAll (some (name, found)) rest

/-- Imports a module by its full name. -/
def importModule (catalog : Catalog) (name : String) : Except ImportFailure Entity := do
  if name.startsWith "." then throw (.fault (.relative name))
  match ← catalog.importAll none (lineage (Text.pieces '.' name)) with
  | some (.plain members) | some (.package members) => pure (.container members)
  | _ => throw (.fault (.absent name))

end Catalog

end CookbookRules
