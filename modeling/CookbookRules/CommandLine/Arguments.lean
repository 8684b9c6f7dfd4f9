import CookbookRules.CommandLine.Flag
import CookbookRules.Files.Path
import CookbookRules.Text.Digit
import CookbookRules.Text.Quoted

/-!
# Reading a command line

The words before the command belong to the top level, those behind it to the command; but every word is
first looked at by the top level, so one that is ambiguous there is refused wherever it stands. Flags
may be shortened as long as only one is meant, short ones may be joined, and a value may be attached. An
attached value of two hyphens is dropped: the flag counts as given, but has nothing to show for it. Words
that no level can use are refused together at the end.
-/

namespace CookbookRules.CommandLine

/-- The two forms of a listing. -/
inductive ListingForm
  | text
  | json
  deriving DecidableEq, Repr

/-- A value of a flag, or nothing where the value was dropped. -/
abbrev Given (α : Type) := Option α

/-- What a command line asks for beside the command. -/
structure Settings where
  verbose : Bool
  root : Given Path
  config : Option (Given Path)
  included : List (Given Path)
  noBundled : Bool
  tags : List (Given String)
  form : ListingForm
  paths : List Path

/-- The settings of a command line without flags. -/
def Settings.initial : Settings :=
  ⟨false, some (Path.ofString "."), none, [], false, [], .text, []⟩

/-- What is wrong with a command line. -/
inductive Fault
  | ambiguous (given : String) (candidates : List String)
  | ignoredValue (flag : Flag) (value : String)
  | missingValue (flag : Flag)
  | badForm (value : String)
  | badCommand (value : String)
  | required (name : String)
  | unrecognized (words : List String)
  deriving DecidableEq, Repr

/-- Words in quotes, between commas. -/
def quotedList (words : List String) : String :=
  String.intercalate ", " (words.map Text.quoted)

/-- The wording of a fault. -/
def Fault.message : Fault → String
  | ambiguous given candidates =>
    let all := String.intercalate ", " candidates
    s!"ambiguous option: {given} could match {all}"
  | ignoredValue flag value =>
    s!"argument {flag.title}: ignored explicit argument {Text.quoted value}"
  | missingValue flag => s!"argument {flag.title}: expected one argument"
  | badForm value =>
    let choices := quotedList ["json", "text"]
    s!"argument --format: invalid choice: {Text.quoted value} (choose from {choices})"
  | badCommand value =>
    let choices := quotedList (Command.all.map (·.name))
    s!"argument command: invalid choice: {Text.quoted value} (choose from {choices})"
  | required name => s!"the following arguments are required: {name}"
  | unrecognized words =>
    let all := String.intercalate " " words
    s!"unrecognized arguments: {all}"

/-- What ends a command line before anything is run. -/
inductive Stop
  | fault (level : Level) (fault : Fault)
  | help (level : Level)
  | version
  deriving DecidableEq, Repr

/-! ## Words -/

/-- A word as a level sees it. -/
inductive Word
  | argument (given : String)
  | divider
  | flag (given : String) (flag : Flag) (name : String) (attached : Option String)
  | unknown (given : String)
  deriving DecidableEq, Repr

/-- The word as it was given. -/
def Word.given : Word → String
  | argument given | flag given _ _ _ | unknown given => given
  | divider => "--"

/-- Splits at the first equals sign, if there is one. -/
def splitValue? (given : String) : Option (String × String) :=
  let cs := given.toList
  match cs.dropWhile (· != '=') with
  | _ :: value => some (String.ofList (cs.takeWhile (· != '=')), String.ofList value)
  | [] => none

/-- A flag that a word can mean: the flag, its spelling and the value attached. -/
abbrev Candidate := Flag × String × Option String

/-- The flags that a word with two hyphens can be short for. -/
def longCandidates (level : Level) (given : String) : List Candidate :=
  let (start, attached) :=
    match splitValue? given with
    | some (start, attached) => (start, some attached)
    | none => (given, none)
  (level.spellings.filter fun (name, _) => name.startsWith start).map fun (name, flag) =>
    (flag, name, attached)

/-- The flags that a word with one hyphen can mean: a letter with the rest of the word as its value, or
a spelling that begins with the word. -/
def shortCandidates (level : Level) (given : String) : List Candidate :=
  let letter := String.ofList (given.toList.take 2)
  let value := String.ofList (given.toList.drop 2)
  level.spellings.filterMap fun (name, flag) =>
    if name = letter then some (flag, name, some value)
    else if name.startsWith given then some (flag, name, none)
    else none

/-- Whether a text is a row of digits. -/
def isDigits (cs : List Char) : Bool :=
  !cs.isEmpty && cs.all fun c => (Text.digitValue? c).isSome

/-- A text without the line feed at its end, if there is one. -/
def withoutLineEnd (cs : List Char) : List Char :=
  if cs.getLast? = some '\n' then cs.dropLast else cs

/-- Whether a word is a negative number, whole or with a point. A line feed at its end does not matter. -/
def isNegativeNumber (given : String) : Bool :=
  match withoutLineEnd given.toList with
  | '-' :: rest =>
    isDigits rest ||
      match rest.dropWhile (· != '.') with
      | _ :: fraction =>
        (rest.takeWhile (· != '.')).all (fun c => (Text.digitValue? c).isSome) && isDigits fraction
      | [] => false
  | _ => false

/-- The flag that a word spells out, alone or with an attached value. -/
def spelledFlag? (level : Level) (given : String) : Option Candidate :=
  match level.spellings.lookup given with
  | some flag => some (flag, given, none)
  | none => do
    let (name, attached) ← splitValue? given
    let flag ← level.spellings.lookup name
    pure (flag, name, some attached)

/-- How a level sees a word that begins with a hyphen and has more than that. -/
def classifyHyphen (level : Level) (given : String) : Except Stop Word :=
  match spelledFlag? level given with
  | some (flag, name, attached) => .ok (.flag given flag name attached)
  | none =>
    let candidates :=
      if given.startsWith "--" then longCandidates level given else shortCandidates level given
    match candidates with
    | [(flag, name, attached)] => .ok (.flag given flag name attached)
    | [] =>
      .ok (if isNegativeNumber given || given.contains ' ' then .argument given else .unknown given)
    | several => .error (.fault level (.ambiguous given (several.map fun (_, name, _) => name)))

/-- How a level sees words. Behind two hyphens that stand alone, everything is an argument. -/
def classify (level : Level) : List String → Except Stop (List Word)
  | [] => .ok []
  | given :: rest =>
    if given = "--" then .ok (.divider :: rest.map .argument)
    else if given.startsWith "-" && given != "-" then do
      let word ← classifyHyphen level given
      pure (word :: (← classify level rest))
    else (.argument given :: ·) <$> classify level rest

/-! ## Flags -/

/-- What a word with flags sets: flags with their values, and perhaps a last one whose value is the next
word. -/
structure Raised where
  settled : List (Flag × Option String)
  pending : Option Flag

/-- A flag without a value attached. -/
def raiseAlone (flag : Flag) : Raised :=
  if flag.takesValue then ⟨[], some flag⟩ else ⟨[(flag, none)], none⟩

/-- Takes a word with a value apart. What is attached to a short flag that takes no value is further short
flags in the same word, each by its letter. -/
def raiseWith (level : Level) (flag : Flag) (short : Bool) : (value : List Char) → Except Fault Raised
  | [] =>
    if flag.takesValue then .ok ⟨[(flag, some "")], none⟩ else .error (.ignoredValue flag "")
  | c :: rest =>
    let value := String.ofList (c :: rest)
    if flag.takesValue then .ok ⟨[(flag, some value)], none⟩
    else if !short then .error (.ignoredValue flag value)
    else
      match level.spellings.lookup (String.ofList ['-', c]) with
      | none => .error (.ignoredValue flag value)
      | some next => do
        let raised ←
          match rest with
          | [] => pure (raiseAlone next)
          | rest => raiseWith level next true rest
        pure { raised with settled := (flag, none) :: raised.settled }

/-- What a flag with its attached value sets. -/
def raise (level : Level) (flag : Flag) (name : String) : Option String → Except Fault Raised
  | none => .ok (raiseAlone flag)
  | some value => raiseWith level flag (!name.startsWith "--") value.toList

/-- The value of a flag; two hyphens are dropped. -/
def givenValue (value : Option String) : Given String :=
  value.filter (· != "--")

/-- The path that the value of a flag stands for. -/
def givenPath (value : Option String) : Given Path :=
  (givenValue value).map Path.ofString

/-- The form of a listing that the value of a flag names. -/
def formOf : Given String → Except Fault ListingForm
  | none => .ok .text
  | some value =>
    if value = "text" then .ok .text
    else if value = "json" then .ok .json
    else .error (.badForm value)

/-- Carries out one flag. -/
def setFlag (level : Level) (settings : Settings) : Flag × Option String → Except Stop Settings
  | (.help, _) => .error (.help level)
  | (.version, _) => .error .version
  | (.verbose, _) => .ok { settings with verbose := true }
  | (.noBundled, _) => .ok { settings with noBundled := true }
  | (.root, value) => .ok { settings with root := givenPath value }
  | (.config, value) => .ok { settings with config := some (givenPath value) }
  | (.included, value) => .ok { settings with included := settings.included ++ [givenPath value] }
  | (.tags, value) => .ok { settings with tags := settings.tags ++ [givenValue value] }
  | (.format, value) => do
    let form ← (formOf (givenValue value)).mapError (.fault level)
    pure { settings with form := form }

/-- Carries out flags in their order. -/
def setFlags (level : Level) (settings : Settings) (flags : List (Flag × Option String)) :
    Except Stop Settings :=
  flags.foldlM (setFlag level) settings

/-! ## Levels -/

/-- Whether the paths of a command are still to come, are being given, or have been given. -/
inductive Progress
  | waiting
  | taking
  | done
  deriving DecidableEq, Repr

/-- Reads the words behind a command; the answer holds the words that it cannot use. -/
def readUnder (level : Level) (progress : Progress) (settings : Settings) :
    List Word → Except Stop (Settings × List String)
  | [] => if progress = .waiting then .error (.fault level (.required "paths")) else .ok (settings, [])
  | .unknown given :: rest => do
    let next := if progress = .taking then .done else progress
    let (after, extras) ← readUnder level next settings rest
    pure (after, given :: extras)
  | .divider :: rest =>
    if progress = .taking || (progress = .waiting && !rest.isEmpty) then
      readUnder level progress settings rest
    else do
      let (after, extras) ← readUnder level progress settings rest
      pure (after, "--" :: extras)
  | .argument given :: rest =>
    if progress = .done then do
      let (after, extras) ← readUnder level progress settings rest
      pure (after, given :: extras)
    else
      readUnder level .taking { settings with paths := settings.paths ++ [Path.ofString given] } rest
  | .flag _ flag name attached :: rest => do
    let next := if progress = .taking then .done else progress
    let raised ← (raise level flag name attached).mapError (.fault level)
    match raised.pending with
    | none => readUnder level next (← setFlags level settings raised.settled) rest
    | some last =>
      match rest with
      | .argument given :: rest =>
        readUnder level next (← setFlags level settings (raised.settled ++ [(last, some given)])) rest
      | _ => throw (.fault level (.missingValue last))

/-- A command line that was read. -/
structure Request where
  command : Command
  settings : Settings

/-- Reads the words of a command. -/
def readCommand (command : Command) (settings : Settings) (words : List String) :
    Except Stop (Settings × List String) := do
  let level : Level := .under command
  let progress : Progress := if command = .validateRules then .waiting else .done
  readUnder level progress settings (← classify level words)

/-- Reads the words of the top level up to the command; `extras` are those that it cannot use. -/
def readTop (settings : Settings) (extras : List String) : List Word → Except Stop Request
  | [] | [.divider] => .error (.fault .top (.required "command"))
  | .divider :: _ :: _ => .error (.fault .top (.badCommand "--"))
  | .unknown given :: rest => readTop settings (extras ++ [given]) rest
  | .flag _ flag name attached :: rest => do
    let raised ← (raise .top flag name attached).mapError (.fault .top)
    readTop (← setFlags .top settings raised.settled) extras rest
  | .argument given :: rest =>
    match Command.ofName? given with
    | none => .error (.fault .top (.badCommand given))
    | some command => do
      let (after, unused) ← readCommand command settings (rest.map Word.given)
      let all := extras ++ unused
      if all.isEmpty then pure ⟨command, after⟩ else throw (.fault .top (.unrecognized all))

/-- Reads a command line. -/
def readArguments (words : List String) : Except Stop Request := do
  readTop .initial [] (← classify .top words)

end CookbookRules.CommandLine
