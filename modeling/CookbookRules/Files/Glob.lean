import CookbookRules.Files.Tree
import CookbookRules.Text.Quoted

/-!
# Glob patterns

A pattern selects files below a directory, component by component. `**` stands for any number of
directories; in any other component `*` stands for any characters, `?` for one, and brackets for one of
a set, where an exclamation mark negates the set and a bracket that is never closed stands for itself.
A component without any of these is looked up as a name.
-/

namespace CookbookRules.Glob

/-- A set of characters: those in one of its ranges or, negated, all others. -/
structure CharSet where
  negated : Bool
  ranges : List (Char × Char)
  deriving DecidableEq, Repr

/-- One step of a component with wildcards. -/
inductive Piece
  | literal (c : Char)
  | anyChar
  | anyText
  | oneOf (set : CharSet)
  deriving DecidableEq, Repr

/-- A component of a pattern. -/
inductive Component
  | anyDirectories
  | name (pieces : List Piece)
  deriving DecidableEq, Repr

/-- A pattern; one that ends in a slash selects directories only. -/
structure Pattern where
  components : List Component
  directoriesOnly : Bool
  deriving DecidableEq, Repr

/-- Why a text is no pattern. -/
inductive Fault
  | empty
  | noComponent
  | onlySlash
  | mixedStars
  deriving DecidableEq, Repr

/-- The wording of a fault. -/
def Fault.message : Fault → String
  | .empty => "Unacceptable pattern: ''"
  | .noComponent => "tuple index out of range"
  | .onlySlash => "'_TerminatingSelector' object has no attribute 'select_from'"
  | .mixedStars => "Invalid pattern: '**' can only be an entire path component"

/-- Cuts the inside of a set at each hyphen that joins two characters: the first hyphen counts from
the second character on, each later one from the second character after the one before. -/
def chunks : (wait : Nat) → (current : List Char) → List Char → List (List Char)
  | _, current, [] => [current.reverse]
  | wait + 1, current, c :: rest => chunks wait (c :: current) rest
  | 0, current, '-' :: rest => current.reverse :: chunks 2 [] rest
  | 0, current, c :: rest => chunks 0 (c :: current) rest

/-- An empty last chunk means that the last hyphen stands for itself. -/
def closeChunks (all : List (List Char)) : List (List Char) :=
  match all.reverse with
  | [] :: last :: before => ((last ++ ['-']) :: before).reverse
  | _ => all

/-- Joins two chunks whose hyphen would make a range that runs backwards; its ends fall away. -/
def mergeBackward : List (List Char) → List (List Char)
  | [] => []
  | chunk :: rest =>
    match mergeBackward rest with
    | [] => [chunk]
    | next :: others =>
      match chunk.getLast?, next.head? with
      | some low, some high =>
        if high < low then (chunk.dropLast ++ next.drop 1) :: others else chunk :: next :: others
      | _, _ => chunk :: next :: others

/-- The ranges that chunks stand for: from the last of each to the first of the next, and each other
character by itself. A hyphen with nothing in front stands for itself. -/
def chunkRanges : List (List Char) → List (Char × Char)
  | [] => []
  | [chunk] => chunk.map fun c => (c, c)
  | chunk :: next :: rest =>
    let joint :=
      match chunk.getLast?, next.head? with
      | some low, some high => (low, high)
      | _, _ => ('-', '-')
    chunk.map (fun c => (c, c)) ++ joint :: chunkRanges (next :: rest)

/-- The chunks of the inside of a set without the ranges that run backwards. An exclamation mark in front
is the end of no range. -/
def setChunks (inside : List Char) : List (List Char) :=
  if inside.contains '-' then
    mergeBackward (closeChunks (chunks (if inside.head? = some '!' then 2 else 1) [] inside))
  else [inside]

namespace CharSet

/-- The set that is written with an inside between brackets. It is negated if an exclamation mark is in
front once the ranges that run backwards have fallen away, so the mark need not be the first character. -/
def ofInside (inside : List Char) : CharSet :=
  match setChunks inside with
  | ('!' :: first) :: rest => ⟨true, chunkRanges (first :: rest)⟩
  | all => ⟨false, chunkRanges all⟩

/-- Whether a set holds a character. -/
def holds (set : CharSet) (c : Char) : Bool :=
  (set.ranges.any fun (low, high) => low ≤ c && c ≤ high) != set.negated

end CharSet

/-- The inside of the set after an opening bracket and what follows it; a closing bracket in the first
place, or behind an exclamation mark in the first place, belongs to the set. -/
def splitSet? (cs : List Char) : Option (List Char × List Char) :=
  let (first, rest) :=
    match cs with
    | '!' :: ']' :: rest => (['!', ']'], rest)
    | ']' :: rest => ([']'], rest)
    | rest => ([], rest)
  match rest.dropWhile (· != ']') with
  | [] => none
  | _ :: after => some (first ++ rest.takeWhile (· != ']'), after)

/-- The pieces of a component; the bound is the number of characters left. -/
def piecesFrom : Nat → List Char → List Piece
  | 0, _ | _, [] => []
  | bound + 1, '*' :: rest => .anyText :: piecesFrom bound rest
  | bound + 1, '?' :: rest => .anyChar :: piecesFrom bound rest
  | bound + 1, '[' :: rest =>
    match splitSet? rest with
    | some (inside, after) => .oneOf (.ofInside inside) :: piecesFrom bound after
    | none => .literal '[' :: piecesFrom bound rest
  | bound + 1, c :: rest => .literal c :: piecesFrom bound rest

/-- Whether two stars stand side by side. -/
def hasDoubleStar : List Char → Bool
  | '*' :: '*' :: _ => true
  | _ :: rest => hasDoubleStar rest
  | [] => false

/-- Reads a component. -/
def Component.ofString (s : String) : Except Fault Component :=
  let cs := s.toList
  if s = "**" then .ok .anyDirectories
  else if hasDoubleStar cs then .error .mixedStars
  else .ok (.name (piecesFrom cs.length cs))

/-- Reads a pattern. -/
def Pattern.ofString (s : String) : Except Fault Pattern :=
  let parts := Path.components s.toList
  let slash := s.toList.getLast? == some '/'
  if s = "" then .error .empty
  else if parts.isEmpty then .error (if slash then .onlySlash else .noComponent)
  else (⟨·, slash⟩) <$> parts.mapM Component.ofString

/-- Whether a list, or the list without its first items, passes a test. -/
def anySuffix {α : Type} (test : List α → Bool) : List α → Bool
  | [] => test []
  | a :: rest => test (a :: rest) || anySuffix test rest

/-- Whether pieces match a whole name. -/
def piecesMatch : List Piece → List Char → Bool
  | [], cs => cs.isEmpty
  | .literal a :: ps, c :: cs => a == c && piecesMatch ps cs
  | .anyChar :: ps, _ :: cs => piecesMatch ps cs
  | .oneOf set :: ps, c :: cs => set.holds c && piecesMatch ps cs
  | .anyText :: ps, cs => anySuffix (piecesMatch ps) cs
  | _ :: _, [] => false

/-- Whether components match a whole row of names. -/
def componentsMatch : List Component → List String → Bool
  | [], names => names.isEmpty
  | .name pieces :: rest, name :: names => piecesMatch pieces name.toList && componentsMatch rest names
  | .name _ :: _, [] => false
  | .anyDirectories :: rest, names => anySuffix (componentsMatch rest) names

/-- Whether a pattern selects a file: its name is matched by a component of its own. -/
def Pattern.selects (pattern : Pattern) (names : List String) : Bool :=
  !pattern.directoriesOnly && pattern.components.getLast? != some .anyDirectories &&
    componentsMatch pattern.components names

/-- The character of a step that only stands for itself; an opening bracket is not counted as one. -/
def Piece.plain? : Piece → Option Char
  | .literal c => if c = '[' then none else some c
  | _ => none

/-- The name that a component is looked up by. -/
def Component.name? : Component → Option String
  | .anyDirectories => none
  | .name pieces => String.ofList <$> pieces.mapM Piece.plain?

/-- The paths that a row of components looks up below a tree, as names and in their order. `**` lists every
directory, once what is behind it has been looked for there. A component without wildcards looks up its name,
there or not, and any other lists the directory. Either is followed at the entries that it matches, which have
to be directories unless it is the last; what has been matched in the end is looked up as well. -/
def lookUps (directoriesOnly : Bool) : List Component → FileTree → List (List String)
  | [], _ => [[]]
  | .anyDirectories :: rest, tree =>
    tree.directories.flatMap fun (above, inner) =>
      (lookUps directoriesOnly rest inner ++ [[]]).map (above ++ ·)
  | .name pieces :: rest, tree =>
    let followed := tree.entries.filter fun (name, inner) =>
      piecesMatch pieces name.toList && (inner.isDirectory || rest.isEmpty && !directoriesOnly)
    (Component.name? (.name pieces)).toList ::
      followed.flatMap fun (name, inner) => (lookUps directoriesOnly rest inner).map (name :: ·)

/-- The directory at a path as the tree that a pattern selects from, once all that the pattern looks up there
has been looked up; anything else is no such tree. -/
def Pattern.search (pattern : Pattern) (files : Files) (root : Path) :
    Except ReadFault (Option FileTree) := do
  match ← files.look root with
  | some (.directory entries) => do
    let visited := lookUps pattern.directoriesOnly pattern.components (.directory entries)
    visited.forM fun names => files.visit (root.descend names)
    pure (some (.directory entries))
  | _ => pure none

/-- The files of a tree that a pattern selects, as relative paths in ascending order. -/
def Pattern.hits (pattern : Pattern) (tree : FileTree) : List String :=
  ((tree.inside.filter pattern.selects).map (String.intercalate "/")).mergeSort (· ≤ ·)

/-- The files below a directory that a pattern selects; below anything else there are none. -/
def Pattern.run (pattern : Pattern) (files : Files) (root : Path) : Except ReadFault (List String) := do
  pure ((← pattern.search files root).elim [] pattern.hits)

/-- The pattern that selects everything below a directory. -/
def everything : Pattern := ⟨[.anyDirectories, .name [.anyText]], false⟩

end CookbookRules.Glob
