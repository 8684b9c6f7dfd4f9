import CookbookRules.Files.Path

/-!
# Windows paths

A text read in the way of Windows: a drive, a root, and the components after them, with slashes of either
kind between them. A drive is a letter with a colon, or a share: the name of a machine behind two slashes
and a name on that machine. An extended path has a mark in front of its drive.
-/

namespace CookbookRules

/-- A drive, a root, and the components after them. -/
structure WindowsPath where
  drive : String
  root : String
  parts : List String
  deriving DecidableEq, Repr

namespace WindowsPath

/-- Slashes of either kind are read as the same. -/
def unified (c : Char) : Char := if c = '\\' then '/' else c

/-- The mark of an extended path and what follows it; a share behind the mark gets its slashes back. -/
def splitMark : List Char → List Char × List Char
  | '/' :: '/' :: '?' :: '/' :: 'U' :: 'N' :: 'C' :: '/' :: rest =>
    (['/', '/', '?', '/', 'U', 'N', 'C'], '/' :: '/' :: rest)
  | '/' :: '/' :: '?' :: '/' :: rest => (['/', '/', '?', '/'], rest)
  | cs => ([], cs)

/-- A share without its first slash, and what follows it. Neither of its names is cut off by a second
slash. -/
def splitShare? : List Char → Option (List Char × List Char)
  | '/' :: '/' :: rest =>
    let machine := rest.takeWhile (· != '/')
    match rest.dropWhile (· != '/') with
    | [] => none
    | _ :: behind =>
      if machine.isEmpty || behind.head? == some '/' then none
      else
        let name := behind.takeWhile (· != '/')
        some ('/' :: machine ++ '/' :: name, (behind.dropWhile (· != '/')).drop 1)
  | _ => none

/-- A letter with its colon, if there is one in front, and what follows it. -/
def splitLetter : List Char → List Char × List Char
  | c :: ':' :: rest => if c.isAlpha then ([c, ':'], rest) else ([], c :: ':' :: rest)
  | cs => ([], cs)

/-- The path that a text names. -/
def ofString (s : String) : WindowsPath :=
  let (mark, cs) := splitMark (s.toList.map unified)
  match splitShare? cs with
  | some (share, rest) =>
    let front := if mark.isEmpty then ['/'] else mark
    ⟨String.ofList (front ++ share), "/", Path.components rest⟩
  | none =>
    let (letter, rest) := splitLetter cs
    let root := if rest.head? = some '/' then "/" else ""
    ⟨String.ofList (mark ++ letter), root, Path.components rest⟩

/-- Whether a path starts from a drive or a root. -/
def isAnchored (p : WindowsPath) : Bool := p.drive != "" || p.root != ""

end WindowsPath

end CookbookRules
