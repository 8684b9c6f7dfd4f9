import CookbookRules.Text.Blank

/-!
# Paths

A path is an anchor and the components after it. Writing a path down drops empty components and single
dots; exactly two leading slashes are an anchor of their own, any other number of them is one.
-/

namespace CookbookRules

/-- What a path starts from. -/
inductive Anchor
  | relative
  | root
  | doubleRoot
  deriving DecidableEq, Repr

/-- An anchor and the components after it. -/
structure Path where
  anchor : Anchor
  parts : List String
  deriving DecidableEq, Repr

namespace Path

/-- The anchor that a text's leading slashes stand for. -/
def anchorOf (cs : List Char) : Anchor :=
  match (cs.takeWhile (· == '/')).length with
  | 0 => .relative
  | 2 => .doubleRoot
  | _ => .root

/-- The components of a text between slashes. -/
def components (cs : List Char) : List String :=
  ((Text.splitOn (· == '/') cs).map String.ofList).filter fun part => part != "" && part != "."

/-- No component is empty or a single dot. -/
theorem ne_of_mem_components {cs : List Char} {part : String} (h : part ∈ components cs) :
    part ≠ "" ∧ part ≠ "." := by
  simpa [components] using (List.mem_filter.1 h).2

/-- The path that a text names. -/
def ofString (s : String) : Path :=
  ⟨anchorOf s.toList, components s.toList⟩

/-- The text of an anchor. -/
def anchorText : Anchor → String
  | .relative => ""
  | .root => "/"
  | .doubleRoot => "//"

/-- The text of a path; the empty relative path is a dot. -/
def toString (p : Path) : String :=
  if p.anchor = .relative && p.parts.isEmpty then "."
  else anchorText p.anchor ++ String.intercalate "/" p.parts

instance : ToString Path := ⟨toString⟩

/-- Whether a path holds a null character, which no file's name does. -/
def hasNull (p : Path) : Bool :=
  p.parts.any (·.toList.contains '\x00')

/-- Whether a path starts from a root. -/
def isAbsolute (p : Path) : Bool :=
  p.anchor != .relative

/-- The second path seen from the first; an absolute one is kept as it is. -/
def join (p q : Path) : Path :=
  if q.isAbsolute then q else ⟨p.anchor, p.parts ++ q.parts⟩

/-- A path extended by components below it. -/
def descend (p : Path) (parts : List String) : Path :=
  ⟨p.anchor, p.parts ++ parts⟩

/-- The path without its last component. -/
def parent (p : Path) : Path :=
  ⟨p.anchor, p.parts.dropLast⟩

/-- A component's ending from its last dot on, unless the dot is its first or last character. -/
def suffixOf (name : String) : String :=
  let reversed := name.toList.reverse
  let ending := reversed.takeWhile (· != '.')
  if ending.isEmpty || reversed.length ≤ ending.length + 1 then ""
  else String.ofList ('.' :: ending.reverse)

/-- Resolves double dots by dropping the component before each. -/
def foldDots (parts : List String) : List String :=
  parts.foldl (fun kept part => if part = ".." then kept.dropLast else kept ++ [part]) []

/-- The absolute path that a path names from a directory, without double dots. -/
def resolve (base p : Path) : Path :=
  ⟨.root, foldDots (base.join p).parts⟩

end Path

end CookbookRules
