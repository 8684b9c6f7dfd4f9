import CookbookRules.Yaml.Token
import CookbookRules.Yaml.Tag

/-!
# Nodes

A document as a table of nodes: scalars, sequences and mappings, each with its tag and the mark where it
starts. Nodes name each other by their numbers in the table. An alias is the number of the node that it
stands for, so a node may be part of several others, and even of itself.
-/

namespace CookbookRules.Yaml

/-- The number of a node. -/
abbrev NodeId := Nat

/-- The entries of a mapping: the numbers of keys and values. -/
abbrev NodeEntries := List (NodeId × NodeId)

/-- What a node holds. -/
inductive Content
  | scalar (spelling : Text.Spelling)
  | sequence (items : List NodeId)
  | mapping (entries : NodeEntries)
  deriving Repr

/-- A node of a document. -/
structure Node where
  tag : Tag
  mark : Mark
  content : Content
  deriving Repr

/-- The nodes of a document, by their numbers, and the number of the outermost one. -/
structure Graph where
  nodes : Array Node
  root : NodeId
  deriving Repr

namespace Node

/-- An empty scalar, which is null. -/
def emptyAt (mark : Mark) : Node := ⟨.null, mark, .scalar (.whole "")⟩

instance : Inhabited Node := ⟨emptyAt 0⟩

/-- The entries of a mapping; other nodes have none. -/
def entries (node : Node) : NodeEntries :=
  match node.content with
  | .mapping entries => entries
  | _ => []

/-- The node with other entries. -/
def withEntries (entries : NodeEntries) (node : Node) : Node :=
  { node with content := .mapping entries }

end Node

end CookbookRules.Yaml
