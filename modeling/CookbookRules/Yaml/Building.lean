import CookbookRules.Yaml.Node
import CookbookRules.Yaml.Scalar
import CookbookRules.Value.SetOrder

/-!
# Building the values of nodes

The value of a document is built node by node, in an order that shows: where several nodes are faulty,
the first one that is built is the fault. A node that several others name is built once. A collection
waits until those that were met before it are filled, unless it stands inside one that is built at once,
as mappings that know their lines are. What is built at once cannot hold itself.

Merge keys are carried out in the nodes when a mapping is filled, and a key that is tagged as a value
becomes a plain text; so a node that is named again later is met as the earlier use left it.
-/

namespace CookbookRules.Yaml

/-- What a node stands for while the others are built: a value, or the collection of a node. -/
inductive Part
  | value (v : Value)
  | collection (id : NodeId)

/-- What a collection holds. -/
inductive Filling
  | list (items : List Part)
  | pairs (items : List (Part × Part))
  | set (items : List Value)
  | map (origin : Origin) (entries : List (Value × Part))

/-- The nodes as they are now, what was built of them, the nodes that are being built, and the collections
that wait to be filled. No more merge keys than the bound are ever in the nodes. -/
structure Building where
  nodes : Array Node
  mergeBound : Nat
  parts : Array (Option Part)
  fillings : Array (Option Filling)
  unfinished : List NodeId
  waiting : List NodeId

/-- A step of building. -/
abbrev Work := StateT Building (Except Fault)

/-- What building depends on: whether mappings know their lines and are built at once, and the text. -/
structure Setting where
  located : Bool
  text : List Char

namespace Building

/-- Nothing is built yet. -/
def start (nodes : Array Node) : Building :=
  let mergeBound := nodes.foldl (fun n node => n + node.entries.length) 0
  ⟨nodes, mergeBound, nodes.map fun _ => none, nodes.map fun _ => none, [], []⟩

/-- A node as it is now. -/
def node (b : Building) (id : NodeId) : Node := b.nodes.getD id default

/-- More than the levels that the nodes can have: no node is being built twice at a time. -/
def levels (b : Building) : Nat := b.nodes.size + 1

end Building

namespace Work

/-- A node as it is now. -/
def node (id : NodeId) : Work Node := do pure ((← get).node id)

/-- Gives up at a node. -/
def refuse {α : Type} (id : NodeId) : Work α := do throw (.malformed (← node id).mark)

/-- Changes a node. -/
def change (id : NodeId) (f : Node → Node) : Work Unit :=
  modify fun b => { b with nodes := b.nodes.modify id f }

/-! ## Merging -/

/-- Takes out the first entry with a merge key: the other entries, and its value. -/
def takeMerge (tagOf : NodeId → Tag) : NodeEntries → Option (NodeEntries × NodeId)
  | [] => none
  | (key, value) :: rest =>
    if tagOf key = .merge then some (rest, value)
    else (takeMerge tagOf rest).map fun (others, source) => ((key, value) :: others, source)

/-- A key that is tagged as a value is a plain text. -/
def plainKey (key : NodeId) : Work Unit := do
  if (← node key).tag = .value then change key fun node => { node with tag := .text }

/-- The entries of a mapping after its own merge keys are carried out. -/
def mergedEntries (merge : NodeId → Work Unit) (id : NodeId) : Work NodeEntries := do
  match (← node id).content with
  | .mapping _ => do
    merge id
    pure (← node id).entries
  | _ => refuse id

/-- The entries that the value of a merge key brings in. Of a list, the last mapping comes first. -/
def sourceEntries (merge : NodeId → Work Unit) (source : NodeId) : Work NodeEntries := do
  match (← node source).content with
  | .sequence items => do
    let brought ← items.mapM (mergedEntries merge)
    pure brought.reverse.flatten
  | _ => mergedEntries merge source

/-- Carries out the merge keys of a mapping. What they bring in comes before the entries of its own;
`brought` is what they have brought in so far. Every step but the last takes a merge key out of the nodes,
so the bound is larger than the number of those that are left. -/
def merge : (bound : Nat) → NodeId → (brought : NodeEntries) → Work Unit
  | 0, _, _ => pure ()
  | bound + 1, id, brought => do
    let b ← get
    let entries := (b.node id).entries
    match takeMerge (fun key => (b.node key).tag) entries with
    | some (others, source) => do
      change id (·.withEntries others)
      let more ← sourceEntries (fun item => merge bound item []) source
      merge bound id (brought ++ more)
    | none => do
      entries.forM fun (key, _) => plainKey key
      change id (·.withEntries (brought ++ entries))

/-! ## Scalars -/

/-- What a scalar tag reads: the spelling of a scalar, or of the value under the key `=` of a mapping.
The bound is larger than the number of nodes, so where it does not suffice there is no end. -/
def spelling : (bound : Nat) → NodeId → Work Text.Spelling
  | 0, _ => throw (.scalar .endless)
  | bound + 1, id => do
    let b ← get
    match (b.node id).content with
    | .scalar spelling => pure spelling
    | .sequence _ => refuse id
    | .mapping entries =>
      match entries.find? fun (key, _) => (b.node key).tag = .value with
      | some (_, value) => spelling bound value
      | none => refuse id

/-- The value of a node with a tag for scalars; other tags have none. A timestamp has to be a scalar
itself. -/
def scalarValue (id : NodeId) : Work Value := do
  let node ← node id
  if !node.tag.readsScalar then refuse id
  let spelling ← spelling (← get).levels id
  match node.tag, node.content with
  | .timestamp, .mapping _ => throw (.scalar .notPlain)
  | tag, _ =>
    match Scalar.read tag id spelling with
    | .ok (some value) => pure value
    | .ok none => refuse id
    | .error fault => throw (.scalar fault)

/-! ## Collections -/

/-- The items of a sequence. -/
def items (each : NodeId → Work Part) (id : NodeId) : Work (List Part) := do
  match (← node id).content with
  | .sequence items => items.mapM each
  | _ => refuse id

/-- Builds a key, which has to be hashable. -/
def key (each : NodeId → Work Part) (id : NodeId) : Work Value := do
  match ← each id with
  | .value v => if v.isHashable then pure v else refuse id
  | .collection _ => refuse id

/-- The entries of a mapping. -/
def entries (each : NodeId → Work Part) (id : NodeId) : Work (List (Value × Part)) := do
  let merged ← mergedEntries (fun id => do merge ((← get).mergeBound + 1) id []) id
  merged.mapM fun (keyId, valueId) => do
    let k ← key each keyId
    pure (k, ← each valueId)

/-- The pair of a mapping with one entry. -/
def pair (each : NodeId → Work Part) (id : NodeId) : Work (Part × Part) := do
  match (← node id).content with
  | .mapping [(keyId, valueId)] => do
    let k ← each keyId
    pure (k, ← each valueId)
  | _ => refuse id

/-- The pairs of a sequence of mappings. -/
def pairs (each : NodeId → Work Part) (id : NodeId) : Work (List (Part × Part)) := do
  match (← node id).content with
  | .sequence items => items.mapM (pair each)
  | _ => refuse id

/-- What the collection of a node holds; `each` builds the nodes inside, at once or not. -/
def filling (setting : Setting) (each : (atOnce : Bool) → NodeId → Work Part) (atOnce : Bool)
    (id : NodeId) : Work Filling := do
  let node ← node id
  match node.tag with
  | .omap | .pairs => .pairs <$> pairs (each atOnce) id
  | .set => do
    let entries ← entries (each atOnce) id
    let keys := (Value.ofEntries entries).map (·.1)
    pure (.set (Value.setItems keys.length keys))
  | .mapping => do
    let entries ← entries (each (atOnce || setting.located)) id
    let origin :=
      if setting.located then .located (some (lineAt setting.text node.mark)) else .plain
    pure (.map origin (Value.ofEntries entries))
  | _ => .list <$> items (each atOnce) id

/-- Fills the collection of a node. -/
def fill (setting : Setting) (each : (atOnce : Bool) → NodeId → Work Part) (atOnce : Bool)
    (id : NodeId) : Work Unit := do
  let filling ← filling setting each atOnce id
  modify fun b => { b with fillings := b.fillings.setIfInBounds id (some filling) }

/-- Whether a tag is one of a collection that may wait; a mapping that knows its line does not. -/
def mayWait (setting : Setting) : Tag → Bool
  | .sequence | .omap | .pairs | .set => true
  | .mapping => !setting.located
  | _ => false

/-- Builds a node that was not built before. -/
def buildNew (setting : Setting) (each : (atOnce : Bool) → NodeId → Work Part) (atOnce : Bool)
    (id : NodeId) : Work Part := do
  let tag := (← node id).tag
  if mayWait setting tag && !atOnce then
    modify fun b => { b with waiting := b.waiting ++ [id] }
    pure (.collection id)
  else if mayWait setting tag || tag = .mapping then
    fill setting each atOnce id
    pure (.collection id)
  else .value <$> scalarValue id

/-- Builds a node. The bound is larger than the number of nodes that are not being built. -/
def build (setting : Setting) : (bound : Nat) → (atOnce : Bool) → NodeId → Work Part
  | 0, _, id => refuse id
  | bound + 1, atOnce, id => do
    let b ← get
    match b.parts.getD id none with
    | some part => pure part
    | none => do
      if b.unfinished.contains id then refuse id
      modify fun b => { b with unfinished := id :: b.unfinished }
      let part ← buildNew setting (build setting bound) atOnce id
      modify fun b =>
        { b with
          parts := b.parts.setIfInBounds id (some part)
          unfinished := b.unfinished.erase id }
      pure part

/-- Fills the collections that wait, in the order in which they were met. Each node waits once at most,
so the bound is the number of nodes. -/
def fillWaiting (setting : Setting) : (bound : Nat) → Work Unit
  | 0 => pure ()
  | bound + 1 => do
    let b ← get
    match b.waiting with
    | [] => pure ()
    | id :: rest => do
      set { b with waiting := rest }
      fill setting (build setting b.levels) false id
      fillWaiting setting bound

end Work

/-! ## The whole value -/

namespace Building

/-- The value of a part, with that of all collections in it. A list that holds itself is cut off where it
comes again: `path` are the collections around, and no more of them than the bound are nested. -/
def value (b : Building) : (bound : Nat) → (path : List NodeId) → Part → Value
  | _, _, .value v => v
  | 0, _, .collection _ => .none
  | bound + 1, path, .collection id =>
    if path.contains id then .none
    else
      let part := b.value bound (id :: path)
      match b.fillings.getD id none with
      | none => .none
      | some (.list items) => .list (items.map part)
      | some (.pairs items) => .list (items.map fun (k, v) => .tuple [part k, part v])
      | some (.set items) => .set items
      | some (.map origin entries) => .map origin (entries.map fun (k, v) => (k, part v))

end Building

/-- The value of a document. -/
def Graph.value (setting : Setting) (graph : Graph) : Except Fault Value := do
  let work : Work Part := do
    let part ← Work.build setting (← get).levels false graph.root
    Work.fillWaiting setting graph.nodes.size
    pure part
  let (part, built) ← work.run (.start graph.nodes)
  pure (built.value built.levels [] part)

end CookbookRules.Yaml
