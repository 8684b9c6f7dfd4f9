import CookbookRules.Yaml.Node

/-!
# From tokens to nodes

A text holds one document, and a document one outermost node. `Graph.ofTokens` reads the tokens from left
to right and gives up at the first one that cannot stand where it stands. An anchor names the node behind
it for the aliases that follow, those inside the node included; a tag is written out in full with the
handles of the directives.
-/

namespace CookbookRules.Yaml

namespace Graph

/-- The tokens to come, the fault that ends them, the tag handles in force, and the anchors and nodes so
far. -/
structure Source where
  tokens : List Token
  fault : Option Fault
  handles : List (String × String)
  anchors : List (String × NodeId)
  nodes : Array Node

/-- A step that takes tokens and may find the text malformed. -/
abbrev Reading := StateT Source (Except Fault)

namespace Reading

/-- The next token. Behind the last one of a whole text there is only its end. -/
def peek : Reading Token := do
  let source ← get
  match source.tokens, source.fault with
  | token :: _, _ => pure token
  | [], some fault => throw fault
  | [], none => pure ⟨.streamEnd, 0, 0⟩

/-- Takes the next token. -/
def take : Reading Token := do
  let token ← peek
  modify fun source => { source with tokens := source.tokens.drop 1 }
  pure token

/-- Whether the next token is of one of several kinds. -/
def nextIs (kinds : List TokenKind) : Reading Bool := do
  pure (kinds.contains (← peek).kind)

/-- Gives up at a mark. -/
def refuse {α : Type} (mark : Mark) : Reading α := throw (.malformed mark)

/-- Gives up at the next token. -/
def refuseNext {α : Type} : Reading α := do refuse (← peek).start

/-- Adds a node to the table; from here on its anchor names it. -/
def add (anchor : Option String) (node : Node) : Reading NodeId := do
  let id := (← get).nodes.size
  let named := (anchor.map fun name => (name, id)).toList
  modify fun source =>
    { source with nodes := source.nodes.push node, anchors := named ++ source.anchors }
  pure id

/-- Gives a node its content. -/
def fill (id : NodeId) (content : Content) : Reading Unit :=
  modify fun source =>
    { source with nodes := source.nodes.modify id fun node => { node with content := content } }

end Reading

open Reading

/-! ## Properties -/

/-- The anchor and the tag before a node, and where they start. -/
structure Properties where
  anchor : Option String
  tag : Option String
  start : Option Mark

/-- Reads an anchor if one comes next. -/
def anchor? : Reading (Option (String × Mark)) := do
  let token ← peek
  match token.kind with
  | .anchor name => do discard take; pure (some (name, token.start))
  | _ => pure none

/-- Reads a tag if one comes next. -/
def tagToken? : Reading (Option (Option String × String × Mark)) := do
  let token ← peek
  match token.kind with
  | .tag handle suffix => do discard take; pure (some (handle, suffix, token.start))
  | _ => pure none

/-- A tag in full; its handle has to be declared. -/
def fullTag : Option String × String × Mark → Reading String
  | (none, suffix, _) => pure suffix
  | (some handle, suffix, mark) => do
    match (← get).handles.lookup handle with
    | some replacement => pure (replacement ++ suffix)
    | none => refuse mark

/-- Reads an anchor and a tag, in either order, as far as they are there. -/
def properties : Reading Properties := do
  match ← anchor? with
  | some (name, start) => do
    let tag ← (← tagToken?).mapM fullTag
    pure ⟨some name, tag, some start⟩
  | none =>
    match ← tagToken? with
    | none => pure ⟨none, none, none⟩
    | some written => do
      let anchor ← anchor?
      let tag ← fullTag written
      pure ⟨anchor.map (·.1), some tag, some written.2.2⟩

/-- Whether a node has a tag of its own; a lone exclamation mark is none. -/
def Properties.ownTag? (p : Properties) : Option Tag :=
  (p.tag.filter (· != "!")).map Tag.ofName

/-- The tag of a scalar: its own, or the one of its form if it is plain or marked to be read so. -/
def Properties.scalarTag (p : Properties) (plain : Bool) (text : String) : Tag :=
  match p.ownTag? with
  | some tag => tag
  | none => if plain || p.tag == some "!" then Tag.ofPlain text else .text

/-- An anchor may be declared once. -/
def refuseRepeated (p : Properties) (mark : Mark) : Reading Unit := do
  match p.anchor with
  | some name => if ((← get).anchors.lookup name).isSome then refuse mark
  | none => pure ()

/-- Where no content is written, the scalar is empty. -/
def emptyScalar (mark : Mark) : Reading NodeId :=
  add none (.emptyAt mark)

/-- Adds a scalar whose token was taken, or takes the properties alone for an empty one. -/
def scalarNode (p : Properties) (mark : Mark) (plain : Bool) (spelling : Text.Spelling) :
    Reading NodeId := do
  refuseRepeated p mark
  add p.anchor ⟨p.scalarTag plain spelling.text, mark, .scalar spelling⟩

/-- Reads a collection whose first token comes next. Its anchor names it while its content is read. -/
def collection (p : Properties) (ownTag : Tag) (mark : Mark) (content : Reading Content) :
    Reading NodeId := do
  refuseRepeated p mark
  let id ← add p.anchor { Node.emptyAt mark with tag := p.ownTag?.getD ownTag }
  fill id (← content)
  pure id

/-- Reads what follows an indicator, or the empty scalar behind it if one of the given tokens is next. -/
def unlessNext (kinds : List TokenKind) (indicator : Token) (content : Reading NodeId) :
    Reading NodeId := do
  if ← nextIs kinds then emptyScalar indicator.stop else content

/-- Reads the value behind a colon; without the colon the value is empty. -/
def valuePart (kinds : List TokenKind) (content : Reading NodeId) : Reading NodeId := do
  let token ← peek
  if token.kind = .value then do
    discard take
    unlessNext kinds token content
  else emptyScalar token.start

/-- Takes the comma between two items of a flow collection. -/
def comma (first : Bool) : Reading Unit := do
  if !first then
    if ← nextIs [.flowEntry] then discard take else refuseNext

/-! ## Nodes -/

mutual

/-- Reads a node. In a block, block collections may follow; at a key or value of a block mapping also a
sequence that is not indented. The bound is larger than the number of tokens can need. -/
def node : (bound : Nat) → (block indentless : Bool) → Reading NodeId
  | 0, _, _ => refuseNext
  | bound + 1, block, indentless => do
    let first ← peek
    if let .alias name := first.kind then
      discard take
      match (← get).anchors.lookup name with
      | some id => pure id
      | none => refuse first.start
    else
      let p ← properties
      let next ← peek
      let mark := p.start.getD next.start
      match next.kind with
      | .scalar plain spelling => do
        discard take
        scalarNode p mark plain spelling
      | .flowSequenceStart =>
        collection p .sequence mark do
          discard take
          .sequence <$> flowItems bound true
      | .flowMappingStart =>
        collection p .mapping mark do
          discard take
          .mapping <$> flowEntries bound true
      | kind =>
        if kind = .blockEntry && indentless then
          collection p .sequence mark (.sequence <$> indentlessItems bound)
        else if kind = .blockSequenceStart && block then
          collection p .sequence mark do
            discard take
            .sequence <$> blockItems bound
        else if kind = .blockMappingStart && block then
          collection p .mapping mark do
            discard take
            .mapping <$> blockEntries bound
        else if p.start.isSome then scalarNode p mark p.tag.isNone (.whole "")
        else refuse mark

/-- The items of a block sequence up to its end. -/
def blockItems : (bound : Nat) → Reading (List NodeId)
  | 0 => refuseNext
  | bound + 1 => do
    let token ← peek
    match token.kind with
    | .blockEntry => do
      discard take
      let item ← unlessNext [.blockEntry, .blockEnd] token (node bound true false)
      pure (item :: (← blockItems bound))
    | .blockEnd => do
      discard take
      pure []
    | _ => refuse token.start

/-- The items of a sequence that is not indented: it has no end token. -/
def indentlessItems : (bound : Nat) → Reading (List NodeId)
  | 0 => refuseNext
  | bound + 1 => do
    let token ← peek
    match token.kind with
    | .blockEntry => do
      discard take
      let item ← unlessNext [.blockEntry, .key, .value, .blockEnd] token (node bound true false)
      pure (item :: (← indentlessItems bound))
    | _ => pure []

/-- The entries of a block mapping up to its end. -/
def blockEntries : (bound : Nat) → Reading NodeEntries
  | 0 => refuseNext
  | bound + 1 => do
    let token ← peek
    match token.kind with
    | .key => do
      discard take
      let key ← unlessNext [.key, .value, .blockEnd] token (node bound true true)
      let value ← valuePart [.key, .value, .blockEnd] (node bound true true)
      pure ((key, value) :: (← blockEntries bound))
    | .blockEnd => do
      discard take
      pure []
    | _ => refuse token.start

/-- The items of a flow sequence up to its bracket. A key among them makes a mapping of one entry. -/
def flowItems : (bound : Nat) → (first : Bool) → Reading (List NodeId)
  | 0, _ => refuseNext
  | bound + 1, first => do
    if ← nextIs [.flowSequenceEnd] then
      discard take
      pure []
    else
      comma first
      let token ← peek
      match token.kind with
      | .key => do
        discard take
        let key ← unlessNext [.value, .flowEntry, .flowSequenceEnd] token (node bound false false)
        let value ← valuePart [.flowEntry, .flowSequenceEnd] (node bound false false)
        let pair ← add none ⟨.mapping, token.start, .mapping [(key, value)]⟩
        pure (pair :: (← flowItems bound false))
      | .flowSequenceEnd => do
        discard take
        pure []
      | _ => do
        let item ← node bound false false
        pure (item :: (← flowItems bound false))

/-- The entries of a flow mapping up to its brace. An item that is no key has the empty value. -/
def flowEntries : (bound : Nat) → (first : Bool) → Reading NodeEntries
  | 0, _ => refuseNext
  | bound + 1, first => do
    if ← nextIs [.flowMappingEnd] then
      discard take
      pure []
    else
      comma first
      let token ← peek
      match token.kind with
      | .key => do
        discard take
        let key ← unlessNext [.value, .flowEntry, .flowMappingEnd] token (node bound false false)
        let value ← valuePart [.flowEntry, .flowMappingEnd] (node bound false false)
        pure ((key, value) :: (← flowEntries bound false))
      | .flowMappingEnd => do
        discard take
        pure []
      | _ => do
        let key ← node bound false false
        let value ← emptyScalar (← peek).start
        pure ((key, value) :: (← flowEntries bound false))

end

/-! ## Documents -/

/-- The handles that need no directive. -/
def defaultHandles : List (String × String) :=
  [("!", "!"), ("!!", Tag.commonStart)]

/-- Reads directives. At most one of them gives the version, whose first number is one, and a handle is
declared at most once. -/
def directives : (bound : Nat) → (versioned : Bool) → (handles : List (String × String)) →
    Reading (List (String × String))
  | 0, _, handles => pure handles
  | bound + 1, versioned, handles => do
    let token ← peek
    match token.kind with
    | .versionDirective major _ => do
      discard take
      if versioned || major != 1 then refuse token.start
      directives bound true handles
    | .tagDirective handle replacement => do
      discard take
      if (handles.lookup handle).isSome then refuse token.start
      directives bound versioned (handles ++ [(handle, replacement)])
    | .otherDirective => do
      discard take
      directives bound versioned handles
    | _ => pure handles

/-- Skips the marks that end a document. -/
def skipDocumentEnds : (bound : Nat) → Reading Unit
  | 0 => pure ()
  | bound + 1 => do
    if ← nextIs [.documentEnd] then
      discard take
      skipDocumentEnds bound

/-- Whether a token begins a document that is announced by directives or a marker. -/
def announces : TokenKind → Bool
  | .versionDirective .. | .tagDirective .. | .otherDirective | .documentStart => true
  | _ => false

/-- Reads the announcement of a document and answers where it starts; nothing if the text ends. -/
def announcement (bound : Nat) : Reading (Option Mark) := do
  skipDocumentEnds bound
  let token ← peek
  if token.kind = .streamEnd then pure none
  else do
    let handles ← directives bound false []
    if !(← nextIs [.documentStart]) then refuseNext
    discard take
    modify fun source => { source with handles := handles ++ defaultHandles }
    pure (some token.start)

/-- The node of a document that was announced; it may be missing. -/
def announcedNode (bound : Nat) : Reading NodeId := do
  let token ← peek
  if announces token.kind || token.kind = .documentEnd || token.kind = .streamEnd then
    emptyScalar token.start
  else node bound true false

/-- Reads the one document of a text; nothing if there is none. -/
def document (bound : Nat) : Reading (Option NodeId) := do
  discard take
  let token ← peek
  let root? ←
    if announces token.kind || token.kind = .streamEnd then do
      match ← announcement bound with
      | none => pure none
      | some _ => some <$> announcedNode bound
    else some <$> node bound true false
  match root? with
  | none => pure none
  | some root => do
    if ← nextIs [.documentEnd] then discard take
    match ← announcement bound with
    | none => pure (some root)
    | some mark => refuse mark

/-- The nodes that a stream of tokens spells; nothing if the text is empty. -/
def ofTokens (stream : TokenStream) : Except Fault (Option Graph) := do
  let bound := 4 * stream.tokens.length + 16
  let (root?, source) ← (document bound).run ⟨stream.tokens, stream.fault, defaultHandles, [], #[]⟩
  pure (root?.map fun root => ⟨source.nodes, root⟩)

end Graph

end CookbookRules.Yaml
