import CookbookRules.Proofs.Yaml.Steps
import CookbookRules.Proofs.Yaml.Lexing
import CookbookRules.Yaml.Node.Reader

/-!
# The reader stays in the text

The marks of the nodes that are read are marks of tokens, and so are the places at which the reader gives up.
So where the tokens lie in a text, the nodes and the fault do too.
-/

namespace CookbookRules.Yaml

/-- What holds of each item, and of an item that is changed as far as it held before, holds after a change. -/
theorem forall_mem_modify {α : Type} {xs : Array α} {i : Nat} {f : α → α} {P : α → Prop}
    (each : ∀ a ∈ xs, P a) (changed : ∀ a, P a → P (f a)) : ∀ a ∈ xs.modify i f, P a := by
  intro a member
  obtain ⟨j, short, rfl⟩ := Array.mem_iff_getElem.1 member
  rw [Array.getElem_modify]
  split
  · exact changed _ (each _ (Array.getElem_mem _))
  · exact each _ (Array.getElem_mem _)

namespace Graph

/-- The tokens to come, the fault that ends them and the nodes so far lie in a text of so many characters. -/
structure Source.IsWithin (size : Nat) (source : Source) : Prop where
  tokens : ∀ token ∈ source.tokens, token.IsWithin size
  fault : ∀ fault ∈ source.fault, fault.IsWithin size
  nodes : ∀ node ∈ source.nodes, node.mark ≤ size

namespace Reading

/-- A step of reading keeps to the text, and what it answers has a property. -/
abbrev Yields {α : Type} (size : Nat) (step : Reading α) (P : α → Prop) : Prop :=
  Stays size (Source.IsWithin size) step P

/-- A step of reading keeps to the text. -/
abbrev Keeps {α : Type} (size : Nat) (step : Reading α) : Prop := Yields size step fun _ => True

variable {size : Nat} {α : Type} {P : α → Prop} {mark : Mark}

theorem yields_peek : Yields size peek (·.IsWithin size) := by
  unfold peek
  refine stays_get.bind fun source within => ?_
  split
  · next there => exact stays_pure (within.tokens _ (there ▸ List.mem_cons_self))
  · next there => exact stays_throw (within.fault _ there)
  · exact stays_pure ⟨Nat.zero_le _, Nat.zero_le _⟩

theorem yields_take : Yields size take (·.IsWithin size) := by
  unfold take
  refine yields_peek.bind fun token within => ?_
  refine (stays_modify fun source sound => ?_).bind fun _ _ => stays_pure within
  exact ⟨fun other member => sound.tokens other (List.mem_of_mem_drop member), sound.fault, sound.nodes⟩

theorem keeps_discard_take : Keeps size (discard take) :=
  yields_take.mapped

theorem keeps_nextIs (kinds : List TokenKind) : Keeps size (nextIs kinds) :=
  yields_peek.bind fun _ _ => stays_pure trivial

theorem yields_refuse (within : mark ≤ size) : Yields size (refuse mark) P :=
  stays_throw within

theorem yields_refuseNext : Yields size refuseNext P :=
  yields_peek.bind fun _ within => yields_refuse within.start

theorem keeps_add (anchor : Option String) {node : Node} (within : node.mark ≤ size) :
    Keeps size (add anchor node) := by
  unfold add
  refine stays_get.bind fun source _ => ?_
  refine (stays_modify fun source sound => ?_).bind fun _ _ => stays_pure trivial
  refine ⟨sound.tokens, sound.fault, fun other member => ?_⟩
  rcases Array.mem_push.1 member with old | rfl
  · exact sound.nodes other old
  · exact within

theorem keeps_fill (id : NodeId) (content : Content) : Keeps size (fill id content) := by
  refine stays_modify fun source sound => ⟨sound.tokens, sound.fault, ?_⟩
  dsimp only
  refine forall_mem_modify (P := fun node : Node => node.mark ≤ size) sound.nodes ?_
  exact fun _ within => within

end Reading

open Reading

variable {size : Nat} {mark : Mark} {p : Properties} {content : Reading NodeId}

/-! ## Properties -/

theorem yields_anchor? : Yields size anchor? fun answer => ∀ found ∈ answer, found.2 ≤ size := by
  unfold anchor?
  refine yields_peek.bind fun token within => ?_
  split
  · exact keeps_discard_take.bind fun _ _ => stays_pure (by rintro _ ⟨⟩; exact within.start)
  · exact stays_pure nofun

theorem yields_tagToken? : Yields size tagToken? fun answer => ∀ found ∈ answer, found.2.2 ≤ size := by
  unfold tagToken?
  refine yields_peek.bind fun token within => ?_
  split
  · exact keeps_discard_take.bind fun _ _ => stays_pure (by rintro _ ⟨⟩; exact within.start)
  · exact stays_pure nofun

theorem keeps_fullTag {written : Option String × String × Mark} (within : written.2.2 ≤ size) :
    Keeps size (fullTag written) := by
  unfold fullTag
  split
  · exact stays_pure trivial
  · refine stays_get.bind fun source _ => ?_
    split
    · exact stays_pure trivial
    · exact yields_refuse within

/-- Properties start at a place of the text. -/
theorem yields_properties : Yields size properties fun p => ∀ mark ∈ p.start, mark ≤ size := by
  unfold properties
  refine yields_anchor?.bind fun anchor anchored => ?_
  split
  · refine yields_tagToken?.bind fun written within => ?_
    have full : Keeps size (written.mapM fullTag) := by
      cases written with
      | none => exact stays_pure trivial
      | some written => exact (keeps_fullTag (within written rfl)).mapped
    exact full.bind fun _ _ => stays_pure (by rintro _ ⟨⟩; exact anchored _ rfl)
  · refine yields_tagToken?.bind fun written within => ?_
    split
    · exact stays_pure nofun
    · refine yields_anchor?.bind fun _ _ => (keeps_fullTag (within _ rfl)).bind fun _ _ => ?_
      exact stays_pure (by rintro _ ⟨⟩; exact within _ rfl)

/-! ## Nodes -/

theorem keeps_refuseRepeated (p : Properties) (within : mark ≤ size) : Keeps size (refuseRepeated p mark) := by
  unfold refuseRepeated
  split
  · refine stays_get.bind fun source _ => ?_
    split
    · exact yields_refuse within
    · exact stays_pure trivial
  · exact stays_pure trivial

theorem keeps_emptyScalar (within : mark ≤ size) : Keeps size (emptyScalar mark) :=
  keeps_add none within

theorem keeps_scalarNode {plain : Bool} {spelling : Text.Spelling} (within : mark ≤ size) :
    Keeps size (scalarNode p mark plain spelling) :=
  (keeps_refuseRepeated p within).bind fun _ _ => keeps_add p.anchor within

theorem keeps_collection {ownTag : Tag} {content : Reading Content} (within : mark ≤ size)
    (reads : Keeps size content) : Keeps size (collection p ownTag mark content) :=
  (keeps_refuseRepeated p within).bind fun _ _ => (keeps_add p.anchor within).bind fun id _ =>
    reads.bind fun _ _ => (keeps_fill id _).bind fun _ _ => stays_pure trivial

theorem keeps_unlessNext {kinds : List TokenKind} {indicator : Token} (within : indicator.IsWithin size)
    (reads : Keeps size content) : Keeps size (unlessNext kinds indicator content) := by
  unfold unlessNext
  refine (keeps_nextIs kinds).bind fun found _ => ?_
  split
  · exact keeps_emptyScalar within.stop
  · exact reads

theorem keeps_valuePart {kinds : List TokenKind} (reads : Keeps size content) :
    Keeps size (valuePart kinds content) := by
  unfold valuePart
  refine yields_peek.bind fun token within => ?_
  split
  · exact keeps_discard_take.bind fun _ _ => keeps_unlessNext within reads
  · exact keeps_emptyScalar within.start

theorem keeps_comma (first : Bool) : Keeps size (comma first) := by
  unfold comma
  split
  · refine (keeps_nextIs _).bind fun found _ => ?_
    split
    · exact keeps_discard_take
    · exact yields_refuseNext
  · exact stays_pure trivial

/-- All readers of nodes with a bound keep to the text. -/
structure ReadsNodes (size bound : Nat) : Prop where
  node : ∀ block indentless, Keeps size (node bound block indentless)
  blockItems : Keeps size (blockItems bound)
  indentlessItems : Keeps size (indentlessItems bound)
  blockEntries : Keeps size (blockEntries bound)
  flowItems : ∀ first, Keeps size (flowItems bound first)
  flowEntries : ∀ first, Keeps size (flowEntries bound first)

variable {bound : Nat}

theorem ReadsNodes.node_succ (h : ReadsNodes size bound) (block indentless : Bool) :
    Keeps size (Graph.node (bound + 1) block indentless) := by
  rw [Graph.node]
  refine yields_peek.bind fun first within => ?_
  split
  · refine keeps_discard_take.bind fun _ _ => stays_get.bind fun source _ => ?_
    split
    · exact stays_pure trivial
    · exact yields_refuse within.start
  · refine yields_properties.bind fun p starts => yields_peek.bind fun next within => ?_
    have mark : p.start.getD next.start ≤ size := by
      cases told : p.start with
      | none => exact within.start
      | some mark => exact starts mark told
    dsimp only
    split
    · exact keeps_discard_take.bind fun _ _ => keeps_scalarNode mark
    · exact keeps_collection mark (keeps_discard_take.bind fun _ _ => (h.flowItems true).mapped)
    · exact keeps_collection mark (keeps_discard_take.bind fun _ _ => (h.flowEntries true).mapped)
    · split
      · exact keeps_collection mark h.indentlessItems.mapped
      · split
        · exact keeps_collection mark (keeps_discard_take.bind fun _ _ => h.blockItems.mapped)
        · split
          · exact keeps_collection mark
              (keeps_discard_take.bind fun _ _ => h.blockEntries.mapped)
          · split
            · exact keeps_scalarNode mark
            · exact yields_refuse mark

theorem ReadsNodes.blockItems_succ (h : ReadsNodes size bound) : Keeps size (Graph.blockItems (bound + 1)) := by
  rw [Graph.blockItems]
  refine yields_peek.bind fun token within => ?_
  split
  · refine keeps_discard_take.bind fun _ _ => (keeps_unlessNext within (h.node _ _)).bind fun _ _ => ?_
    exact h.blockItems.bind fun _ _ => stays_pure trivial
  · exact keeps_discard_take.bind fun _ _ => stays_pure trivial
  · exact yields_refuse within.start

theorem ReadsNodes.indentlessItems_succ (h : ReadsNodes size bound) :
    Keeps size (Graph.indentlessItems (bound + 1)) := by
  rw [Graph.indentlessItems]
  refine yields_peek.bind fun token within => ?_
  split
  · refine keeps_discard_take.bind fun _ _ => (keeps_unlessNext within (h.node _ _)).bind fun _ _ => ?_
    exact h.indentlessItems.bind fun _ _ => stays_pure trivial
  · exact stays_pure trivial

/-- A key and its value are read, and what follows them. -/
theorem ReadsNodes.keeps_entry {kinds kinds' : List TokenKind} {token : Token} {β : Type}
    {onward : NodeId → NodeId → Reading β} (h : ReadsNodes size bound) (block indentless : Bool)
    (within : token.IsWithin size) (rest : ∀ key value, Keeps size (onward key value)) : Keeps size (do
      discard take
      let key ← unlessNext kinds token (Graph.node bound block indentless)
      let value ← valuePart kinds' (Graph.node bound block indentless)
      onward key value) :=
  keeps_discard_take.bind fun _ _ => (keeps_unlessNext within (h.node _ _)).bind fun key _ =>
    (keeps_valuePart (h.node _ _)).bind fun value _ => rest key value

theorem ReadsNodes.blockEntries_succ (h : ReadsNodes size bound) :
    Keeps size (Graph.blockEntries (bound + 1)) := by
  rw [Graph.blockEntries]
  refine yields_peek.bind fun token within => ?_
  split
  · exact h.keeps_entry true true within fun _ _ => h.blockEntries.bind fun _ _ => stays_pure trivial
  · exact keeps_discard_take.bind fun _ _ => stays_pure trivial
  · exact yields_refuse within.start

theorem ReadsNodes.flowItems_succ (h : ReadsNodes size bound) (first : Bool) :
    Keeps size (Graph.flowItems (bound + 1) first) := by
  rw [Graph.flowItems]
  refine (keeps_nextIs _).bind fun found _ => ?_
  split
  · exact keeps_discard_take.bind fun _ _ => stays_pure trivial
  · refine (keeps_comma first).bind fun _ _ => yields_peek.bind fun token within => ?_
    split
    · refine h.keeps_entry false false within fun key value => ?_
      refine (keeps_add none within.start).bind fun pair _ => ?_
      exact (h.flowItems false).bind fun _ _ => stays_pure trivial
    · exact keeps_discard_take.bind fun _ _ => stays_pure trivial
    · refine (h.node _ _).bind fun item _ => ?_
      exact (h.flowItems false).bind fun _ _ => stays_pure trivial

theorem ReadsNodes.flowEntries_succ (h : ReadsNodes size bound) (first : Bool) :
    Keeps size (Graph.flowEntries (bound + 1) first) := by
  rw [Graph.flowEntries]
  refine (keeps_nextIs _).bind fun found _ => ?_
  split
  · exact keeps_discard_take.bind fun _ _ => stays_pure trivial
  · refine (keeps_comma first).bind fun _ _ => yields_peek.bind fun token within => ?_
    split
    · refine h.keeps_entry false false within fun key value => ?_
      exact (h.flowEntries false).bind fun _ _ => stays_pure trivial
    · exact keeps_discard_take.bind fun _ _ => stays_pure trivial
    · refine (h.node _ _).bind fun key _ => yields_peek.bind fun next behind => ?_
      refine (keeps_emptyScalar behind.start).bind fun value _ => ?_
      exact (h.flowEntries false).bind fun _ _ => stays_pure trivial

theorem readsNodes (size bound : Nat) : ReadsNodes size bound := by
  induction bound with
  | zero =>
      constructor
      · exact fun _ _ => by rw [node]; exact yields_refuseNext
      · rw [blockItems]; exact yields_refuseNext
      · rw [indentlessItems]; exact yields_refuseNext
      · rw [blockEntries]; exact yields_refuseNext
      · exact fun _ => by rw [flowItems]; exact yields_refuseNext
      · exact fun _ => by rw [flowEntries]; exact yields_refuseNext
  | succ bound ih =>
      exact ⟨ih.node_succ, ih.blockItems_succ, ih.indentlessItems_succ, ih.blockEntries_succ,
        ih.flowItems_succ, ih.flowEntries_succ⟩

/-! ## Documents -/

theorem keeps_directives (versioned : Bool) (handles : List (String × String)) :
    Keeps size (directives bound versioned handles) := by
  induction bound generalizing versioned handles with
  | zero => exact stays_pure trivial
  | succ bound ih =>
      unfold directives
      refine yields_peek.bind fun token within => ?_
      split
      · refine keeps_discard_take.bind fun _ _ => ?_
        dsimp only
        split
        · exact (yields_refuse within.start).bind_never
        · exact ih _ _
      · refine keeps_discard_take.bind fun _ _ => ?_
        dsimp only
        split
        · exact (yields_refuse within.start).bind_never
        · exact ih _ _
      · exact keeps_discard_take.bind fun _ _ => ih _ _
      · exact stays_pure trivial

theorem keeps_skipDocumentEnds : Keeps size (skipDocumentEnds bound) := by
  induction bound with
  | zero => exact stays_pure trivial
  | succ bound ih =>
      unfold skipDocumentEnds
      refine (keeps_nextIs _).bind fun found _ => ?_
      split
      · exact keeps_discard_take.bind fun _ _ => ih
      · exact stays_pure trivial

/-- A document that is announced starts at a place of the text. -/
theorem yields_announcement : Yields size (announcement bound) fun start => ∀ mark ∈ start, mark ≤ size := by
  unfold announcement
  refine keeps_skipDocumentEnds.bind fun _ _ => yields_peek.bind fun token within => ?_
  split
  · exact stays_pure nofun
  · refine (keeps_directives _ _).bind fun handles _ => (keeps_nextIs _).bind fun found _ => ?_
    dsimp only
    split
    · exact yields_refuseNext.bind_never
    · refine keeps_discard_take.bind fun _ _ => (stays_modify fun source sound => ?_).bind fun _ _ => ?_
      · exact ⟨sound.tokens, sound.fault, sound.nodes⟩
      · exact stays_pure (by rintro _ ⟨⟩; exact within.start)

theorem keeps_announcedNode : Keeps size (announcedNode bound) := by
  unfold announcedNode
  refine yields_peek.bind fun token within => ?_
  split
  · exact keeps_emptyScalar within.start
  · exact (readsNodes size bound).node _ _

theorem keeps_document : Keeps size (document bound) := by
  unfold document
  refine keeps_discard_take.bind fun _ _ => yields_peek.bind fun token _ => ?_
  dsimp only
  split
  on_goal 1 =>
    refine yields_announcement.bind fun start _ => ?_
    split
    · exact stays_pure trivial
    refine keeps_announcedNode.mapped.bind fun root? _ => ?_
  on_goal 2 => refine ((readsNodes size bound).node _ _).mapped.bind fun root? _ => ?_
  -- With or without an announcement, nothing but the end stands behind the node.
  all_goals
    split
    · exact stays_pure trivial
    refine (keeps_nextIs _).bind fun found _ => ?_
    split
    on_goal 1 => refine keeps_discard_take.bind fun _ _ => ?_
    all_goals
      refine yields_announcement.bind fun start starts => ?_
      split
      · exact stays_pure trivial
      · exact yields_refuse (starts _ rfl)

/-- Tokens in a text give nodes in it, or a fault that lies in it. -/
theorem ends_ofTokens {stream : TokenStream} (within : stream.IsWithin size) :
    Ends size (ofTokens stream) fun graph? => ∀ graph ∈ graph?, ∀ node ∈ graph.nodes, node.mark ≤ size := by
  have source : Source.IsWithin size ⟨stream.tokens, stream.fault, defaultHandles, [], #[]⟩ :=
    ⟨within.tokens, within.fault, by simp⟩
  unfold ofTokens
  refine (keeps_document _ source).bind fun result sound => ?_
  intro graph told
  obtain ⟨root, -, rfl⟩ := Option.map_eq_some_iff.1 told
  exact sound.2.nodes

end Graph

end CookbookRules.Yaml
