import CookbookRules.Proofs.Value.Located
import CookbookRules.Proofs.Yaml.Reading
import CookbookRules.Yaml.Document

/-!
# Building located values

Where mappings are to know their lines, each mapping that is built gets the line of the node that it is
built from, whatever way led to the node: a merge key, an alias, or a collection that had to wait. So what
has been built so far is located at every time, and in the end so is the value of the whole text. Nodes keep
the places where they start, so building gives up at a place of the text, as reading does.
-/

namespace CookbookRules.Yaml

open Outcome

/-! ## What is built -/

/-- What a node stands for is an atom, or a collection that is told of elsewhere. -/
def Part.IsBare : Part → Prop
  | .value v => v.isScalar = true
  | .collection _ => True

/-- What a collection holds is bare, and a mapping knows its line, one of the first `last` lines. -/
inductive Filling.IsLocated (last : Nat) : Filling → Prop
  | list {items : List Part} (each : ∀ item ∈ items, item.IsBare) : IsLocated last (.list items)
  | pairs {items : List (Part × Part)} (each : ∀ item ∈ items, item.1.IsBare ∧ item.2.IsBare) :
      IsLocated last (.pairs items)
  | set {items : List Value} (each : ∀ item ∈ items, item.isScalar = true) : IsLocated last (.set items)
  | map {line : Nat} {entries : List (Value × Part)} (first : 1 ≤ line) (within : line ≤ last)
      (each : ∀ entry ∈ entries, entry.1.isScalar = true ∧ entry.2.IsBare) :
      IsLocated last (.map (.located (some line)) entries)

/-- All that has been built so far, from nodes in a text of so many characters. -/
structure Building.IsLocated (last size : Nat) (b : Building) : Prop where
  nodes : ∀ node ∈ b.nodes, node.mark ≤ size
  parts : ∀ part, some part ∈ b.parts → part.IsBare
  fillings : ∀ filling, some filling ∈ b.fillings → filling.IsLocated last

variable {last size bound : Nat} {b : Building} {part : Part} {id : NodeId}

theorem mem_of_getD_eq_some {α : Type} {xs : Array (Option α)} {i : Nat} {a : α}
    (h : xs.getD i none = some a) : some a ∈ xs := by
  rw [Array.getD_eq_getD_getElem?] at h
  cases found : xs[i]? with
  | none => simp [found] at h
  | some x =>
      rw [found] at h
      exact h ▸ Array.mem_of_getElem? found

theorem Building.isLocated_start {nodes : Array Node} (within : ∀ node ∈ nodes, node.mark ≤ size) :
    (Building.start nodes).IsLocated last size := by
  refine ⟨within, ?_, ?_⟩
  · intro part member
    simp [start] at member
  · intro filling member
    simp [start] at member

theorem Building.IsLocated.withPart (h : b.IsLocated last size) (bare : part.IsBare)
    (unfinished : List NodeId) :
    Building.IsLocated last size
      { b with parts := b.parts.setIfInBounds id (some part), unfinished := unfinished } := by
  refine ⟨h.nodes, fun other member => ?_, h.fillings⟩
  rcases Array.mem_or_eq_of_mem_setIfInBounds member with old | new
  · exact h.parts other old
  · exact Option.some.inj new ▸ bare

theorem Building.IsLocated.withFilling {filling : Filling} (h : b.IsLocated last size)
    (located : filling.IsLocated last) :
    Building.IsLocated last size { b with fillings := b.fillings.setIfInBounds id (some filling) } := by
  refine ⟨h.nodes, h.parts, fun other member => ?_⟩
  rcases Array.mem_or_eq_of_mem_setIfInBounds member with old | new
  · exact h.fillings other old
  · exact Option.some.inj new ▸ located

/-! ## Steps of building -/

namespace Work

/-- A step of building leaves what has been built located, gives up in the text, and what it answers has a
property. -/
abbrev Yields (last size : Nat) {α : Type} (work : Work α) (answers : α → Prop) : Prop :=
  Stays size (Building.IsLocated last size) work answers

/-- A step of building leaves what has been built located and gives up in the text. -/
abbrev Keeps (last size : Nat) {α : Type} (work : Work α) : Prop := Yields last size work fun _ => True

variable {α : Type} {P : α → Prop}

theorem yields_node : Yields last size (node id) (·.mark ≤ size) := by
  refine stays_get.bind fun b located => stays_pure ?_
  rw [Building.node, Array.getD_eq_getD_getElem?]
  cases found : b.nodes[id]? with
  | none => exact Nat.zero_le _
  | some node => exact located.nodes node (Array.mem_of_getElem? found)

theorem yields_refuse : Yields last size (refuse id) P :=
  yields_node.bind fun _ within => stays_throw within

/-! ## Merging -/

theorem keeps_change {f : Node → Node} (same : ∀ node, (f node).mark = node.mark) :
    Keeps last size (change id f) := by
  refine stays_modify fun b located => ⟨?_, located.parts, located.fillings⟩
  dsimp only
  refine forall_mem_modify (P := fun node : Node => node.mark ≤ size) located.nodes ?_
  exact fun node within => same node ▸ within

theorem keeps_plainKey : Keeps last size (plainKey id) := by
  unfold plainKey
  refine yields_node.bind fun node _ => ?_
  split
  · exact keeps_change fun _ => rfl
  · exact stays_pure trivial

variable {merging : NodeId → Work Unit}

theorem keeps_mergedEntries (merges : ∀ id, Keeps last size (merging id)) :
    Keeps last size (mergedEntries merging id) := by
  unfold mergedEntries
  refine yields_node.bind fun node _ => ?_
  split
  · exact (merges id).bind fun _ _ => yields_node.bind fun _ _ => stays_pure trivial
  · exact yields_refuse

theorem keeps_sourceEntries (merges : ∀ id, Keeps last size (merging id)) :
    Keeps last size (sourceEntries merging id) := by
  unfold sourceEntries
  refine yields_node.bind fun node _ => ?_
  split
  · exact (stays_mapM fun _ => keeps_mergedEntries merges).bind fun _ _ => stays_pure trivial
  · exact keeps_mergedEntries merges

/-- Merging moves entries between nodes; what has been built it leaves alone. -/
theorem keeps_merge (brought : NodeEntries) : Keeps last size (merge bound id brought) := by
  induction bound generalizing id brought with
  | zero => exact stays_pure trivial
  | succ bound ih =>
      unfold merge
      refine stays_get.bind fun b _ => ?_
      dsimp only
      split
      · refine (keeps_change (by intro node; rfl)).bind fun _ _ => ?_
        exact (keeps_sourceEntries fun _ => ih []).bind fun _ _ => ih _
      · exact (stays_forM fun _ => keeps_plainKey).bind fun _ _ => keeps_change fun _ => rfl

/-! ## Scalars -/

theorem isScalar_ofSpelling (spelling : Text.Spelling) : (Value.ofSpelling spelling).isScalar = true := by
  cases spelling <;> rfl

theorem isScalar_of_readFloat {make : Nat} {s : String} {v : Value}
    (h : Scalar.readFloat make s = .ok v) : v.isScalar = true := by
  unfold Scalar.readFloat at h
  dsimp only at h
  split at h
  · cases h
  · rw [ok_bind] at h
    obtain ⟨x, -, h⟩ := bind_eq_ok.1 h
    split at h
    · cases h; rfl
    · cases h; rfl

theorem isScalar_of_readTimestamp {s : String} {v : Value}
    (h : Scalar.readTimestamp s = .ok v) : v.isScalar = true := by
  unfold Scalar.readTimestamp at h
  split at h
  · cases h
  · obtain ⟨_, -, rfl⟩ := map_eq_ok.1 h
    rfl
  · obtain ⟨_, -, rfl⟩ := map_eq_ok.1 h
    rfl

/-- What a scalar tag reads is an atom. -/
theorem isScalar_of_read {tag : Tag} {make : Nat} {spelling : Text.Spelling} {v : Value}
    (h : Scalar.read tag make spelling = .ok (some v)) : v.isScalar = true := by
  cases tag with
  | null => cases h; rfl
  | bool =>
      obtain ⟨_, -, made⟩ := map_eq_ok.1 h
      cases made
      rfl
  | int =>
      obtain ⟨_, -, made⟩ := map_eq_ok.1 h
      cases made
      rfl
  | float =>
      obtain ⟨_, read, made⟩ := map_eq_ok.1 h
      cases made
      exact isScalar_of_readFloat read
  | timestamp =>
      obtain ⟨_, read, made⟩ := map_eq_ok.1 h
      cases made
      exact isScalar_of_readTimestamp read
  | text =>
      cases h
      exact isScalar_ofSpelling spelling
  | binary =>
      obtain ⟨_, -, rfl⟩ := Option.map_eq_some_iff.1 (Except.ok.inj h)
      rfl
  | _ => cases h

theorem keeps_spelling : Keeps last size (spelling bound id) := by
  induction bound generalizing id with
  | zero => exact stays_throw_scalar _
  | succ bound ih =>
      unfold spelling
      refine stays_get.bind fun b _ => ?_
      split
      · exact stays_pure trivial
      · exact yields_refuse
      · split
        · exact ih
        · exact yields_refuse

theorem yields_scalarValue : Yields last size (scalarValue id) (·.isScalar = true) := by
  unfold scalarValue
  refine yields_node.bind fun node _ => ?_
  dsimp only
  split
  · exact yields_refuse.bind_never
  · refine stays_get.bind fun b _ => keeps_spelling.bind fun spelling _ => ?_
    split
    · exact stays_throw_scalar _
    · split
      · next read => exact stays_pure (isScalar_of_read read)
      · exact yields_refuse
      · exact stays_throw_scalar _

/-! ## Collections -/

variable {each : NodeId → Work Part}

theorem yields_items (builds : ∀ id, Yields last size (each id) Part.IsBare) :
    Yields last size (items each id) fun items => ∀ item ∈ items, item.IsBare := by
  unfold items
  refine yields_node.bind fun node _ => ?_
  split
  · exact stays_mapM builds
  · exact yields_refuse

theorem yields_key (builds : ∀ id, Yields last size (each id) Part.IsBare) :
    Yields last size (key each id) (·.isScalar = true) := by
  unfold key
  refine (builds id).bind fun part bare => ?_
  split
  · split
    · exact stays_pure bare
    · exact yields_refuse
  · exact yields_refuse

theorem yields_entries (builds : ∀ id, Yields last size (each id) Part.IsBare) :
    Yields last size (entries each id) fun entries =>
      ∀ entry ∈ entries, entry.1.isScalar = true ∧ entry.2.IsBare := by
  unfold entries
  have merges (id : NodeId) : Keeps last size (do merge ((← get).mergeBound + 1) id []) :=
    stays_get.bind fun _ _ => keeps_merge []
  refine (keeps_mergedEntries merges).bind fun merged _ => stays_mapM fun entry => ?_
  refine (yields_key builds).bind fun key atom => (builds entry.2).bind fun part bare => ?_
  exact stays_pure ⟨atom, bare⟩

theorem yields_pairs (builds : ∀ id, Yields last size (each id) Part.IsBare) :
    Yields last size (pairs each id) fun items => ∀ item ∈ items, item.1.IsBare ∧ item.2.IsBare := by
  have one (id : NodeId) :
      Yields last size (pair each id) fun item => item.1.IsBare ∧ item.2.IsBare := by
    unfold pair
    refine yields_node.bind fun node _ => ?_
    split
    · refine (builds _).bind fun key first => (builds _).bind fun value second => ?_
      exact stays_pure ⟨first, second⟩
    · exact yields_refuse
  unfold pairs
  refine yields_node.bind fun node _ => ?_
  split
  · exact stays_mapM one
  · exact yields_refuse

variable {setting : Setting} {builds : (atOnce : Bool) → NodeId → Work Part} {atOnce : Bool}

theorem isBare_ofEntries {entries : List (Value × Part)}
    (bare : ∀ entry ∈ entries, entry.1.isScalar = true ∧ entry.2.IsBare) :
    ∀ entry ∈ Value.ofEntries entries, entry.1.isScalar = true ∧ entry.2.IsBare :=
  Value.forall_mem_ofEntries (P := (·.isScalar = true)) (Q := Part.IsBare) bare

/-- The filling of a mapping has the line of the node that it is built from. -/
theorem yields_filling (knows : setting.located = true)
    (each : ∀ atOnce id, Yields (breakCount setting.text + 1) size (builds atOnce id) Part.IsBare) :
    Yields (breakCount setting.text + 1) size (filling setting builds atOnce id)
      (Filling.IsLocated (breakCount setting.text + 1)) := by
  unfold filling
  refine yields_node.bind fun node _ => ?_
  split
  · exact (yields_pairs (each _)).map fun items bare => .pairs bare
  · exact (yields_pairs (each _)).map fun items bare => .pairs bare
  · refine (yields_entries (each _)).bind fun entries bare => stays_pure (.set ?_)
    apply Value.forall_mem_setItems
    intro key member
    obtain ⟨entry, held, rfl⟩ := List.mem_map.1 member
    exact (isBare_ofEntries bare entry held).1
  · refine (yields_entries (each _)).bind fun entries bare => stays_pure ?_
    simp only [knows, if_true]
    exact .map (Nat.succ_pos _) (Nat.succ_le_succ (breaksBefore_le_breakCount _ _))
      (isBare_ofEntries bare)
  · exact (yields_items (each _)).map fun items bare => .list bare

theorem keeps_fill (knows : setting.located = true)
    (each : ∀ atOnce id, Yields (breakCount setting.text + 1) size (builds atOnce id) Part.IsBare) :
    Keeps (breakCount setting.text + 1) size (fill setting builds atOnce id) :=
  (yields_filling knows each).bind fun _ filled =>
    stays_modify fun _ located => located.withFilling filled

theorem yields_buildNew (knows : setting.located = true)
    (each : ∀ atOnce id, Yields (breakCount setting.text + 1) size (builds atOnce id) Part.IsBare) :
    Yields (breakCount setting.text + 1) size (buildNew setting builds atOnce id) Part.IsBare := by
  unfold buildNew
  refine yields_node.bind fun node _ => ?_
  dsimp only
  split
  · refine (stays_modify fun _ located => ?_).bind fun _ _ => stays_pure trivial
    exact ⟨located.nodes, located.parts, located.fillings⟩
  · split
    · exact (keeps_fill knows each).bind fun _ _ => stays_pure trivial
    · exact yields_scalarValue.map fun _ atom => atom

theorem yields_build (knows : setting.located = true) :
    Yields (breakCount setting.text + 1) size (build setting bound atOnce id) Part.IsBare := by
  induction bound generalizing atOnce id with
  | zero => exact yields_refuse
  | succ bound ih =>
      unfold build
      refine stays_get.bind fun b located => ?_
      split
      · next part found => exact stays_pure (located.parts part (mem_of_getD_eq_some found))
      · dsimp only
        split
        · exact yields_refuse.bind_never
        · refine (stays_modify ?_).bind fun _ _ => ?_
          · exact fun _ located => ⟨located.nodes, located.parts, located.fillings⟩
          · refine (yields_buildNew knows fun _ _ => ih).bind fun part bare => ?_
            refine (stays_modify ?_).bind fun _ _ => stays_pure bare
            exact fun _ located => located.withPart bare _

theorem keeps_fillWaiting (knows : setting.located = true) :
    Keeps (breakCount setting.text + 1) size (fillWaiting setting bound) := by
  induction bound with
  | zero => exact stays_pure trivial
  | succ bound ih =>
      unfold fillWaiting
      refine stays_get.bind fun b located => ?_
      split
      · exact stays_pure trivial
      · refine (stays_set ?_).bind fun _ _ => ?_
        · exact ⟨located.nodes, located.parts, located.fillings⟩
        · exact (keeps_fill knows fun _ _ => yields_build knows).bind fun _ _ => ih

end Work

/-! ## The whole value -/

/-- What holds of scalars, and of each collection of values that it holds of, if a mapping has one of the
lines, holds of the value that has been built. -/
theorem Building.IsLocated.value_of {P : Value → Prop} (scalar : ∀ v : Value, v.isScalar = true → P v)
    (list : ∀ items, (∀ item ∈ items, P item) → P (.list items))
    (tuple : ∀ items, (∀ item ∈ items, P item) → P (.tuple items))
    (set : ∀ items, (∀ item ∈ items, P item) → P (.set items))
    (map : ∀ (line : Nat) entries, 1 ≤ line → line ≤ last → (∀ entry ∈ entries, P entry.1) →
      (∀ entry ∈ entries, P entry.2) → P (.map (.located (some line)) entries))
    (h : b.IsLocated last size) (path : List NodeId) (bare : part.IsBare) : P (b.value bound path part) := by
  induction bound generalizing path part with
  | zero =>
      cases part with
      | value v => exact scalar v bare
      | collection id => exact scalar _ rfl
  | succ bound ih =>
      cases part with
      | value v => exact scalar v bare
      | collection id =>
          rw [Building.value]
          split
          · exact scalar _ rfl
          · cases held : b.fillings.getD id none with
            | none => exact scalar _ rfl
            | some filling =>
                cases h.fillings filling (mem_of_getD_eq_some held) with
                | list each => exact list _ (List.forall_mem_map.2 fun item member => ih _ (each item member))
                | pairs each =>
                    refine list _ (List.forall_mem_map.2 fun item member => tuple _ ?_)
                    obtain ⟨first, second⟩ := each item member
                    simp [ih _ first, ih _ second]
                | set each => exact set _ fun item member => scalar item (each item member)
                | map first within each =>
                    refine map _ _ first within ?_ ?_
                    · exact List.forall_mem_map.2 fun entry member => scalar _ (each entry member).1
                    · exact List.forall_mem_map.2 fun entry member => ih _ (each entry member).2

/-- What has been built gives a located value. -/
theorem Building.IsLocated.value (h : b.IsLocated last size) (path : List NodeId) (bare : part.IsBare) :
    Value.IsLocated last (b.value bound path part) :=
  h.value_of (fun _ scalar => .atom (Value.isAtom_of_isScalar scalar)) (fun _ => .list) (fun _ => .tuple)
    (fun _ => .set) (fun _ _ => .map) path bare

/-- What has been built gives data. -/
theorem Building.IsLocated.isData (h : b.IsLocated last size) (path : List NodeId) (bare : part.IsBare) :
    Value.IsData (b.value bound path part) :=
  h.value_of (fun _ => .scalar) (fun _ => .list) (fun _ => .tuple) (fun _ => .set)
    (fun _ _ _ _ => .map) path bare

/-- Nodes in a text give data, each mapping of which has one of its lines, or a fault that lies in it. -/
theorem Graph.ends_value {setting : Setting} {graph : Graph} (knows : setting.located = true)
    (within : ∀ node ∈ graph.nodes, node.mark ≤ size) :
    Ends size (graph.value setting) fun v =>
      v.IsLocated (breakCount setting.text + 1) ∧ v.IsData := by
  have whole : Work.Yields (breakCount setting.text + 1) size (do
      let part ← Work.build setting (← get).levels false graph.root
      Work.fillWaiting setting graph.nodes.size
      pure part) Part.IsBare := by
    refine stays_get.bind fun _ _ => (Work.yields_build knows).bind fun part bare => ?_
    exact (Work.keeps_fillWaiting knows).bind fun _ _ => stays_pure bare
  unfold Graph.value
  refine (whole _ (Building.isLocated_start within)).bind fun result built => ?_
  exact ⟨built.2.value [] built.1, built.2.isData [] built.1⟩

/-- What is read from a text where mappings are to know their lines is data, each mapping of which, at
whatever depth, knows a line that the text has, or a fault that lies in the text. -/
theorem ends_read (text : String) : Ends text.length (read true text) fun v =>
    v.IsLocated (breakCount text.toList + 1) ∧ v.IsData := by
  have tokens := TokenStream.isWithin_ofText text.toList
  unfold read
  refine ends_ite trivial ?_
  rw [← String.length_toList]
  refine (Graph.ends_ofTokens tokens).bind fun graph? within => ?_
  cases graph? with
  | none => exact ⟨.atom rfl, .scalar rfl⟩
  | some graph => exact Graph.ends_value rfl (within graph rfl)

/-- Each mapping that is read from a text where mappings know their lines, at whatever depth, knows a line
that the text has. -/
theorem isLocated_read {text : String} {v : Value} (h : read true text = .ok v) :
    v.IsLocated (breakCount text.toList + 1) :=
  ((ends_read text).of_ok h).1

/-- Nothing of a program is read from a text. -/
theorem isData_read {text : String} {v : Value} (h : read true text = .ok v) : v.IsData :=
  ((ends_read text).of_ok h).2

/-- The lines that reading a text reports are there. The nodes that are read start in the text, and a mapping
that knows its line, at whatever depth, knows one of the lines of the text; a fault with a line points at a
place in the text, and its line is that of the place. -/
structure ReportsLines (text : String) : Prop where
  nodes : ∀ graph, Graph.ofTokens (TokenStream.ofText text.toList) = .ok (some graph) →
    ∀ node ∈ graph.nodes, node.mark ≤ text.length
  value : ∀ v, read true text = .ok v → v.IsLocated (breakCount text.toList + 1)
  fault : ∀ fault line, read true text = .error fault → fault.line? text.toList = some line →
    (1 ≤ line ∧ line ≤ breakCount text.toList + 1) ∧
      ∃ mark, mark ≤ text.length ∧ fault = .malformed mark ∧ lineAt text.toList mark = line

theorem reportsLines (text : String) : ReportsLines text := by
  refine ⟨fun graph read => ?_, fun v => isLocated_read, ?_⟩
  · rw [← String.length_toList]
    exact (Graph.ends_ofTokens (TokenStream.isWithin_ofText text.toList)).of_ok read graph rfl
  · intro fault line failed told
    have within := (ends_read text).of_error failed
    cases fault with
    | malformed mark =>
        cases told
        exact ⟨lineAt_bounds text.toList mark, mark, within, rfl, rfl⟩
    | _ => cases told

end CookbookRules.Yaml
