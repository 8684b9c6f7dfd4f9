import CookbookRules.Files.Tree
import CookbookRules.Proofs.Text.Pieces

/-!
# Names of files and texts of paths

In a tree of files the entries have names: texts that a path can hold as a component. A path whose
components are names is told by its text, and so are all files that are found in such a tree.
-/

namespace CookbookRules

/-! ## Names -/

/-- A component that the text of a path keeps. -/
structure IsName (part : String) : Prop where
  ne_empty : part ≠ ""
  ne_dot : part ≠ "."
  notMem : '/' ∉ part.toList

namespace Path

variable {p q : Path} {parts : List String}

/-- All components are names. -/
def IsNormal (p : Path) : Prop := ∀ part ∈ p.parts, IsName part

theorem isName_of_mem_components {cs : List Char} {part : String} (member : part ∈ components cs) :
    IsName part := by
  obtain ⟨notEmpty, notDot⟩ := ne_of_mem_components member
  refine ⟨notEmpty, notDot, fun slash => ?_⟩
  obtain ⟨piece, found, rfl⟩ := List.mem_map.1 (List.mem_filter.1 member).1
  rw [String.toList_ofList] at slash
  have apart := Text.sep_eq_false_of_mem_splitOn found slash
  exact absurd apart (by decide)

theorem isNormal_ofString (s : String) : (ofString s).IsNormal :=
  fun _ member => isName_of_mem_components member

theorem IsNormal.descend (normal : p.IsNormal) (names : ∀ part ∈ parts, IsName part) :
    (p.descend parts).IsNormal := by
  intro part member
  rcases List.mem_append.1 member with above | below
  · exact normal part above
  · exact names part below

theorem descend_nil (p : Path) : p.descend [] = p := by
  rw [descend, List.append_nil]

/-! ## Texts of paths -/

/-- A leading slash adds no component. -/
theorem components_slash (cs : List Char) : components ('/' :: cs) = components cs := by
  simp [components, Text.splitOn]

/-- Names with slashes between them are read back. -/
theorem components_intercalate (names : ∀ part ∈ parts, IsName part) :
    components (['/'].intercalate (parts.map String.toList)) = parts := by
  cases parts with
  | nil => rfl
  | cons first rest =>
      have apart : ∀ piece ∈ (first :: rest).map String.toList, '/' ∉ piece := by
        intro piece member
        obtain ⟨part, listed, rfl⟩ := List.mem_map.1 member
        exact (names part listed).notMem
      rw [components, Text.splitOn_eq, List.splitOn_intercalate '/' apart (by simp), List.map_map,
        List.filter_eq_self.2]
      · simp
      · intro part member
        have kept : IsName part := names part (by simpa using member)
        simp [kept.ne_empty, kept.ne_dot]

/-- Names do not begin with a slash. -/
theorem takeWhile_intercalate (names : ∀ part ∈ parts, IsName part) :
    (['/'].intercalate (parts.map String.toList)).takeWhile (· == '/') = [] := by
  cases parts with
  | nil => rfl
  | cons first rest =>
      have name : IsName first := names first List.mem_cons_self
      cases letters : first.toList with
      | nil => exact absurd (String.toList_eq_nil_iff.1 letters) name.ne_empty
      | cons c cs =>
          have other : c ≠ '/' := by
            rintro rfl
            exact name.notMem (by simp [letters])
          cases rest with
          | nil => simp [letters, other]
          | cons second more => simp [letters, other, List.intercalate_cons_cons]

/-- The text of a path whose components are names names the path. -/
theorem ofString_toString (normal : p.IsNormal) : ofString p.toString = p := by
  obtain ⟨anchor, parts⟩ := p
  have read := components_intercalate normal
  have front := takeWhile_intercalate normal
  rw [toString]
  split
  · next dot =>
    simp only [Bool.and_eq_true, decide_eq_true_eq, List.isEmpty_iff] at dot
    obtain ⟨rfl, rfl⟩ := dot
    rfl
  · rw [ofString, String.toList_append, String.toList_intercalate]
    cases anchor with
    | relative => simp [anchorText, anchorOf, read, front]
    | root => simp [anchorText, anchorOf, components_slash, read, front]
    | doubleRoot => simp [anchorText, anchorOf, components_slash, read, front]

/-- So paths whose components are names differ in their texts. -/
theorem IsNormal.eq_of_toString (hp : p.IsNormal) (hq : q.IsNormal) (same : p.toString = q.toString) :
    p = q := by
  rw [← ofString_toString hp, same, ofString_toString hq]

end Path

/-! ## Trees -/

namespace FileTree

variable {stack : List FileTree} {entries : List (String × FileTree)} {tree : FileTree}
  {parts : List String}

/-- All entries at any depth have names. -/
inductive IsNamed : FileTree → Prop
  | file (bytes : List UInt8) : IsNamed (.file bytes)
  | directory {entries : List (String × FileTree)} (names : ∀ entry ∈ entries, IsName entry.1)
      (below : ∀ entry ∈ entries, IsNamed entry.2) : IsNamed (.directory entries)

theorem mem_entryFiles : parts ∈ entryFiles entries ↔
    ∃ entry ∈ entries, ∃ below ∈ entry.2.files, parts = entry.1 :: below := by
  induction entries with
  | nil => simp [entryFiles]
  | cons entry rest ih =>
      obtain ⟨name, tree⟩ := entry
      simp [entryFiles, ih, eq_comm]

/-- The files of a tree are reached through names. -/
theorem IsNamed.isName_of_mem_files (named : tree.IsNamed) (member : parts ∈ tree.files) :
    ∀ part ∈ parts, IsName part := by
  induction named generalizing parts with
  | file bytes =>
      cases List.mem_singleton.1 member
      simp
  | directory names below ih =>
      obtain ⟨entry, listed, rest, found, rfl⟩ := mem_entryFiles.1 member
      exact List.forall_mem_cons.2 ⟨names entry listed, ih entry listed found⟩

theorem isNamed_directory_iff :
    (directory entries).IsNamed ↔ ∀ entry ∈ entries, IsName entry.1 ∧ entry.2.IsNamed := by
  constructor
  · intro named
    cases named with
    | directory names below => exact fun entry listed => ⟨names entry listed, below entry listed⟩
  · intro each
    exact .directory (fun entry listed => (each entry listed).1) fun entry listed => (each entry listed).2

theorem IsNamed.of_mem_entries {entry : String × FileTree} (named : tree.IsNamed)
    (listed : entry ∈ tree.entries) : IsName entry.1 ∧ entry.2.IsNamed := by
  cases tree with
  | file bytes => cases listed
  | directory entries => exact isNamed_directory_iff.1 named entry listed

theorem IsNamed.isName_of_mem_inside (named : tree.IsNamed) (member : parts ∈ tree.inside) :
    ∀ part ∈ parts, IsName part := by
  cases named with
  | file bytes => cases member
  | directory names below => exact (IsNamed.directory names below).isName_of_mem_files member

/-- What directories pass on to their entries, what components lead to has too. -/
theorem follow_keeps {P : FileTree → Prop}
    (passes : ∀ entries, P (.directory entries) → ∀ entry ∈ entries, P entry.2)
    (kept : ∀ above ∈ stack, P above) (found : follow stack parts = .ok tree) : P tree := by
  fun_induction follow stack parts with
  | case2 here above =>
      cases found
      exact kept tree List.mem_cons_self
  | case4 entries parts ih => exact ih kept found
  | case5 entries parts up rest ih =>
      -- A double dot drops the directory and keeps those above it.
      exact ih (List.forall_mem_cons.1 kept).2 found
  | case7 entries above part parts _ _ name next entered ih =>
      have inside := passes entries (kept _ List.mem_cons_self) _ (List.mem_of_find?_eq_some entered)
      exact ih (List.forall_mem_cons.2 ⟨inside, kept⟩) found
  | case1 | case3 | case6 | case8 => cases found

/-- Putting a tree where names lead keeps all entries named. -/
theorem IsNamed.place {here : FileTree} (named : tree.IsNamed) (names : ∀ part ∈ parts, IsName part)
    (kept : here.IsNamed) : (FileTree.place tree parts here).IsNamed := by
  induction parts generalizing here with
  | nil => exact named
  | cons part rest ih =>
      obtain ⟨name, others⟩ := List.forall_mem_cons.1 names
      have old :
          (((here.entries.find? (·.1 == part)).map (·.2)).getD (FileTree.directory [])).IsNamed := by
        cases found : here.entries.find? (·.1 == part) with
        | none => exact isNamed_directory_iff.2 (by simp)
        | some entry => exact (kept.of_mem_entries (List.mem_of_find?_eq_some found)).2
      have new := ih others old
      rw [FileTree.place]
      split
      · apply isNamed_directory_iff.2
        intro entry member
        obtain ⟨former, listed, rfl⟩ := List.mem_map.1 member
        split
        · exact ⟨name, new⟩
        · exact kept.of_mem_entries listed
      · apply isNamed_directory_iff.2
        intro entry member
        rcases List.mem_append.1 member with listed | added
        · exact kept.of_mem_entries listed
        · rw [List.mem_singleton.1 added]
          exact ⟨name, new⟩

end FileTree

/-- What directories pass on to their entries, what a path leads to has too. -/
theorem Files.look_keeps {files : Files} {path : Path} {tree : FileTree} {P : FileTree → Prop}
    (passes : ∀ entries, P (.directory entries) → ∀ entry ∈ entries, P entry.2) (root : P files.root)
    (found : files.look path = .ok (some tree)) : P tree := by
  unfold look find at found
  split at found
  · cases found
  · split at found
    · next led =>
      split at led
      · cases led
      · cases found
        exact FileTree.follow_keeps passes (List.forall_mem_singleton.2 root) led
    · cases found
    · cases found

/-- What a path leads to in a tree with named entries has named entries. -/
theorem Files.isNamed_of_look {files : Files} {path : Path} {tree : FileTree}
    (named : files.root.IsNamed) (found : files.look path = .ok (some tree)) : tree.IsNamed :=
  look_keeps (fun _ inner _ listed => (inner.of_mem_entries listed).2) named found

end CookbookRules
