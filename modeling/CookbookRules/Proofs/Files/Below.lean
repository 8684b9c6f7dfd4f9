import CookbookRules.Proofs.Files.Lookup
import CookbookRules.Proofs.Files.Names
import Mathlib.Data.List.Nodup
import Mathlib.Data.String.Basic

/-!
# Files below a directory

In a proper tree the entries of a directory have different names, and each of them can be looked up. There a
path below a directory leads to what its names lead to from entry to entry, and the list of the files below a
directory has each of them once.
-/

namespace CookbookRules

/-- A name that an entry of a directory can have. -/
structure IsEntryName (name : String) : Prop extends IsName name where
  notUp : name ≠ ".."
  short : FileTree.isLongName name = false
  noNull : '\x00' ∉ name.toList

/-! ## Names in order -/

/-- Different names with slashes between them are different texts. -/
theorem eq_of_intercalate {names names' : List String} (isName : ∀ name ∈ names, IsName name)
    (isName' : ∀ name ∈ names', IsName name)
    (same : String.intercalate "/" names = String.intercalate "/" names') : names = names' := by
  have slash : "/".toList = ['/'] := rfl
  have letters := congrArg String.toList same
  rw [String.toList_intercalate, String.toList_intercalate, slash] at letters
  rw [← Path.components_intercalate isName, letters, Path.components_intercalate isName']

/-- Items whose texts differ ascend strictly once they are sorted by their texts. -/
theorem pairwise_mergeSort_lt {α : Type} (text : α → String) {items : List α}
    (apart : (items.map text).Nodup) :
    (items.mergeSort fun a b => text a ≤ text b).Pairwise fun a b => text a < text b := by
  have ascending : (items.mergeSort fun a b => text a ≤ text b).Pairwise fun a b =>
      decide (text a ≤ text b) = true := by
    apply List.pairwise_mergeSort
    · intro a b c before behind
      rw [decide_eq_true_iff] at before behind ⊢
      exact before.trans behind
    · intro a b
      rw [Bool.or_eq_true, decide_eq_true_iff, decide_eq_true_iff]
      exact le_total (text a) (text b)
  have different : (items.mergeSort fun a b => text a ≤ text b).Pairwise fun a b => text a ≠ text b :=
    List.pairwise_map.1 (((List.mergeSort_perm items _).map text).nodup_iff.2 apart)
  exact ascending.imp₂ (fun a b le ne => lt_of_le_of_ne (of_decide_eq_true le) ne) different

namespace FileTree

/-- The entries of every directory have different names, all of which can be looked up. -/
inductive IsProper : FileTree → Prop
  | file (bytes : List UInt8) : IsProper (.file bytes)
  | directory {entries : List (String × FileTree)} (names : ∀ entry ∈ entries, IsEntryName entry.1)
      (distinct : (entries.map (·.1)).Nodup) (below : ∀ entry ∈ entries, IsProper entry.2) :
      IsProper (.directory entries)

/-- Names lead from a tree to one in it, from entry to entry. -/
inductive Leads : FileTree → List String → FileTree → Prop
  | here (tree : FileTree) : Leads tree [] tree
  | enter {entries : List (String × FileTree)} {name : String} {next inner : FileTree}
      {names : List String} (listed : (name, next) ∈ entries) (onward : Leads next names inner) :
      Leads (.directory entries) (name :: names) inner

variable {tree next inner : FileTree} {entries : List (String × FileTree)} {stack above : List FileTree}
  {name : String} {names parts : List String}

theorem leads_nil_iff : tree.Leads [] inner ↔ inner = tree := by
  constructor
  · intro leads
    cases leads with
    | here => rfl
  · rintro rfl
    exact .here inner

theorem leads_cons_iff : tree.Leads (name :: names) inner ↔
    ∃ next, (name, next) ∈ tree.entries ∧ next.Leads names inner := by
  constructor
  · intro leads
    cases leads with
    | enter listed onward => exact ⟨_, listed, onward⟩
  · rintro ⟨next, listed, onward⟩
    cases tree with
    | file bytes => cases listed
    | directory entries => exact .enter listed onward

/-- Only a directory has something below it. -/
theorem Leads.isDirectory (leads : tree.Leads names inner) (filled : names ≠ []) :
    tree.isDirectory = true := by
  cases leads with
  | here => exact absurd rfl filled
  | enter => rfl

theorem Leads.trans {above : List String} {middle : FileTree} (first : tree.Leads above middle)
    (onward : middle.Leads names inner) : tree.Leads (above ++ names) inner := by
  induction first with
  | here tree => exact onward
  | enter listed later ih => exact .enter listed (ih onward)

/-- What names lead to is where further names lead on from. -/
theorem leads_append_iff {above : List String} : tree.Leads (above ++ names) inner ↔
    ∃ middle, tree.Leads above middle ∧ middle.Leads names inner := by
  constructor
  · intro leads
    induction above generalizing tree with
    | nil => exact ⟨tree, .here tree, leads⟩
    | cons name rest ih =>
        obtain ⟨next, listed, onward⟩ := leads_cons_iff.1 leads
        obtain ⟨middle, first, later⟩ := ih onward
        exact ⟨middle, leads_cons_iff.2 ⟨next, listed, first⟩, later⟩
  · rintro ⟨middle, first, later⟩
    exact first.trans later

/-! ## Lists of files -/

/-- The files of a tree are those that names lead to. -/
theorem mem_files_iff : names ∈ tree.files ↔ ∃ bytes, tree.Leads names (.file bytes) := by
  induction names generalizing tree with
  | nil =>
      cases tree with
      | file bytes => exact iff_of_true (List.mem_singleton_self []) ⟨bytes, .here _⟩
      | directory entries => simp [files, mem_entryFiles, leads_nil_iff]
  | cons name rest ih =>
      cases tree with
      | file bytes => simp [files, leads_cons_iff, FileTree.entries]
      | directory entries =>
          simp only [files, mem_entryFiles, leads_cons_iff, FileTree.entries, List.cons.injEq]
          constructor
          · rintro ⟨⟨_, next⟩, listed, below, found, rfl, rfl⟩
            obtain ⟨bytes, leads⟩ := ih.1 found
            exact ⟨bytes, next, listed, leads⟩
          · rintro ⟨bytes, next, listed, leads⟩
            exact ⟨(name, next), listed, rest, ih.2 ⟨bytes, leads⟩, rfl, rfl⟩

theorem mem_inside_iff :
    names ∈ tree.inside ↔ names ≠ [] ∧ ∃ bytes, tree.Leads names (.file bytes) := by
  cases tree with
  | file bytes =>
      refine iff_of_false List.not_mem_nil ?_
      rintro ⟨filled, bytes', leads⟩
      cases leads with
      | here => exact filled rfl
  | directory entries =>
      change names ∈ (directory entries).files ↔ _
      rw [mem_files_iff]
      constructor
      · rintro ⟨bytes, leads⟩
        refine ⟨?_, bytes, leads⟩
        rintro rfl
        cases leads_nil_iff.1 leads
      · exact And.right

theorem mem_entryDirectories {pair : List String × FileTree} : pair ∈ entryDirectories entries ↔
    ∃ entry ∈ entries, ∃ below ∈ entry.2.directories, (entry.1 :: below.1, below.2) = pair := by
  induction entries with
  | nil => simp [entryDirectories]
  | cons entry rest ih => simp [entryDirectories, ih]

/-- The directories of a tree are those that names lead to. -/
theorem mem_directories_iff :
    (names, inner) ∈ tree.directories ↔ tree.Leads names inner ∧ inner.isDirectory = true := by
  induction names generalizing tree with
  | nil =>
      rw [leads_nil_iff]
      cases tree with
      | file bytes =>
          refine iff_of_false List.not_mem_nil ?_
          rintro ⟨rfl, directory⟩
          cases directory
      | directory entries =>
          rw [directories, List.mem_cons]
          constructor
          · rintro (same | below)
            · cases same
              exact ⟨rfl, rfl⟩
            · obtain ⟨_, _, _, _, same⟩ := mem_entryDirectories.1 below
              cases same
          · rintro ⟨rfl, -⟩
            exact .inl rfl
  | cons name rest ih =>
      rw [leads_cons_iff]
      cases tree with
      | file bytes =>
          refine iff_of_false List.not_mem_nil ?_
          rintro ⟨⟨next, listed, -⟩, -⟩
          cases listed
      | directory entries =>
          rw [directories, List.mem_cons, mem_entryDirectories]
          constructor
          · rintro (same | ⟨⟨_, next⟩, listed, ⟨below, found⟩, member, same⟩)
            · cases same
            · cases same
              obtain ⟨leads, directory⟩ := ih.1 member
              exact ⟨⟨next, listed, leads⟩, directory⟩
          · rintro ⟨⟨next, listed, leads⟩, directory⟩
            exact .inr ⟨(name, next), listed, (rest, inner), ih.2 ⟨leads, directory⟩, rfl⟩

theorem entryFiles_eq (entries : List (String × FileTree)) :
    entryFiles entries = entries.flatMap fun entry => entry.2.files.map (entry.1 :: ·) := by
  induction entries with
  | nil => rfl
  | cons entry rest ih => rw [entryFiles, ih, List.flatMap_cons]

/-- Each file of a proper tree is listed once. -/
theorem IsProper.nodup_files (proper : tree.IsProper) : tree.files.Nodup := by
  induction proper with
  | file bytes => exact List.nodup_singleton []
  | @directory entries names distinct below ih =>
      rw [files, entryFiles_eq, List.nodup_flatMap]
      refine ⟨fun entry listed => (ih entry listed).map (List.cons_injective), ?_⟩
      rw [List.Nodup, List.pairwise_map] at distinct
      refine distinct.imp fun {entry other} different => ?_
      intro path first second
      obtain ⟨rest, -, rfl⟩ := List.mem_map.1 first
      obtain ⟨rest', -, same⟩ := List.mem_map.1 second
      exact different (List.cons.inj same).1.symm

theorem IsProper.nodup_inside (proper : tree.IsProper) : tree.inside.Nodup := by
  cases tree with
  | file bytes => exact List.nodup_nil
  | directory entries => exact proper.nodup_files

/-! ## Paths -/

theorem IsProper.entry (proper : (FileTree.directory entries).IsProper) (listed : (name, next) ∈ entries) :
    IsEntryName name ∧ next.IsProper := by
  cases proper with
  | directory names distinct below => exact ⟨names _ listed, below _ listed⟩

theorem IsProper.isEntryName (proper : tree.IsProper) (leads : tree.Leads names inner) :
    ∀ name ∈ names, IsEntryName name := by
  induction leads with
  | here tree => exact List.forall_mem_nil _
  | enter listed onward ih =>
      obtain ⟨isName, inside⟩ := proper.entry listed
      exact List.forall_mem_cons.2 ⟨isName, ih inside⟩

theorem IsProper.isName_of_mem_inside (proper : tree.IsProper) (member : names ∈ tree.inside) :
    ∀ name ∈ names, IsName name := by
  obtain ⟨-, bytes, leads⟩ := mem_inside_iff.1 member
  exact fun name listed => (proper.isEntryName leads name listed).toIsName

/-- Where the names are different, an entry is found by its own. -/
theorem find?_eq_some_of_mem (distinct : (entries.map (·.1)).Nodup) (listed : (name, next) ∈ entries) :
    entries.find? (·.1 == name) = some (name, next) := by
  induction entries with
  | nil => cases listed
  | cons entry rest ih =>
      rw [List.map_cons, List.nodup_cons] at distinct
      rcases List.mem_cons.1 listed with rfl | later
      · exact List.find?_cons_of_pos (beq_self_eq_true name)
      · have other : entry.1 ≠ name := by
          rintro rfl
          exact distinct.1 (List.mem_map.2 ⟨_, later, rfl⟩)
        rw [List.find?_cons_of_neg (by simpa using other)]
        exact ih distinct.2 later

/-- A name that is too long cannot be looked up in a directory. -/
theorem follow_long (above : List FileTree) (notUp : name ≠ "..") (long : isLongName name = true) :
    follow (directory entries :: above) (name :: names) = .error .nameTooLong := by
  cases above with
  | nil => rw [follow, if_neg notUp, if_pos long]
  | cons up rest => rw [follow, if_neg notUp, if_pos long]

/-- Below a directory of a proper tree a path is followed from entry to entry. -/
theorem IsProper.follow_eq_ok_iff (proper : tree.IsProper) (down : ∀ name ∈ names, name ≠ "..") :
    follow (tree :: above) names = .ok inner ↔ tree.Leads names inner := by
  induction names generalizing tree above with
  | nil => rw [follow, leads_nil_iff, Except.ok.injEq, eq_comm]
  | cons name rest ih =>
      obtain ⟨notUp, others⟩ := List.forall_mem_cons.1 down
      rw [leads_cons_iff]
      cases proper with
      | file bytes =>
          rw [follow]
          refine iff_of_false (fun found => by cases found) ?_
          rintro ⟨next, listed, -⟩
          cases listed
      | @directory entries names distinct below =>
          constructor
          · intro found
            have short : ¬ isLongName name = true := by
              intro long
              rw [follow_long above notUp long] at found
              cases found
            cases looked : entries.find? (·.1 == name) with
            | none =>
                rw [follow_missing above notUp short looked] at found
                cases found
            | some entry =>
                obtain ⟨own, next⟩ := entry
                have same : own = name := by simpa using List.find?_some looked
                subst same
                have listed := List.mem_of_find?_eq_some looked
                rw [follow_entry above notUp short looked] at found
                exact ⟨next, listed, (ih (below _ listed) others).1 found⟩
          · rintro ⟨next, listed, leads⟩
            have short : ¬ isLongName name = true := by simp [(names _ listed).short]
            rw [follow_entry above notUp short (find?_eq_some_of_mem distinct listed)]
            exact (ih (below _ listed) others).2 leads

/-- What parts lead to is where further parts are followed from. -/
theorem follow_append (found : follow stack parts = .ok tree) :
    ∃ above, ∀ more, follow stack (parts ++ more) = follow (tree :: above) more := by
  fun_induction follow stack parts with
  | case2 here above =>
      cases found
      exact ⟨above, fun more => rfl⟩
  | case4 entries parts ih =>
      obtain ⟨above, onward⟩ := ih found
      exact ⟨above, fun more => by rw [List.cons_append, follow, if_pos rfl, onward]⟩
  | case5 entries parts up rest ih =>
      obtain ⟨above, onward⟩ := ih found
      exact ⟨above, fun more => by rw [List.cons_append, follow, if_pos rfl, onward]⟩
  | case7 entries above part parts notUp short name next entered ih =>
      obtain ⟨above', onward⟩ := ih found
      refine ⟨above', fun more => ?_⟩
      rw [List.cons_append, follow_entry above notUp short entered, onward]
  | case1 | case3 | case6 | case8 => cases found

/-- Where parts lead nowhere, further parts do not either. -/
theorem follow_append_of_error {lost : Lost} (failed : follow stack parts = .error lost) (more : List String) :
    follow stack (parts ++ more) = .error lost := by
  fun_induction follow stack parts with
  | case1 parts => rw [follow, failed]
  | case2 here above => cases failed
  | case3 bytes above part parts => rw [List.cons_append, follow, failed]
  | case4 entries parts ih => rw [List.cons_append, follow, if_pos rfl, ih failed]
  | case5 entries parts up rest ih => rw [List.cons_append, follow, if_pos rfl, ih failed]
  | case6 entries above part parts notUp long =>
      rw [List.cons_append, follow_long above notUp long, failed]
  | case7 entries above part parts notUp short name next entered ih =>
      rw [List.cons_append, follow_entry above notUp short entered, ih failed]
  | case8 entries above part parts notUp short absent =>
      rw [List.cons_append, follow_missing above notUp short absent, failed]

end FileTree

namespace Files

/-- A path leads to a file. -/
def IsFile (files : Files) (path : Path) : Prop :=
  ∃ bytes, files.look path = .ok (some (.file bytes))

/-- Names lead from a directory to a file below it. -/
def IsFileBelow (files : Files) (top : Path) (names : List String) : Prop :=
  names ≠ [] ∧ ∃ tree bytes, files.look top = .ok (some tree) ∧ tree.Leads names (.file bytes)

/-- Looking up all that there is at a path meets a path that is too long: this one, or one that names lead to
below it. -/
inductive MeetsTooLong (files : Files) (top : Path) : Path → Prop
  | top (long : files.IsTooLong top) : MeetsTooLong files top top
  | below {tree inner : FileTree} {names : List String} (there : files.look top = .ok (some tree))
      (leads : tree.Leads names inner) (long : files.IsTooLong (top.descend names)) :
      MeetsTooLong files top (top.descend names)

variable {files : Files} {path top : Path} {tree inner : FileTree} {names : List String}

theorem isProper_of_look (proper : files.root.IsProper) (found : files.look top = .ok (some tree)) :
    tree.IsProper :=
  look_keeps (fun _ inner _ listed => (inner.entry listed).2) proper found

theorem look_eq_some_iff : files.look path = .ok (some tree) ↔ path.hasNull = false ∧
    isLongPath path = false ∧ FileTree.follow [files.root] (files.here.join path).parts = .ok tree := by
  rw [look, find]
  cases path.hasNull with
  | true => simp
  | false =>
      cases isLongPath path with
      | true => simp
      | false =>
          cases FileTree.follow [files.root] (files.here.join path).parts with
          | ok found => simp
          | error lost => cases lost <;> simp

theorem join_descend_parts (here top : Path) (names : List String) :
    (here.join (top.descend names)).parts = (here.join top).parts ++ names := by
  have same : (top.descend names).isAbsolute = top.isAbsolute := rfl
  rw [Path.join, Path.join, same]
  cases top.isAbsolute with
  | true => rfl
  | false => exact (List.append_assoc _ _ _).symm

theorem hasNull_descend (top : Path) (names : List String) :
    (top.descend names).hasNull = (top.hasNull || names.any (·.toList.contains '\x00')) := by
  simp only [Path.hasNull, Path.descend, List.any_append]

/-- Names of what is there hold no null character. -/
theorem hasNull_descend_of_leads (proper : files.root.IsProper) (found : files.look top = .ok (some tree))
    (leads : tree.Leads names inner) : (top.descend names).hasNull = false := by
  obtain ⟨noNull, -, -⟩ := look_eq_some_iff.1 found
  have isEntryName := (isProper_of_look proper found).isEntryName leads
  rw [hasNull_descend, noNull, Bool.false_or, List.any_eq_false]
  exact fun name listed => by simp [(isEntryName name listed).noNull]

/-- Below a path that leads somewhere, further names lead from entry to entry. -/
theorem look_descend_iff (proper : files.root.IsProper) (found : files.look top = .ok (some tree))
    (down : ∀ name ∈ names, name ≠ "..") (short : isLongPath (top.descend names) = false) :
    files.look (top.descend names) = .ok (some inner) ↔ tree.Leads names inner := by
  obtain ⟨-, -, led⟩ := look_eq_some_iff.1 found
  obtain ⟨above, onward⟩ := FileTree.follow_append led
  have followed : FileTree.follow [files.root] (files.here.join (top.descend names)).parts = .ok inner ↔
      tree.Leads names inner := by
    rw [join_descend_parts, onward, (isProper_of_look proper found).follow_eq_ok_iff down]
  rw [look_eq_some_iff, followed]
  constructor
  · exact fun looked => looked.2.2
  · exact fun leads => ⟨hasNull_descend_of_leads proper found leads, short, leads⟩

/-- Where further names lead somewhere, the path before them does, unless it is too long. -/
theorem exists_look_of_descend (short : ¬ files.IsTooLong top)
    (found : files.look (top.descend names) = .ok (some inner)) :
    ∃ tree, files.look top = .ok (some tree) := by
  obtain ⟨noNull, -, led⟩ := look_eq_some_iff.1 found
  rw [hasNull_descend, Bool.or_eq_false_iff] at noNull
  rw [join_descend_parts] at led
  have shorter : isLongPath top = false := by
    rw [← Bool.not_eq_true]
    exact fun long => short ⟨noNull.1, .inl long⟩
  cases front : FileTree.follow [files.root] (files.here.join top).parts with
  | ok tree => exact ⟨tree, look_eq_some_iff.2 ⟨noNull.1, shorter, front⟩⟩
  | error lost => cases (FileTree.follow_append_of_error front names).symm.trans led

/-- A file below a directory is a file by its own path, unless this is too long. -/
theorem IsFileBelow.isFile (below : files.IsFileBelow top names) (proper : files.root.IsProper)
    (short : ¬ files.IsTooLong (top.descend names)) : files.IsFile (top.descend names) := by
  obtain ⟨-, tree, bytes, found, leads⟩ := below
  have isEntryName := (isProper_of_look proper found).isEntryName leads
  have noNull := hasNull_descend_of_leads proper found leads
  have within : isLongPath (top.descend names) = false := by
    rw [← Bool.not_eq_true]
    exact fun long => short ⟨noNull, .inl long⟩
  exact ⟨bytes, (look_descend_iff proper found (fun name listed => (isEntryName name listed).notUp)
    within).2 leads⟩

/-- A file by its own path is one below each path in front that is not too long. -/
theorem IsFile.isFileBelow (isFile : files.IsFile (top.descend names)) (proper : files.root.IsProper)
    (short : ¬ files.IsTooLong top) (filled : names ≠ []) (down : ∀ name ∈ names, name ≠ "..") :
    files.IsFileBelow top names := by
  obtain ⟨bytes, looked⟩ := isFile
  obtain ⟨tree, found⟩ := exists_look_of_descend short looked
  have within := (look_eq_some_iff.1 looked).2.1
  exact ⟨filled, tree, bytes, found, (look_descend_iff proper found down within).1 looked⟩

end Files

end CookbookRules
