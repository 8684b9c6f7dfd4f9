import CookbookRules.Proofs.RuleFile.Concatenation
import CookbookRules.Proofs.RuleFile.Globbing

/-!
# Files that paths stand for

A list of paths stands for the files of each path in turn: a file for itself, and a directory for the rule
files below it that are not hidden, each once and in the order of their texts. Files that a list stands for
stand for themselves, so that a directory may be replaced by its files.
-/

namespace CookbookRules

/-! ## Endings -/

namespace Path

variable {name : String} {stem ending : List Char}

/-- What stands behind the last dot of a name is its ending, with something in front and behind. -/
theorem suffixOf_of_dot (letters : name.toList = stem ++ '.' :: ending) (inFront : stem ≠ [])
    (behind : ending ≠ []) (last : '.' ∉ ending) : suffixOf name = String.ofList ('.' :: ending) := by
  have backwards : name.toList.reverse = ending.reverse ++ '.' :: stem.reverse := by
    rw [letters, List.reverse_append, List.reverse_cons, List.append_assoc]
    rfl
  have taken : name.toList.reverse.takeWhile (· != '.') = ending.reverse := by
    rw [backwards, List.takeWhile_append_of_pos]
    · simp
    · rintro c inside
      simpa using fun same : c = '.' => last (same ▸ List.mem_reverse.1 inside)
  have longer : 0 < stem.length := List.length_pos_iff.2 inFront
  rw [suffixOf, taken, if_neg, List.reverse_reverse]
  simp [backwards, behind]
  omega

/-- A name has an ending only behind a dot that is neither its first character nor its last. -/
theorem suffixOf_cases (name : String) : suffixOf name = "" ∨
    ∃ stem ending, name.toList = stem ++ '.' :: ending ∧ stem ≠ [] ∧ ending ≠ [] ∧ '.' ∉ ending := by
  have cut := List.takeWhile_append_dropWhile (p := (· != '.')) (l := name.toList.reverse)
  have stopped := List.head?_dropWhile_not (· != '.') name.toList.reverse
  have apart : '.' ∉ name.toList.reverse.takeWhile (· != '.') := fun inside => by
    simpa using List.mem_takeWhile_imp inside
  rw [suffixOf]
  generalize name.toList.reverse.takeWhile (· != '.') = ending at cut apart ⊢
  cases behind : name.toList.reverse.dropWhile (· != '.') with
  | nil =>
      rw [behind, List.append_nil] at cut
      exact .inl (by simp [cut])
  | cons dot stem =>
      rw [behind] at cut stopped
      obtain rfl : dot = '.' := by simpa using stopped
      split
      · exact .inl rfl
      · next long =>
        rw [← cut] at long
        simp only [List.isEmpty_iff, List.length_append, List.length_cons, Bool.or_eq_true,
          decide_eq_true_eq, not_or] at long
        refine .inr ⟨stem.reverse, ending.reverse, ?_, ?_, ?_, ?_⟩
        · rw [← List.reverse_reverse name.toList, ← cut]
          simp
        · rintro none
          simp [List.reverse_eq_nil_iff.1 none] at long
        · simpa using long.1
        · simpa using apart

end Path

namespace RuleFile

open Outcome

/-- The name of a rule file in a directory: behind its last dot, which is not its first character, stands an
ending of rule files in letters of either case. -/
def IsRuleName (name : String) : Prop :=
  ∃ stem ending, name.toList = stem ++ '.' :: ending ∧ stem ≠ [] ∧ '.' ∉ ending ∧
    Text.lower (String.ofList ('.' :: ending)) ∈ ruleFileEndings

/-- Names lead from a directory to a rule file below it, and none of them begins with a dot. -/
structure IsRuleFileBelow (files : Files) (directory : Path) (names : List String) : Prop where
  isFile : files.IsFileBelow directory names
  visible : ∀ name ∈ names, name.toList.head? ≠ some '.'
  last : ∃ name, names.getLast? = some name ∧ IsRuleName name

/-- The files that a path stands for: a file for itself, and a directory for the rule files below it, which
ascend by their texts. -/
inductive Expands (files : Files) : Path → List Path → Prop
  | file {path : Path} (isFile : files.IsFile path) : Expands files path [path]
  | directory {path : Path} {entries : List (String × FileTree)} {found : List Path}
      (there : files.look path = .ok (some (.directory entries)))
      (mem : ∀ file, file ∈ found ↔ ∃ names, IsRuleFileBelow files path names ∧ path.descend names = file)
      (ascending : found.Pairwise fun p q => p.toString < q.toString) : Expands files path found

/-- The resolution of a list of paths. If each is a file or a directory, the files that they stand for stand
behind each other, and else the first that is neither is the fault. So is a path at which something is too
long to be looked up. Files that are found stand for themselves, and a directory may be replaced by its
files. -/
structure Resolution (files : Files) (paths : List Path) : Prop where
  whole : (∀ path ∈ paths, Resolves files path) → ∃ pieces, List.Forall₂ (Expands files) paths pieces ∧
    (resolve files ruleFileEndings paths).2 = .ok pieces.flatten
  fails : (∃ path ∈ paths, ¬ Resolves files path) → ∃ before path after fault,
    paths = before ++ path :: after ∧ (∀ earlier ∈ before, Resolves files earlier) ∧
      Unresolved files path fault ∧ (resolve files ruleFileEndings paths).2 = .error fault
  again : ∀ found, (resolve files ruleFileEndings paths).2 = .ok found →
    (resolve files ruleFileEndings found).2 = .ok found
  replaced : ∀ before path after, paths = before ++ path :: after → Resolves files path →
    ∀ found, Expands files path found →
    (resolve files ruleFileEndings paths).2 = (resolve files ruleFileEndings (before ++ found ++ after)).2

variable {files : Files} {path : Path} {paths found : List Path} {tree : FileTree} {name : String}
  {names : List String}

/-! ## Rule files below a directory -/

theorem mem_ruleFileEndings_iff :
    Text.lower (Path.suffixOf name) ∈ ruleFileEndings ↔ IsRuleName name := by
  have bare : Text.lower "" ∉ ruleFileEndings := by decide
  have dot : Text.lower "." ∉ ruleFileEndings := by decide
  constructor
  · intro listed
    rcases Path.suffixOf_cases name with none | ⟨stem, ending, letters, inFront, behind, last⟩
    · rw [none] at listed
      exact absurd listed bare
    · rw [Path.suffixOf_of_dot letters inFront behind last] at listed
      exact ⟨stem, ending, letters, inFront, last, listed⟩
  · rintro ⟨stem, ending, letters, inFront, last, listed⟩
    have behind : ending ≠ [] := by
      rintro rfl
      exact dot listed
    rwa [Path.suffixOf_of_dot letters inFront behind last]

theorem isHidden_iff : isHidden name = true ↔ name.toList.head? = some '.' := by
  rw [isHidden, String.startsWith_string_iff]
  cases name.toList with
  | nil => simp
  | cons c rest => simp [eq_comm]

theorem isRuleFile_iff : isRuleFile ruleFileEndings names = true ↔
    (∀ name ∈ names, name.toList.head? ≠ some '.') ∧
      ∃ name, names.getLast? = some name ∧ IsRuleName name := by
  simp only [isRuleFile, Bool.and_eq_true, Bool.not_eq_true', List.any_eq_false, isHidden_iff,
    Option.any_eq_true, List.contains_iff_mem, mem_ruleFileEndings_iff]

theorem mem_ruleFiles_iff (there : files.look path = .ok (some tree)) (file : Path) :
    file ∈ ruleFiles ruleFileEndings path tree ↔
      ∃ names, IsRuleFileBelow files path names ∧ path.descend names = file := by
  rw [ruleFiles, List.mem_mergeSort, List.mem_map]
  simp only [List.mem_filter, FileTree.mem_inside_iff, isRuleFile_iff]
  constructor
  · rintro ⟨names, ⟨⟨filled, bytes, leads⟩, visible, last⟩, same⟩
    exact ⟨names, ⟨⟨filled, tree, bytes, there, leads⟩, visible, last⟩, same⟩
  · rintro ⟨names, ⟨⟨filled, tree', bytes, there', leads⟩, visible, last⟩, same⟩
    cases there.symm.trans there'
    exact ⟨names, ⟨⟨filled, bytes, leads⟩, visible, last⟩, same⟩

theorem pairwise_ruleFiles (proper : tree.IsProper) (normal : path.IsNormal) :
    (ruleFiles ruleFileEndings path tree).Pairwise fun p q => p.toString < q.toString := by
  apply pairwise_mergeSort_lt
  rw [List.map_map]
  refine List.Nodup.map_on ?_ (proper.nodup_inside.filter _)
  intro names member names' member' same
  have isName := proper.isName_of_mem_inside (List.mem_of_mem_filter member)
  have isName' := proper.isName_of_mem_inside (List.mem_of_mem_filter member')
  have descended := (normal.descend isName).eq_of_toString (normal.descend isName') same
  exact List.append_cancel_left (Path.mk.inj descended).2

/-! ## Paths -/

/-- Lists that ascend strictly and have the same members are the same. -/
theorem eq_of_ascending {found' : List Path} (same : ∀ file, file ∈ found ↔ file ∈ found')
    (ascending : found.Pairwise fun p q => p.toString < q.toString)
    (ascending' : found'.Pairwise fun p q => p.toString < q.toString) : found = found' := by
  have nodup {found : List Path} (ascending : found.Pairwise fun p q => p.toString < q.toString) :
      found.Nodup := by
    refine ascending.imp ?_
    rintro p q before rfl
    exact lt_irrefl _ before
  have perm := (List.perm_ext_iff_of_nodup (nodup ascending) (nodup ascending')).2 same
  refine perm.eq_of_pairwise ?_ ascending ascending'
  intro p q _ _ before behind
  exact absurd behind (lt_asymm before)

/-- A path that resolves stands for files, and puts them in front of those of the paths behind it. -/
theorem exists_expands (proper : files.root.IsProper) (normal : path.IsNormal)
    (resolves : Resolves files path) : ∃ own, Expands files path own ∧ ∀ rest,
      (resolve files ruleFileEndings (path :: rest)).2 =
        (own ++ ·) <$> (resolve files ruleFileEndings rest).2 := by
  have finds := finds_lookUp files ruleFileEndings path
  simp only [resolve]
  cases looked : lookUp files ruleFileEndings path with
  | error fault =>
      rw [looked] at finds
      cases finds with
      | tooLong meets => exact absurd meets (resolves.short _)
  | ok resolved =>
      rw [looked] at finds
      cases finds with
      | nothing absent =>
          obtain ⟨tree, there⟩ := resolves.there
          cases absent.symm.trans there
      | file there => exact ⟨[path], .file ⟨_, there⟩, fun rest => rfl⟩
      | directory there short =>
          exact ⟨_, .directory there (mem_ruleFiles_iff there)
            (pairwise_ruleFiles (Files.isProper_of_look proper there) normal), fun rest => rfl⟩

/-- What a path stands for is all that it can stand for. -/
theorem Expands.unique {found' : List Path} (expands : Expands files path found)
    (expands' : Expands files path found') : found = found' := by
  cases expands with
  | file isFile =>
      obtain ⟨bytes, there⟩ := isFile
      cases expands' with
      | file => rfl
      | directory there' => cases there.symm.trans there'
  | directory there mem ascending =>
      cases expands' with
      | file isFile =>
          obtain ⟨bytes, there'⟩ := isFile
          cases there.symm.trans there'
      | directory there' mem' ascending' =>
          exact eq_of_ascending (fun file => (mem file).trans (mem' file).symm) ascending ascending'

/-- The files that a path stands for are files by their own paths, where none of these is too long. -/
theorem Expands.isFile (expands : Expands files path found) (proper : files.root.IsProper)
    (short : ∀ other, ¬ files.MeetsTooLong path other) : ∀ file ∈ found, files.IsFile file := by
  intro file member
  cases expands with
  | file isFile =>
      cases List.mem_singleton.1 member
      exact isFile
  | directory there mem ascending =>
      obtain ⟨names, ⟨below, -, -⟩, rfl⟩ := (mem file).1 member
      refine below.isFile proper fun long => ?_
      obtain ⟨-, tree, bytes, looked, leads⟩ := below
      exact short _ (.below looked leads long)

/-- Files stand for themselves. -/
theorem resolve_of_isFile (isFile : ∀ file ∈ found, files.IsFile file) :
    (resolve files ruleFileEndings found).2 = .ok found := by
  induction found with
  | nil => rfl
  | cons file rest ih =>
      rw [List.forall_mem_cons] at isFile
      obtain ⟨⟨bytes, there⟩, others⟩ := isFile
      rw [resolve, lookUp, there]
      change (file :: ·) <$> (resolve files ruleFileEndings rest).2 = .ok (file :: rest)
      rw [ih others]
      rfl

/-- Paths that all resolve stand for the files of each, behind each other. -/
theorem exists_pieces (proper : files.root.IsProper) (normal : ∀ path ∈ paths, path.IsNormal)
    (resolves : ∀ path ∈ paths, Resolves files path) :
    ∃ pieces, List.Forall₂ (Expands files) paths pieces ∧
      (resolve files ruleFileEndings paths).2 = .ok pieces.flatten := by
  induction paths with
  | nil => exact ⟨[], .nil, rfl⟩
  | cons path rest ih =>
      rw [List.forall_mem_cons] at normal resolves
      obtain ⟨own, expands, step⟩ := exists_expands proper normal.1 resolves.1
      obtain ⟨pieces, each, resolved⟩ := ih normal.2 resolves.2
      refine ⟨own :: pieces, .cons expands each, ?_⟩
      rw [step, resolved]
      rfl

theorem isFile_of_pieces {pieces : List (List Path)} (each : List.Forall₂ (Expands files) paths pieces)
    (proper : files.root.IsProper) (resolves : ∀ path ∈ paths, Resolves files path) :
    ∀ file ∈ pieces.flatten, files.IsFile file := by
  induction each with
  | nil => exact List.forall_mem_nil _
  | cons expands rest ih =>
      rw [List.forall_mem_cons] at resolves
      rw [List.flatten_cons, List.forall_mem_append]
      exact ⟨expands.isFile proper resolves.1.short, ih resolves.2⟩

/-- Paths in a proper tree are resolved path by path, and what they stand for stands for itself. -/
theorem resolution (proper : files.root.IsProper) (normal : ∀ path ∈ paths, path.IsNormal) :
    Resolution files paths := by
  refine ⟨exists_pieces proper normal, exists_fault_of_not_resolves, ?_, ?_⟩
  · intro found resolved
    by_cases all : ∀ path ∈ paths, Resolves files path
    · obtain ⟨pieces, each, made⟩ := exists_pieces proper normal all
      cases resolved.symm.trans made
      exact resolve_of_isFile (isFile_of_pieces each proper all)
    · obtain ⟨-, -, -, fault, -, -, -, failed⟩ := exists_fault_of_not_resolves (by simpa using all)
      cases resolved.symm.trans failed
  · rintro before path after rfl resolves found expands
    obtain ⟨own, expands', step⟩ := exists_expands proper (normal path (by simp)) resolves
    obtain rfl := expands.unique expands'
    have same := resolve_of_isFile (expands.isFile proper resolves.short)
    rw [List.append_assoc, resolve_append, resolve_append, step, resolve_append, same]
    rfl

/-- A cookbook among the paths stands for the rule file that lies in a directory of it. -/
theorem resolution_library :
    library.root.IsProper ∧ (∀ path ∈ [Path.ofString "books"], path.IsNormal) ∧
      Resolution library [.ofString "books"] ∧
      ∃ found, (resolve library ruleFileEndings [.ofString "books"]).2 = .ok found ∧
        ⟨.relative, ["books", "novels", "z.yaml"]⟩ ∈ found := by
  have normal : ∀ path ∈ [Path.ofString "books"], path.IsNormal :=
    List.forall_mem_singleton.2 (Path.isNormal_ofString "books")
  have resolved : (resolve library ruleFileEndings [.ofString "books"]).2 =
      .ok (ruleFiles ruleFileEndings (.ofString "books") novels ++ []) := by
    have searched : Glob.everything.search library (.ofString "books") = .ok (some novels) := rfl
    rw [resolve, lookUp, look_library]
    simp only [novels, ok_bind, expand]
    rw [searched]
    rfl
  have leads : novels.Leads ["novels", "z.yaml"] (.file []) :=
    .enter (.tail _ (.head _)) (.enter (.tail _ (.head _)) (.here _))
  have below : IsRuleFileBelow library (.ofString "books") ["novels", "z.yaml"] :=
    ⟨⟨by decide, novels, [], look_library, leads⟩, by decide, "z.yaml", rfl,
      ['z'], ['y', 'a', 'm', 'l'], rfl, by decide, by decide, by decide⟩
  rw [List.append_nil] at resolved
  exact ⟨isProper_library, normal, resolution isProper_library normal, _, resolved,
    (mem_ruleFiles_iff look_library _).2 ⟨_, below, rfl⟩⟩

/-- That nothing is there is not all that can be said of the first path that does not resolve. -/
theorem resolve_longPath :
    ¬ ∀ (files : Files) (before after : List Path) (path : Path),
      (∀ earlier ∈ before, Resolves files earlier) → (∀ tree, files.look path ≠ .ok (some tree)) →
      (resolve files ruleFileEndings (before ++ path :: after)).2 = .error (.nothing path) := by
  intro always
  have looked := Files.look_of_isTooLong isTooLong_longPath
  have missing := always bareSurroundings.files [] [] longPath (by simp)
    fun tree there => by cases looked.symm.trans there
  rw [List.nil_append, resolve, lookUp, looked] at missing
  cases Except.error.inj missing

end RuleFile

end CookbookRules
