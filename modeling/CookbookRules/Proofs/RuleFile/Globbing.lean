import CookbookRules.Proofs.RuleFile.Confinement
import CookbookRules.Proofs.RuleFile.Running

/-!
# Files that a pattern lists

What the matcher of an accepted pattern answers on a cookbook: the files below the cookbook whose names the
components of the pattern match, each once and in ascending order. A pattern without wildcards is a path, and
its matcher agrees with the two that look a path up.
-/

namespace CookbookRules.RuleFile

open Outcome Matcher

/-- The names of a file that a pattern lists in a cookbook: the components of the pattern match them, and the
last component is no `**`, which stands for directories only. -/
structure Lists (files : Files) (cookbook s : String) (names : List String) : Prop where
  isFile : files.IsFileBelow (.ofString cookbook) names
  matched : Glob.Matches (Path.ofString s).parts names
  last : (Path.ofString s).parts.getLast? ≠ some "**"

/-- A text without wildcards matches in a cookbook exactly if it is the path of a file there, and on such a
path the other matchers that look at files agree. -/
structure AgreesOnFile (files : Files) (cookbook s : String) (finding : Finding) : Prop where
  found : finding ≠ .nothing ↔ files.IsFile ((Path.ofString cookbook).join (.ofString s))
  present : files.IsFile ((Path.ofString cookbook).join (.ofString s)) →
    ∃ metadata, (Matcher.fileExists s).run files (.text cookbook) = .ok (.found metadata)
  notMissing : files.IsFile ((Path.ofString cookbook).join (.ofString s)) →
    (Matcher.missingFile s).run files (.text cookbook) = .ok .nothing

/-- What a pattern gives on a cookbook. The hits are the paths of the files that it lists, in ascending order
and each once; without such a file there is no match. -/
structure Globs (files : Files) (cookbook s : String) (hits : List String) : Prop where
  answer : (Matcher.glob s).run files (.text cookbook) = .ok (foundFiles s hits)
  ascending : hits.Pairwise (· < ·)
  mem : ∀ hit, hit ∈ hits ↔ ∃ names, Lists files cookbook s names ∧ "/".intercalate names = hit
  nothing : foundFiles s hits = .nothing ↔ ∀ names, ¬ Lists files cookbook s names
  plain : (∀ c ∈ s.toList, c ∉ Glob.wildcards) → AgreesOnFile files cookbook s (foundFiles s hits)

variable {files : Files} {cookbook s : String} {top : Path} {pattern : Glob.Pattern}
  {hits names : List String}

theorem foundFiles_eq_nothing_iff : foundFiles s hits = .nothing ↔ hits = [] := by
  cases hits with
  | nil => simp [foundFiles]
  | cons hit rest => simp [foundFiles]

/-- The hits of a pattern are the files that it lists. -/
theorem mem_hits_iff_lists (read : Glob.Pattern.ofString s = .ok pattern)
    (noSlash : s.toList.getLast? ≠ some '/') (ran : pattern.run files (.ofString cookbook) = .ok hits)
    (hit : String) :
    hit ∈ hits ↔ ∃ names, Lists files cookbook s names ∧ "/".intercalate names = hit := by
  rcases Glob.run_eq_ok ran with ⟨entries, found, rfl⟩ | ⟨rfl, other⟩
  · simp only [Glob.mem_hits_iff, FileTree.mem_inside_iff, Glob.selects_iff read noSlash]
    constructor
    · rintro ⟨names, ⟨filled, bytes, leads⟩, ⟨matched, last⟩, same⟩
      exact ⟨names, ⟨⟨filled, _, bytes, found, leads⟩, matched, last⟩, same⟩
    · rintro ⟨names, ⟨⟨filled, tree', bytes, found', leads⟩, matched, last⟩, same⟩
      cases found.symm.trans found'
      exact ⟨names, ⟨filled, bytes, leads⟩, ⟨matched, last⟩, same⟩
  · refine iff_of_false List.not_mem_nil ?_
    rintro ⟨names, ⟨⟨filled, _, bytes, there, leads⟩, -, -⟩, -⟩
    cases leads with
    | here => exact filled rfl
    | enter => exact other _ there

theorem pairwise_of_patternRun (proper : files.root.IsProper) (ran : pattern.run files top = .ok hits) :
    hits.Pairwise (· < ·) := by
  rcases Glob.run_eq_ok ran with ⟨entries, found, rfl⟩ | ⟨rfl, -⟩
  · exact Glob.pairwise_hits (Files.isProper_of_look proper found)
  · exact List.Pairwise.nil

/-- A file that a pattern lists is looked up by its path. -/
theorem Lists.not_isTooLong (lists : Lists files cookbook s names)
    (read : Glob.Pattern.ofString s = .ok pattern) (noSlash : s.toList.getLast? ≠ some '/')
    (free : ¬ Stuck files (.ofString cookbook) (.glob s)) :
    ¬ files.IsTooLong ((Path.ofString cookbook).descend names) := by
  intro long
  obtain ⟨⟨filled, tree, bytes, there, leads⟩, matched, last⟩ := lists
  have looks := Glob.looksUp_of_selects leads ((Glob.selects_iff read noSlash).2 ⟨matched, last⟩)
  cases leads with
  | here => exact filled rfl
  | enter => exact free (.tooLong read (.below there looks long))

/-- Where a pattern is a path, the file there is the one that it lists. -/
theorem agreesOnFile (keeps : KeepsTo cookbook s) (read : Glob.Pattern.ofString s = .ok pattern)
    (noSlash : s.toList.getLast? ≠ some '/') (proper : files.root.IsProper)
    (free : ¬ Stuck files (.ofString cookbook) (.glob s))
    (plain : ∀ c ∈ s.toList, c ∉ Glob.wildcards)
    (nothing : foundFiles s hits = .nothing ↔ ∀ names, ¬ Lists files cookbook s names) :
    AgreesOnFile files cookbook s (foundFiles s hits) := by
  have plainParts : ∀ part ∈ (Path.ofString s).parts, ∀ c ∈ part.toList, c ∉ Glob.wildcards :=
    fun part listed c inside => plain c (Glob.mem_of_mem_components listed inside)
  have last : (Path.ofString s).parts.getLast? ≠ some "**" := fun stars =>
    plainParts "**" (List.mem_of_getLast? stars) '*' (by decide) (by decide)
  have lists (names : List String) : Lists files cookbook s names ↔
      files.IsFile ((Path.ofString cookbook).join (.ofString s)) ∧ names = (Path.ofString s).parts := by
    rw [keeps.joined]
    constructor
    · intro lists
      obtain rfl := (Glob.matches_iff_of_plain plainParts).1 lists.matched
      exact ⟨lists.isFile.isFile proper (lists.not_isTooLong read noSlash free), rfl⟩
    · rintro ⟨isFile, rfl⟩
      have filled := (Glob.exists_pattern_iff.1 ⟨_, read⟩).filled
      have short : ¬ files.IsTooLong (.ofString cookbook) := fun long => free (.tooLong read (.top long))
      exact ⟨isFile.isFileBelow proper short filled fun part listed => (keeps.down part listed).notUp,
        (Glob.matches_iff_of_plain plainParts).2 rfl, last⟩
  have there (isFile : files.IsFile ((Path.ofString cookbook).join (.ofString s))) :
      files.exists? ((Path.ofString cookbook).join (.ofString s)) = .ok true := by
    obtain ⟨bytes, found⟩ := isFile
    rw [Files.exists?, found]
    rfl
  refine ⟨?_, fun isFile => ?_, fun isFile => ?_⟩
  · rw [ne_eq, nothing, not_forall]
    simp only [lists, not_not]
    constructor
    · rintro ⟨names, isFile, -⟩
      exact isFile
    · exact fun isFile => ⟨_, isFile, rfl⟩
  · rw [run_fileExists, there isFile]
    exact ⟨_, rfl⟩
  · rw [run_missingFile, there isFile]
    rfl

/-- A pattern that is accepted and does not end in a slash lists the files of a cookbook that it matches. -/
theorem exists_globs (accepted : insideCookbook "pattern" (.text s) = .ok s) (isPattern : Glob.IsPattern s)
    (noSlash : s.toList.getLast? ≠ some '/') (proper : files.root.IsProper)
    (free : ¬ Stuck files (.ofString cookbook) (.glob s)) : ∃ hits, Globs files cookbook s hits := by
  have keeps := ((insideCookbook_eq_ok_iff rfl).1 accepted).keepsTo cookbook
  obtain ⟨pattern, read⟩ := Glob.exists_pattern_iff.2 isPattern
  rcases patternRun_cases files (.ofString cookbook) read with ⟨⟨hits, ran⟩, -⟩ | ⟨-, stuck⟩
  · have mem := mem_hits_iff_lists read noSlash ran
    have nothing : foundFiles s hits = .nothing ↔ ∀ names, ¬ Lists files cookbook s names := by
      rw [foundFiles_eq_nothing_iff, List.eq_nil_iff_forall_not_mem]
      constructor
      · exact fun none names lists => none _ ((mem _).2 ⟨names, lists, rfl⟩)
      · intro none hit member
        obtain ⟨names, lists, -⟩ := (mem hit).1 member
        exact none names lists
    refine ⟨hits, ?_, pairwise_of_patternRun proper ran, mem, nothing, fun plain => ?_⟩
    · rw [run_glob, read, mapError_ok, ok_bind, ran]
      rfl
    · exact agreesOnFile keeps read noSlash proper free plain nothing
  · exact absurd stuck free

/-- A cookbook with one file and a directory of two. -/
def novels : FileTree :=
  .directory [("a.md", .file []), ("novels", .directory [("b.md", .file []), ("z.yaml", .file [])])]

/-- Surroundings in which that directory is a cookbook. -/
def library : Files := ⟨.directory [("books", novels)], ⟨.root, []⟩⟩

theorem isProper_library : library.root.IsProper := by
  have entryName (name : String) (given : name ∈ ["books", "a.md", "novels", "b.md", "z.yaml"]) :
      IsEntryName name := by
    simp only [List.mem_cons, List.not_mem_nil, or_false] at given
    rcases given with rfl | rfl | rfl | rfl | rfl
    all_goals exact ⟨⟨by decide, by decide, by decide⟩, by decide, rfl, by simp⟩
  have shelf : (FileTree.directory [("b.md", .file []), ("z.yaml", .file [])]).IsProper := by
    refine .directory ?_ (by decide) ?_
    · simp [entryName]
    · simp [FileTree.IsProper.file]
  have inside : novels.IsProper := by
    refine .directory ?_ (by decide) ?_
    · simp [entryName]
    · simp [FileTree.IsProper.file, shelf]
  refine .directory ?_ (by decide) ?_
  · simp [entryName]
  · simp [inside]

theorem look_library : library.look (.ofString "books") = .ok (some novels) := rfl

/-- A pattern that is looked for in the cookbook is not stuck there. -/
theorem not_stuck_library {pattern : Glob.Pattern} {found : Option FileTree}
    (read : Glob.Pattern.ofString s = .ok pattern)
    (searched : pattern.search library (.ofString "books") = .ok found) :
    ¬ Stuck library (.ofString "books") (.glob s) := by
  rcases patternRun_cases library (.ofString "books") read with ⟨-, free⟩ | ⟨⟨fault, failed⟩, -⟩
  · exact free
  · rw [Glob.Pattern.run, searched] at failed
    cases failed

/-- A pattern with a set behind two stars lists a file two levels below the cookbook. -/
theorem exists_globs_library :
    insideCookbook "pattern" (.text "**/[a-c]*.md") = .ok "**/[a-c]*.md" ∧
      Glob.IsPattern "**/[a-c]*.md" ∧ "**/[a-c]*.md".toList.getLast? ≠ some '/' ∧
      library.root.IsProper ∧ ¬ Stuck library (.ofString "books") (.glob "**/[a-c]*.md") ∧
      ∃ hits, Globs library "books" "**/[a-c]*.md" hits ∧ "novels/b.md" ∈ hits := by
  have accepted : insideCookbook "pattern" (.text "**/[a-c]*.md") = .ok "**/[a-c]*.md" := rfl
  have read : Glob.Pattern.ofString "**/[a-c]*.md" = .ok ⟨[.anyDirectories,
    .name [.oneOf (.ofInside ['a', '-', 'c']), .anyText, .literal '.', .literal 'm', .literal 'd']],
    false⟩ := rfl
  have isPattern := Glob.exists_pattern_iff.1 ⟨_, read⟩
  have noSlash : "**/[a-c]*.md".toList.getLast? ≠ some '/' := by decide
  have searched : Glob.Pattern.search ⟨[.anyDirectories, .name [.oneOf (.ofInside ['a', '-', 'c']),
    .anyText, .literal '.', .literal 'm', .literal 'd']], false⟩ library (.ofString "books") =
      .ok (some novels) := rfl
  have free := not_stuck_library read searched
  obtain ⟨hits, globs⟩ := exists_globs accepted isPattern noSlash isProper_library free
  have ending : Glob.Fits ['.', 'm', 'd'] ['.', 'm', 'd'] :=
    (Glob.fits_iff_of_plain (by simp [Glob.wildcards])).2 rfl
  have fits : Glob.Fits "[a-c]*.md".toList "b.md".toList := by
    refine .oneOf rfl ((Glob.holds_hyphen_iff (by decide) (by decide)).2 (by decide)) ?_
    exact @Glob.Fits.anyText _ [] _ ending
  have matched : Glob.Matches ["**", "[a-c]*.md"] ["novels", "b.md"] :=
    @Glob.Matches.directories _ ["novels"] _ (.name (by decide) fits .done) (by simp)
  have leads : novels.Leads ["novels", "b.md"] (.file []) :=
    .enter (.tail _ (.head _)) (.enter (.head _) (.here _))
  have lists : Lists library "books" "**/[a-c]*.md" ["novels", "b.md"] :=
    ⟨⟨by decide, novels, [], look_library, leads⟩, matched, by decide⟩
  exact ⟨accepted, isPattern, noSlash, isProper_library, free, hits, globs,
    (globs.mem _).2 ⟨_, lists, by decide⟩⟩

/-- A last `**` matches the file before it with no directory, and yet that file is not listed. -/
theorem run_glob_omits_lastStars :
    ¬ ∀ (files : Files) (cookbook s : String),
      insideCookbook "pattern" (.text s) = .ok s → Glob.IsPattern s → s.toList.getLast? ≠ some '/' →
      files.root.IsProper → ¬ Stuck files (.ofString cookbook) (.glob s) →
      ∃ hits, (Matcher.glob s).run files (.text cookbook) = .ok (foundFiles s hits) ∧
        ∀ hit, hit ∈ hits ↔ ∃ names, files.IsFileBelow (.ofString cookbook) names ∧
          Glob.Matches (Path.ofString s).parts names ∧ "/".intercalate names = hit := by
  intro always
  have read : Glob.Pattern.ofString "a.md/**" = .ok ⟨[.name [.literal 'a', .literal '.', .literal 'm',
    .literal 'd'], .anyDirectories], false⟩ := rfl
  have searched : Glob.Pattern.search ⟨[.name [.literal 'a', .literal '.', .literal 'm', .literal 'd'],
    .anyDirectories], false⟩ library (.ofString "books") = .ok (some novels) := rfl
  obtain ⟨hits, ran, mem⟩ := always library "books" "a.md/**" rfl (Glob.exists_pattern_iff.1 ⟨_, read⟩)
    (by decide) isProper_library (not_stuck_library read searched)
  have nothing : (Matcher.glob "a.md/**").run library (.text "books") = .ok .nothing := by
    rw [run_glob, read, mapError_ok, ok_bind, Glob.Pattern.run, searched]
    change _ <$> (pure (Glob.Pattern.hits _ novels) : Except ReadFault _).mapError _ = _
    rw [Glob.hits_eq_nil rfl]
    rfl
  have none : foundFiles "a.md/**" hits = .nothing := Except.ok.inj (ran.symm.trans nothing)
  obtain rfl := foundFiles_eq_nothing_iff.1 none
  have fits : Glob.Fits ['a', '.', 'm', 'd'] ['a', '.', 'm', 'd'] :=
    (Glob.fits_iff_of_plain (by simp [Glob.wildcards])).2 rfl
  have matched : Glob.Matches ["a.md", "**"] ["a.md"] :=
    .name (by decide) fits (@Glob.Matches.directories _ [] _ .done fun _ => rfl)
  have leads : novels.Leads ["a.md"] (.file []) := .enter (.head _) (.here _)
  cases (mem "a.md").2 ⟨["a.md"], ⟨by decide, novels, [], look_library, leads⟩, matched, by decide⟩

end CookbookRules.RuleFile
