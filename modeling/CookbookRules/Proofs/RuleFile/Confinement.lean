import CookbookRules.Proofs.Files.Search
import CookbookRules.Proofs.Files.WindowsPath
import CookbookRules.RuleFile.Strategy

/-!
# Paths that stay in a cookbook

Which texts are accepted as paths in a cookbook, and that such a text keeps to the cookbook: the path that
is looked up, and each file that it selects as a pattern, is reached from there by going down.
-/

namespace CookbookRules

/-! ## Going down -/

/-- A component that leads down. -/
structure LeadsDown (part : String) : Prop where
  name : IsName part
  notUp : part ≠ ".."

namespace Path

/-- A path is reached from another by going down. -/
def IsBelow (p top : Path) : Prop :=
  ∃ names, p = top.descend names ∧ ∀ name ∈ names, LeadsDown name

theorem join_of_relative {p : Path} (top : Path) (h : p.isAbsolute = false) :
    top.join p = top.descend p.parts := by
  rw [join, h]
  rfl

/-- Names with slashes between them are a relative path. -/
theorem ofString_intercalate {parts : List String} (names : ∀ part ∈ parts, IsName part) :
    ofString (String.intercalate "/" parts) = ⟨.relative, parts⟩ := by
  have slash : "/".toList = ['/'] := rfl
  rw [ofString, String.toList_intercalate, slash, components_intercalate names, anchorOf,
    takeWhile_intercalate names]
  rfl

end Path

/-- All that a directory lists leads down. -/
def FileTree.ListsNames (tree : FileTree) : Prop :=
  ∀ names ∈ tree.inside, ∀ name ∈ names, LeadsDown name

/-- Where each hit of a pattern in a directory lies. -/
theorem Glob.Pattern.isBelow_of_mem_hits {pattern : Pattern} {tree : FileTree} {hit : String}
    (lists : tree.ListsNames) (member : hit ∈ pattern.hits tree) (top : Path) :
    (top.join (.ofString hit)).IsBelow top := by
  rw [hits, List.mem_mergeSort] at member
  obtain ⟨names, selected, rfl⟩ := List.mem_map.1 member
  have down := lists names (List.mem_filter.1 selected).1
  refine ⟨names, ?_, down⟩
  rw [Path.ofString_intercalate fun name listed => (down name listed).name]
  rfl

/-- Where each file lies that a pattern selects. -/
theorem Glob.Pattern.isBelow_of_mem_run {pattern : Pattern} {files : Files} {top : Path}
    {hits : List String} {hit : String} (ran : pattern.run files top = .ok hits)
    (lists : ∀ tree, files.look top = .ok (some tree) → tree.ListsNames) (member : hit ∈ hits) :
    (top.join (.ofString hit)).IsBelow top := by
  rcases run_eq_ok ran with ⟨entries, found, rfl⟩ | ⟨rfl, -⟩
  · exact isBelow_of_mem_hits (lists _ found) member top
  · cases member

namespace RuleFile

open Outcome

/-- A text that cannot lead out of a directory: it begins with no slash and no drive letter, and none of
the segments between its slashes is a double dot. -/
structure IsConfined (s : String) : Prop where
  unanchored : IsUnanchored s
  noParent : ".." ∉ segments s

/-- What a text keeps to in a cookbook: joined to it, the text leads down by its own components, the two
looks at one file look there and nowhere else, and what it selects as a pattern lies below the cookbook. -/
structure KeepsTo (cookbook s : String) : Prop where
  joined : (Path.ofString cookbook).join (.ofString s) =
    (Path.ofString cookbook).descend (Path.ofString s).parts
  down : ∀ part ∈ (Path.ofString s).parts, LeadsDown part
  looks : ∀ matcher ∈ [Matcher.missingFile s, .fileExists s], ∀ files files' : Files,
    let there := (Path.ofString cookbook).descend (Path.ofString s).parts
    files.look there = files'.look there →
      matcher.run files (.text cookbook) = matcher.run files' (.text cookbook)
  selects : ∀ (files : Files) (finding : Finding),
    (Matcher.glob s).run files (.text cookbook) = .ok finding →
    (∀ tree, files.look (.ofString cookbook) = .ok (some tree) → tree.ListsNames) →
    ∃ hits, finding = Matcher.foundFiles s hits ∧
      ∀ hit ∈ hits, ((Path.ofString cookbook).join (.ofString hit)).IsBelow (.ofString cookbook)

variable {key s cookbook : String} {given : Value}

/-- A text is accepted as it is if it is confined, and else refused. -/
theorem insideCookbook_cases (key : String) (h : Matcher.pathText given = .ok s) :
    (IsConfined s ∧ insideCookbook key given = .ok s) ∨
      ¬ IsConfined s ∧ ∃ fault, insideCookbook key given = .error (.strategy fault) := by
  simp only [insideCookbook, h, mapError_ok, ok_bind]
  by_cases unanchored : IsUnanchored s
  · have relative := Path.isAbsolute_of_unanchored unanchored
    have driveless := WindowsPath.isAnchored_ofString_iff.2 unanchored
    simp only [relative, driveless, Bool.or_false, Bool.false_eq_true, if_false, Bool.or_eq_true,
      List.contains_iff_mem, WindowsPath.mem_parts_iff unanchored]
    by_cases parent : ".." ∈ segments s
    · rw [if_pos (.inr parent)]
      exact .inr ⟨fun confined => confined.noParent parent, _, rfl⟩
    · have neither : ¬ (".." ∈ (Path.ofString s).parts ∨ ".." ∈ segments s) :=
        not_or.2 ⟨fun member => parent (Path.mem_segments_of_mem_parts member), parent⟩
      rw [if_neg neither]
      exact .inl ⟨⟨unanchored, parent⟩, rfl⟩
  · have anchored : (WindowsPath.ofString s).isAnchored = true := by
      rw [← Bool.not_eq_false, WindowsPath.isAnchored_ofString_iff]
      exact unanchored
    simp only [anchored, Bool.or_true, if_true]
    exact .inr ⟨fun confined => unanchored confined.unanchored, _, rfl⟩

theorem insideCookbook_eq_ok_iff (h : Matcher.pathText given = .ok s) :
    insideCookbook key given = .ok s ↔ IsConfined s := by
  rcases insideCookbook_cases key h with ⟨confined, accepted⟩ | ⟨free, fault, refused⟩
  · exact iff_of_true accepted confined
  · rw [refused]
    exact iff_of_false nofun free

theorem insideCookbook_eq_error_iff (h : Matcher.pathText given = .ok s) :
    (∃ fault, insideCookbook key given = .error (.strategy fault)) ↔ ¬ IsConfined s := by
  rcases insideCookbook_cases key h with ⟨confined, accepted⟩ | ⟨free, fault, refused⟩
  · rw [accepted]
    exact iff_of_false nofun (not_not.2 confined)
  · exact iff_of_true ⟨fault, refused⟩ free

/-- A confined text keeps to every cookbook. -/
theorem IsConfined.keepsTo (h : IsConfined s) (cookbook : String) : KeepsTo cookbook s := by
  have joined := Path.join_of_relative (.ofString cookbook) (Path.isAbsolute_of_unanchored h.unanchored)
  refine ⟨joined, fun part member => ⟨Path.isName_of_mem_components member, ?_⟩, ?_, ?_⟩
  · rintro rfl
    exact h.noParent (Path.mem_segments_of_mem_parts member)
  · intro matcher either files files' there same
    have seen : files.exists? there = files'.exists? there := by
      rw [Files.exists?, Files.exists?, same]
    simp only [List.mem_cons, List.not_mem_nil, or_false] at either
    rcases either with rfl | rfl
    · rw [Matcher.run_missingFile, Matcher.run_missingFile, joined, seen]
    · rw [Matcher.run_fileExists, Matcher.run_fileExists, joined, seen]
  · intro files finding ended lists
    rw [Matcher.run_glob] at ended
    obtain ⟨pattern, read, ended⟩ := bind_eq_ok.1 ended
    cases selected : pattern.run files (.ofString cookbook) with
    | error fault =>
        rw [selected] at ended
        cases ended
    | ok hits =>
        rw [selected] at ended
        cases ended
        refine ⟨hits, rfl, ?_⟩
        exact fun hit member => Glob.Pattern.isBelow_of_mem_run selected lists member

/-- A text is accepted as it is if it begins with no slash of either kind and no drive letter and none of
the segments between its slashes is a double dot, and else it is refused. In a cookbook an accepted text
leads to nothing but what lies below it. -/
theorem insideCookbook_confines (key : String) (h : Matcher.pathText given = .ok s) :
    (insideCookbook key given = .ok s ↔ IsConfined s) ∧
      ((∃ fault, insideCookbook key given = .error (.strategy fault)) ↔ ¬ IsConfined s) ∧
      (IsConfined s → ∀ cookbook, KeepsTo cookbook s) :=
  ⟨insideCookbook_eq_ok_iff h, insideCookbook_eq_error_iff h, IsConfined.keepsTo⟩

/-- A text with an empty segment and a single dot between its slashes. -/
def looseText : String := "docs//./x.md"

/-- The text is accepted, and leads to a file two levels below the cookbook. -/
theorem insideCookbook_looseText :
    Matcher.pathText (.text looseText) = .ok looseText ∧
      insideCookbook "path" (.text looseText) = .ok looseText ∧
      (Path.ofString "books").join (.ofString looseText) = ⟨.relative, ["books", "docs", "x.md"]⟩ := by
  have confined : IsConfined looseText := by
    refine ⟨⟨?_, ?_⟩, by decide⟩
    · intro c rest letters
      cases letters
      rfl
    · intro c rest letters
      cases letters
  have text : Matcher.pathText (.text looseText) = .ok looseText := rfl
  obtain ⟨accepted, -, keeps⟩ := insideCookbook_confines "path" text
  exact ⟨text, accepted.2 confined, (keeps confined "books").joined⟩

end RuleFile

end CookbookRules
