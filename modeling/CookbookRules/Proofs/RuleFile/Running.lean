import CookbookRules.Proofs.Files.Search
import CookbookRules.Proofs.RuleFile.Compilation

/-!
# Running matchers that look at files

When a matcher that looks at the files of a cookbook has an answer. The checks before it is run see to where
its text leads and not to what the text means as a pattern, and no check sees to the length of names and paths.
-/

namespace CookbookRules

open Outcome

namespace Matcher

/-- A matcher that looks at the files of a cookbook. -/
inductive LooksAtFiles : Matcher → Prop
  | missingFile (s : String) : LooksAtFiles (.missingFile s)
  | fileExists (s : String) : LooksAtFiles (.fileExists s)
  | glob (s : String) : LooksAtFiles (.glob s)

/-- Why such a matcher has no answer: what it looks up is too long, or its text is no pattern. -/
inductive Stuck (files : Files) (cookbook : Path) : Matcher → Prop
  | missingFile {s : String} (long : files.IsTooLong (cookbook.join (.ofString s))) :
      Stuck files cookbook (.missingFile s)
  | fileExists {s : String} (long : files.IsTooLong (cookbook.join (.ofString s))) :
      Stuck files cookbook (.fileExists s)
  | noPattern {s : String} (none : ¬ Glob.IsPattern s) : Stuck files cookbook (.glob s)
  | tooLong {s : String} {pattern : Glob.Pattern} {path : Path}
      (read : Glob.Pattern.ofString s = .ok pattern) (meets : pattern.Meets files cookbook path) :
      Stuck files cookbook (.glob s)

variable {files : Files} {cookbook s : String} {matcher : Matcher}

/-- A pattern is run unless it meets what is too long. -/
theorem patternRun_cases (files : Files) (top : Path) {pattern : Glob.Pattern}
    (read : Glob.Pattern.ofString s = .ok pattern) :
    (∃ hits, pattern.run files top = .ok hits) ∧ ¬ Stuck files top (.glob s) ∨
      (∃ fault, pattern.run files top = .error fault) ∧ Stuck files top (.glob s) := by
  have isPattern : Glob.IsPattern s := Glob.exists_pattern_iff.1 ⟨pattern, read⟩
  rw [Glob.Pattern.run]
  rcases Glob.search_cases pattern files top with ⟨⟨found, searched⟩, free⟩ | ⟨path, meets, failed⟩
  · rw [searched]
    refine .inl ⟨⟨_, rfl⟩, fun stuck => ?_⟩
    cases stuck with
    | noPattern none => exact none isPattern
    | tooLong read' meets =>
        cases read.symm.trans read'
        exact free _ meets
  · rw [failed]
    exact .inr ⟨⟨_, rfl⟩, .tooLong read meets⟩

/-- Such a matcher has an answer, or it is stuck. -/
theorem run_cases (files : Files) (cookbook : String) (looks : LooksAtFiles matcher) :
    (∃ finding, matcher.run files (.text cookbook) = .ok finding) ∧
        ¬ Stuck files (.ofString cookbook) matcher ∨
      (∃ fault, matcher.run files (.text cookbook) = .error fault) ∧
        Stuck files (.ofString cookbook) matcher := by
  cases looks with
  | missingFile s =>
      rw [run_missingFile, Files.exists?]
      rcases files.look_cases ((Path.ofString cookbook).join (.ofString s)) with
        ⟨⟨there, found⟩, short⟩ | ⟨failed, long⟩
      · rw [found]
        refine .inl ⟨⟨_, rfl⟩, fun stuck => ?_⟩
        cases stuck with
        | missingFile long => exact short long
      · rw [failed]
        exact .inr ⟨⟨_, rfl⟩, .missingFile long⟩
  | fileExists s =>
      rw [run_fileExists, Files.exists?]
      rcases files.look_cases ((Path.ofString cookbook).join (.ofString s)) with
        ⟨⟨there, found⟩, short⟩ | ⟨failed, long⟩
      · rw [found]
        refine .inl ⟨⟨_, rfl⟩, fun stuck => ?_⟩
        cases stuck with
        | fileExists long => exact short long
      · rw [failed]
        exact .inr ⟨⟨_, rfl⟩, .fileExists long⟩
  | glob s =>
      rw [run_glob]
      cases read : Glob.Pattern.ofString s with
      | error fault =>
          refine .inr ⟨⟨_, rfl⟩, .noPattern fun isPattern => ?_⟩
          obtain ⟨pattern, reads⟩ := Glob.exists_pattern_iff.2 isPattern
          cases read.symm.trans reads
      | ok pattern =>
          rcases patternRun_cases files (.ofString cookbook) read with
            ⟨⟨hits, ran⟩, free⟩ | ⟨⟨fault, failed⟩, stuck⟩
          · exact .inl ⟨⟨foundFiles s hits, by rw [mapError_ok, ok_bind, ran]; rfl⟩, free⟩
          · exact .inr ⟨⟨.file fault, by rw [mapError_ok, ok_bind, failed]; rfl⟩, stuck⟩

end Matcher

namespace RuleFile

open Matcher

variable {catalog : Catalog} {kind : Kind} {v : Value} {line : Option Int} {matcher : Matcher}

/-- A checked description whose strategy calls no function gives a matcher that looks at files. -/
theorem looksAtFiles_of_buildMatcher (accepted : checkMatcher kind v line = .ok ())
    (other : ¬ Names v .callable) (built : buildMatcher catalog v = .ok matcher) :
    LooksAtFiles matcher := by
  obtain ⟨strategy, h⟩ := checkMatcher_eq_ok_iff.1 accepted
  have different : strategy ≠ .callable := by
    rintro rfl
    exact other h.named
  obtain ⟨given, held, -⟩ := h.required
  obtain ⟨make, looks, building⟩ := buildMatcher_path catalog h.named different held
  rw [building] at built
  cases inside : insideCookbook strategy.requiredKey given with
  | error fault =>
      rw [inside] at built
      cases built
  | ok s =>
      rw [inside] at built
      cases built
      simp only [List.mem_cons, List.not_mem_nil, or_false] at looks
      rcases looks with rfl | rfl | rfl
      · exact .missingFile s
      · exact .fileExists s
      · exact .glob s

/-- A matcher that is built from a checked description and looks at files has an answer on every cookbook
unless it is stuck: its text is no pattern, or what it looks up is too long. -/
theorem run_buildMatcher_iff (accepted : checkMatcher kind v line = .ok ())
    (other : ¬ Names v .callable) (built : buildMatcher catalog v = .ok matcher) (files : Files)
    (cookbook : String) :
    (∃ finding, matcher.run files (.text cookbook) = .ok finding) ↔
      ¬ Stuck files (.ofString cookbook) matcher := by
  have looks := looksAtFiles_of_buildMatcher accepted other built
  rcases run_cases files cookbook looks with ⟨answered, free⟩ | ⟨⟨fault, failed⟩, stuck⟩
  · exact iff_of_true answered free
  · rw [failed]
    exact iff_of_false nofun (not_not.2 stuck)

/-- A description that selects files by a pattern. -/
def patternDescription (pattern : String) : Value :=
  .map .plain [(.text "strategy", .text "glob"), (.text "pattern", .text pattern)]

theorem not_names_callable (pattern : String) : ¬ Names (patternDescription pattern) .callable := by
  intro named
  cases names_iff.2 named

/-- A directory of one file. -/
def shelf : FileTree := .directory [("a.md", .file [])]

/-- Surroundings in which that directory is a cookbook. -/
def shelved : Files := ⟨.directory [("books", shelf)], ⟨.root, []⟩⟩

/-- The pattern is accepted, and in the cookbook it is not stuck. -/
theorem run_buildMatcher_shelf :
    checkMatcher .cookbook (patternDescription "*.md") none = .ok () ∧
      ¬ Names (patternDescription "*.md") .callable ∧
      buildMatcher ⟨[]⟩ (patternDescription "*.md") = .ok (.glob "*.md") ∧
      ¬ Stuck shelved (.ofString "books") (.glob "*.md") := by
  have accepted : checkMatcher .cookbook (patternDescription "*.md") none = .ok () := rfl
  have other := not_names_callable "*.md"
  have built : buildMatcher ⟨[]⟩ (patternDescription "*.md") = .ok (.glob "*.md") := rfl
  have read : Glob.Pattern.ofString "*.md" =
      .ok ⟨[.name [.anyText, .literal '.', .literal 'm', .literal 'd']], false⟩ := rfl
  have searched : Glob.Pattern.search ⟨[.name [.anyText, .literal '.', .literal 'm', .literal 'd']], false⟩
      shelved (.ofString "books") = .ok (some shelf) := rfl
  have answered : ∃ finding, (Matcher.glob "*.md").run shelved (.text "books") = .ok finding := by
    rw [run_glob, read, mapError_ok, ok_bind, Glob.Pattern.run, searched]
    exact ⟨_, rfl⟩
  exact ⟨accepted, other, built,
    (run_buildMatcher_iff accepted other built shelved "books").1 answered⟩

/-- Two stars beside something else are taken for a pattern until the matcher is run. -/
theorem run_fails_of_mixedStars :
    ¬ ∀ (catalog : Catalog) (kind : Kind) (v : Value) (line : Option Int) (matcher : Matcher),
      checkMatcher kind v line = .ok () → ¬ Names v .callable →
      buildMatcher catalog v = .ok matcher →
      ∀ (files : Files) (cookbook : String),
        ∃ finding, matcher.run files (.text cookbook) = .ok finding := by
  intro always
  obtain ⟨finding, answered⟩ := always ⟨[]⟩ .cookbook (patternDescription "**a") none (.glob "**a") rfl
    (not_names_callable "**a") rfl shelved "books"
  have failed : (Matcher.glob "**a").run shelved (.text "books") =
    .error (.pattern .mixedStars) := rfl
  cases failed.symm.trans answered

end RuleFile

end CookbookRules
