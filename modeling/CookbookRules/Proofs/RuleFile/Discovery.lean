import CookbookRules.Proofs.Files.Search
import CookbookRules.RuleFile.Discovery

/-!
# Looking paths up

What a path comes to where rule files are looked for: what is there, unless the look-up of all that is there
meets a path that is too long.
-/

namespace CookbookRules.RuleFile

open Outcome

/-- A path stands for a file or a directory, and all that is there can be looked up. -/
structure Resolves (files : Files) (path : Path) : Prop where
  there : ∃ tree, files.look path = .ok (some tree)
  short : ∀ other, ¬ files.MeetsTooLong path other

/-- Why a path does not: nothing is there, or what is too long is met. -/
inductive Unresolved (files : Files) (path : Path) : ResolveFault → Prop
  | nothing (absent : files.look path = .ok none) : Unresolved files path (.nothing path)
  | tooLong {other : Path} (meets : files.MeetsTooLong path other) :
      Unresolved files path (.unreadable (.nameTooLong other.toString))

/-- What looking a path up comes to. -/
inductive Finds (files : Files) (endings : List String) (path : Path) : Except ReadFault Resolved → Prop
  | tooLong {other : Path} (meets : files.MeetsTooLong path other) :
      Finds files endings path (.error (.nameTooLong other.toString))
  | nothing (absent : files.look path = .ok none) : Finds files endings path (.ok .nothing)
  | file {bytes : List UInt8} (there : files.look path = .ok (some (.file bytes))) :
      Finds files endings path (.ok .file)
  | directory {entries : List (String × FileTree)} (there : files.look path = .ok (some (.directory entries)))
      (short : ∀ other, ¬ files.MeetsTooLong path other) :
      Finds files endings path (.ok (.directory (ruleFiles endings path (.directory entries))))

variable {files : Files} {endings : List String} {path other : Path}

/-- At a file nothing else can be too long. -/
theorem not_meetsTooLong_of_file {bytes : List UInt8} (there : files.look path = .ok (some (.file bytes)))
    (other : Path) : ¬ files.MeetsTooLong path other := by
  intro meets
  cases meets with
  | top long => cases there.symm.trans (Files.look_of_isTooLong long)
  | below there' leads long =>
      cases there.symm.trans there'
      cases leads with
      | here =>
          rw [Path.descend_nil] at long
          cases there.symm.trans (Files.look_of_isTooLong long)

/-- Where there is nothing, nothing is too long. -/
theorem not_meetsTooLong_of_nothing (absent : files.look path = .ok none) (other : Path) :
    ¬ files.MeetsTooLong path other := by
  intro meets
  cases meets with
  | top long => cases absent.symm.trans (Files.look_of_isTooLong long)
  | below there => cases absent.symm.trans there

theorem finds_lookUp (files : Files) (endings : List String) (path : Path) :
    Finds files endings path (lookUp files endings path) := by
  rw [lookUp]
  rcases files.look_cases path with ⟨⟨there, found⟩, -⟩ | ⟨failed, long⟩
  · rw [found]
    cases there with
    | none => exact .nothing found
    | some tree =>
        cases tree with
        | file bytes => exact .file found
        | directory entries =>
            rw [ok_bind, expand]
            rcases Glob.search_cases Glob.everything files path with
              ⟨⟨there, searched⟩, free⟩ | ⟨other, meets, failed⟩
            · rw [searched]
              rcases Glob.search_eq_ok searched with ⟨entries', rfl, found'⟩ | ⟨-, other⟩
              · cases found.symm.trans found'
                exact .directory found fun other meets => free other (Glob.meets_everything_iff.2 meets)
              · exact absurd found (other entries)
            · rw [failed]
              exact .tooLong (Glob.meets_everything_iff.1 meets)
  · rw [failed]
    exact .tooLong (.top long)

theorem Unresolved.not_resolves {fault : ResolveFault} (h : Unresolved files path fault) :
    ¬ Resolves files path := by
  rintro ⟨⟨tree, there⟩, short⟩
  cases h with
  | nothing absent => cases absent.symm.trans there
  | tooLong meets => exact short _ meets

/-- A path that resolves puts the files that it stands for in front of those of the others, and one that does
not is the fault. -/
theorem resolve_cons_cases (files : Files) (endings : List String) (path : Path) :
    (Resolves files path ∧ ∃ own : List Path, ∀ rest,
        (resolve files endings (path :: rest)).2 = (own ++ ·) <$> (resolve files endings rest).2) ∨
      ∃ fault, Unresolved files path fault ∧
        ∀ rest, (resolve files endings (path :: rest)).2 = .error fault := by
  have finds := finds_lookUp files endings path
  simp only [resolve]
  cases looked : lookUp files endings path with
  | error fault =>
      rw [looked] at finds
      cases finds with
      | tooLong meets => exact .inr ⟨_, .tooLong meets, fun rest => rfl⟩
  | ok resolved =>
      rw [looked] at finds
      cases finds with
      | nothing absent => exact .inr ⟨_, .nothing absent, fun rest => rfl⟩
      | file there =>
          exact .inl ⟨⟨⟨_, there⟩, not_meetsTooLong_of_file there⟩, [path], fun rest => rfl⟩
      | directory there short => exact .inl ⟨⟨⟨_, there⟩, short⟩, _, fun rest => rfl⟩

end CookbookRules.RuleFile
