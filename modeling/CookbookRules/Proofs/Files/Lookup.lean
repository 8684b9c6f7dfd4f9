import CookbookRules.Files.Tree
import CookbookRules.Proofs.Outcome

/-!
# Looking paths up

When a path cannot be looked up at all. It is too long itself, or the components before one of its names lead
to a directory and the name is too long to be looked up there.
-/

namespace CookbookRules

namespace FileTree

/-- On the way through components, seen from the first tree of a stack, a name that is too long is looked up
in a directory. -/
def MeetsLong (stack : List FileTree) (parts : List String) : Prop :=
  ∃ before name after entries, parts = before ++ name :: after ∧ name ≠ ".." ∧
    isLongName name = true ∧ follow stack before = .ok (directory entries)

variable {stack next : List FileTree} {entries : List (String × FileTree)} {part : String}
  {parts : List String}

/-- A name that is not too long leads to the entry of that name. -/
theorem follow_entry (above : List FileTree) {name : String} (notUp : part ≠ "..")
    (short : ¬ isLongName part = true) {next : FileTree}
    (found : entries.find? (·.1 == part) = some (name, next)) :
    follow (directory entries :: above) (part :: parts) =
      follow (next :: directory entries :: above) parts := by
  cases above with
  | nil => rw [follow, if_neg notUp, if_neg short, found]
  | cons up rest => rw [follow, if_neg notUp, if_neg short, found]

/-- Without such an entry it leads nowhere. -/
theorem follow_missing (above : List FileTree) (notUp : part ≠ "..") (short : ¬ isLongName part = true)
    (absent : entries.find? (·.1 == part) = none) :
    follow (directory entries :: above) (part :: parts) = .error .missing := by
  cases above with
  | nil => rw [follow, if_neg notUp, if_neg short, absent]
  | cons up rest => rw [follow, if_neg notUp, if_neg short, absent]

theorem not_meetsLong_nil : ¬ MeetsLong stack [] := by
  rintro ⟨before, name, after, entries, cut, -⟩
  simp at cut

/-- Where a component leads on, the names that are looked up behind it are those from there. -/
theorem meetsLong_cons_iff (leads : ∀ rest, follow stack (part :: rest) = follow next rest)
    (short : part = ".." ∨ isLongName part = false) :
    MeetsLong stack (part :: parts) ↔ MeetsLong next parts := by
  constructor
  · rintro ⟨before, name, after, entries, cut, notUp, long, there⟩
    cases before with
    | nil =>
        cases cut
        rcases short with up | short
        · exact absurd up notUp
        · cases long.symm.trans short
    | cons first before =>
        cases cut
        exact ⟨before, name, after, entries, rfl, notUp, long, (leads before).symm.trans there⟩
  · rintro ⟨before, name, after, entries, rfl, notUp, long, there⟩
    exact ⟨part :: before, name, after, entries, rfl, notUp, long, (leads before).trans there⟩

/-- Where a component leads nowhere, no name is looked up behind it. -/
theorem not_meetsLong_cons (lost : Lost) (leads : ∀ rest, follow stack (part :: rest) = .error lost)
    (short : ∀ entries, isLongName part = true → follow stack [] ≠ .ok (directory entries)) :
    ¬ MeetsLong stack (part :: parts) := by
  rintro ⟨before, name, after, entries, cut, -, long, there⟩
  cases before with
  | nil =>
      cases cut
      exact short entries long there
  | cons first before =>
      cases cut
      cases (leads before).symm.trans there

/-- Only a name that is too long and is looked up makes a path too long to follow. -/
theorem follow_eq_nameTooLong_iff :
    follow stack parts = .error .nameTooLong ↔ MeetsLong stack parts := by
  fun_induction follow stack parts with
  | case1 parts =>
      refine iff_of_false nofun ?_
      rintro ⟨before, -, -, entries, -, -, -, there⟩
      rw [follow] at there
      cases there
  | case2 here above => exact iff_of_false nofun not_meetsLong_nil
  | case3 bytes above part parts =>
      refine iff_of_false nofun (not_meetsLong_cons .notDirectory (fun rest => by rw [follow]) ?_)
      intro entries _ there
      rw [follow] at there
      cases there
  | case4 entries parts ih =>
      rw [ih]
      exact (meetsLong_cons_iff (fun rest => by rw [follow, if_pos rfl]) (.inl rfl)).symm
  | case5 entries parts up rest ih =>
      rw [ih]
      exact (meetsLong_cons_iff (fun rest => by rw [follow, if_pos rfl]) (.inl rfl)).symm
  | case6 entries above part parts notUp long =>
      exact iff_of_true rfl ⟨[], part, parts, entries, rfl, notUp, long, by rw [follow]⟩
  | case7 entries above part parts notUp short name next found ih =>
      rw [ih]
      refine (meetsLong_cons_iff (fun rest => ?_) (.inr (by simpa using short))).symm
      exact follow_entry above notUp short found
  | case8 entries above part parts notUp short absent =>
      refine iff_of_false nofun
        (not_meetsLong_cons .missing (fun rest => ?_) fun _ long => absurd long short)
      exact follow_missing above notUp short absent

end FileTree

namespace Files

/-- A path cannot be looked up: it has more bytes than a path can have, or a name that is too long is looked
up on its way. A path with a null character is not looked up at all. -/
structure IsTooLong (files : Files) (p : Path) : Prop where
  noNull : p.hasNull = false
  long : isLongPath p = true ∨ FileTree.MeetsLong [files.root] (files.here.join p).parts

theorem find_eq_nameTooLong_iff {files : Files} {p : Path} :
    files.find p = .error .nameTooLong ↔
      isLongPath p = true ∨ FileTree.MeetsLong [files.root] (files.here.join p).parts := by
  rw [find]
  cases isLongPath p with
  | true => simp
  | false => simp [FileTree.follow_eq_nameTooLong_iff]

theorem look_of_isTooLong {files : Files} {p : Path} (h : files.IsTooLong p) :
    files.look p = .error (.nameTooLong p.toString) := by
  rw [look, h.noNull, find_eq_nameTooLong_iff.2 h.long]
  rfl

/-- A path is looked up unless it is too long. -/
theorem look_cases (files : Files) (p : Path) :
    (∃ there, files.look p = .ok there) ∧ ¬ files.IsTooLong p ∨
      files.look p = .error (.nameTooLong p.toString) ∧ files.IsTooLong p := by
  by_cases long : files.IsTooLong p
  · exact .inr ⟨look_of_isTooLong long, long⟩
  · refine .inl ⟨?_, long⟩
    unfold look
    cases null : p.hasNull with
    | true => exact ⟨none, rfl⟩
    | false =>
        simp only [Bool.false_eq_true, if_false]
        cases led : files.find p with
        | ok tree => exact ⟨some tree, rfl⟩
        | error lost =>
            cases lost with
            | nameTooLong => exact absurd ⟨null, find_eq_nameTooLong_iff.1 led⟩ long
            | missing => exact ⟨none, rfl⟩
            | notDirectory => exact ⟨none, rfl⟩

theorem visit_eq_ok_iff {files : Files} {p : Path} : files.visit p = .ok () ↔ ¬ files.IsTooLong p := by
  rw [visit]
  rcases files.look_cases p with ⟨⟨there, found⟩, short⟩ | ⟨failed, long⟩
  · rw [found]
    exact iff_of_true rfl short
  · rw [failed]
    exact iff_of_false nofun (not_not_intro long)

theorem visit_eq_error {files : Files} {p : Path} {fault : ReadFault} (h : files.visit p = .error fault) :
    files.IsTooLong p ∧ fault = .nameTooLong p.toString := by
  rw [visit] at h
  rcases files.look_cases p with ⟨⟨there, found⟩, -⟩ | ⟨failed, long⟩
  · rw [found] at h
    cases h
  · rw [failed] at h
    cases h
    exact ⟨long, rfl⟩

theorem read_of_directory {files : Files} {p : Path} {entries : List (String × FileTree)}
    (h : files.look p = .ok (some (.directory entries))) : files.read p = .error (.isDirectory p.toString) := by
  unfold look at h
  split at h
  · cases h
  · next noNull =>
    split at h
    · next led =>
      cases h
      simp only [read, if_neg noNull, led]
    · cases h
    · cases h

/-- The text of a file is what its bytes decode to. -/
theorem read_of_file {files : Files} {p : Path} {bytes : List UInt8}
    (h : files.look p = .ok (some (.file bytes))) :
    files.read p = match Text.Utf8.decode bytes with
      | .ok cs => .ok (String.ofList (Text.Utf8.normalizeBreaks cs))
      | .error fault => .error (.notText fault) := by
  unfold look at h
  split at h
  · cases h
  · next noNull =>
    split at h
    · next led =>
      cases h
      cases decoded : Text.Utf8.decode bytes <;> simp only [read, if_neg noNull, led, decoded]
    · cases h
    · cases h

/-- A text is only read where a path leads to a file. -/
theorem look_of_read {files : Files} {p : Path} {text : String} (h : files.read p = .ok text) :
    ∃ bytes, files.look p = .ok (some (.file bytes)) := by
  unfold read at h
  dsimp only at h
  split at h
  · cases h
  · next noNull =>
    split at h
    · cases h
    · cases h
    · cases h
    · cases h
    · next bytes led => exact ⟨bytes, by rw [look, if_neg noNull, led]⟩

end Files

end CookbookRules
