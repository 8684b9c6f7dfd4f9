import CookbookRules.Files.WindowsPath
import CookbookRules.Proofs.Files.Names

/-!
# Paths read in two ways

A text is read as a path with slashes of one kind, and as a Windows path with slashes of two. Where it
begins with no slash and no drive letter, neither reading has an anchor, and a double dot among the
components of either is a segment between slashes of both kinds.
-/

namespace CookbookRules

/-- Whether a character is a slash of either kind. -/
def isSlash (c : Char) : Bool := c = '/' || c = '\\'

/-- The segments of a text between slashes of either kind. -/
def segments (s : String) : List String := (Text.splitOn isSlash s.toList).map String.ofList

/-- A text that begins with no slash of either kind and no drive letter. -/
structure IsUnanchored (s : String) : Prop where
  noSlash : ∀ c rest, s.toList = c :: rest → isSlash c = false
  noLetter : ∀ c rest, s.toList = c :: ':' :: rest → c.isAlpha = false

variable {s : String} {cs rest : List Char} {c : Char}

/-! ## Slashes -/

theorem isSlash_iff : isSlash c = true ↔ c = '/' ∨ c = '\\' := by
  simp [isSlash]

namespace WindowsPath

theorem unified_eq_slash_iff : unified c = '/' ↔ isSlash c = true := by
  rw [isSlash_iff, unified]
  split
  · next same => simp [same]
  · next other => simp [other]

/-- What is read as another character than a slash is that character. -/
theorem eq_of_unified_eq {d : Char} (h : unified c = d) (other : d ≠ '/') : c = d := by
  unfold unified at h
  split at h
  · exact absurd h.symm other
  · exact h

theorem unified_of_not_slash (h : isSlash c = false) : unified c = c := by
  unfold unified
  split
  · next same => simp [isSlash, same] at h
  · rfl

/-- Read as the same, slashes of either kind cut a text where they stand. -/
theorem splitOn_unified (cs : List Char) :
    Text.splitOn (· == '/') (cs.map unified) = Text.splitOn isSlash cs := by
  induction cs with
  | nil => rfl
  | cons c rest ih =>
      rw [List.map_cons, Text.splitOn, Text.splitOn, ih]
      cases slash : isSlash c with
      | true => simp [unified_eq_slash_iff.2 slash]
      | false =>
          have other : (unified c == '/') = false := by
            rw [beq_eq_false_iff_ne, Ne, unified_eq_slash_iff, slash]
            exact Bool.false_ne_true
          rw [other, unified_of_not_slash slash]

/-! ## Anchors -/

theorem splitMark_cases (cs : List Char) : (splitMark cs).1 ≠ [] ∨ splitMark cs = ([], cs) := by
  unfold splitMark
  split
  · exact .inl (List.cons_ne_nil _ _)
  · exact .inl (List.cons_ne_nil _ _)
  · exact .inr rfl

/-- A mark and a share begin with slashes. -/
theorem split_of_head (other : ∀ rest, cs ≠ '/' :: rest) :
    splitMark cs = ([], cs) ∧ splitShare? cs = none := by
  constructor
  · unfold splitMark
    split
    · exact absurd rfl (other _)
    · exact absurd rfl (other _)
    · rfl
  · unfold splitShare?
    split
    · exact absurd rfl (other _)
    · rfl

theorem splitLetter_of_none (none : ∀ c rest, cs = c :: ':' :: rest → c.isAlpha = false) :
    splitLetter cs = ([], cs) := by
  unfold splitLetter
  split
  · next c rest => rw [none c rest rfl]; rfl
  · rfl

theorem isAnchored_of_drive {p : WindowsPath} (front : List Char) (filled : front ≠ [])
    (drive : p.drive = String.ofList front) : p.isAnchored = true := by
  have drives : p.drive ≠ "" := by
    rw [drive, Ne, String.ofList_eq_empty_iff]
    exact filled
  simp [isAnchored, drives]

/-- What begins with a slash has a root, whatever stands behind it, or a mark in its drive. -/
theorem isAnchored_of_slash (slash : isSlash c = true) (h : s.toList = c :: rest) :
    (ofString s).isAnchored = true := by
  have front : s.toList.map unified = '/' :: rest.map unified := by
    rw [h, List.map_cons, unified_eq_slash_iff.2 slash]
  rw [ofString, front]
  rcases splitMark_cases ('/' :: rest.map unified) with marked | plain
  · generalize splitMark ('/' :: rest.map unified) = split at marked
    obtain ⟨mark, behind⟩ := split
    dsimp only
    cases splitShare? behind with
    | some pair => simp [isAnchored]
    | none =>
        apply isAnchored_of_drive (mark ++ (splitLetter behind).1) _ rfl
        exact List.append_ne_nil_of_left_ne_nil marked _
  · rw [plain]
    dsimp only
    cases splitShare? ('/' :: rest.map unified) with
    | some pair => simp [isAnchored]
    | none =>
        have letter : splitLetter ('/' :: rest.map unified) = ([], '/' :: rest.map unified) := by
          apply splitLetter_of_none
          intro c behind same
          rw [← (List.cons.inj same).1]
          rfl
        simp [isAnchored, letter]

theorem isAnchored_of_letter (letter : c.isAlpha = true) (h : s.toList = c :: ':' :: rest) :
    (ofString s).isAnchored = true := by
  have other : isSlash c = false := by
    rw [Bool.eq_false_iff]
    intro slash
    rcases isSlash_iff.1 slash with rfl | rfl
    · cases letter
    · cases letter
  have front : s.toList.map unified = c :: ':' :: rest.map unified := by
    rw [h, List.map_cons, List.map_cons, unified_of_not_slash other]
    rfl
  have head : ∀ behind, c :: ':' :: rest.map unified ≠ '/' :: behind := by
    intro behind same
    rw [(List.cons.inj same).1] at letter
    cases letter
  obtain ⟨unmarked, unshared⟩ := split_of_head head
  rw [ofString, front, unmarked]
  dsimp only
  rw [unshared]
  apply isAnchored_of_drive [c, ':'] (List.cons_ne_nil _ _)
  simp [splitLetter, letter]

/-- A text that begins with neither has no anchor, and its components are those between the slashes. -/
theorem ofString_of_unanchored (h : IsUnanchored s) :
    ofString s = ⟨"", "", Path.components (s.toList.map unified)⟩ := by
  have head : ∀ rest, s.toList.map unified ≠ '/' :: rest := by
    intro rest same
    obtain ⟨c, behind, letters, slash, -⟩ := List.map_eq_cons_iff.1 same
    rw [unified_eq_slash_iff, h.noSlash c behind letters] at slash
    cases slash
  have letter : splitLetter (s.toList.map unified) = ([], s.toList.map unified) := by
    apply splitLetter_of_none
    intro c rest same
    obtain ⟨d, more, letters, first, second⟩ := List.map_eq_cons_iff.1 same
    obtain ⟨colon, behind, rfl, reads, -⟩ := List.map_eq_cons_iff.1 second
    rw [eq_of_unified_eq reads (by decide)] at letters
    rw [← first, unified_of_not_slash (h.noSlash _ _ letters)]
    exact h.noLetter d behind letters
  obtain ⟨unmarked, unshared⟩ := split_of_head head
  have rootless : (s.toList.map unified).head? ≠ some '/' := by
    intro first
    obtain ⟨rest, same⟩ := List.head?_eq_some_iff.1 first
    exact head rest same
  rw [ofString, unmarked]
  dsimp only
  rw [unshared]
  dsimp only
  rw [letter]
  dsimp only
  rw [if_neg rootless]
  rfl

theorem isAnchored_ofString_iff : (ofString s).isAnchored = false ↔ IsUnanchored s := by
  constructor
  · intro h
    constructor
    · intro c rest letters
      rw [Bool.eq_false_iff]
      intro slash
      rw [isAnchored_of_slash slash letters] at h
      cases h
    · intro c rest letters
      rw [Bool.eq_false_iff]
      intro letter
      rw [isAnchored_of_letter letter letters] at h
      cases h
  · intro h
    rw [ofString_of_unanchored h]
    rfl

/-! ## Components -/

theorem mem_parts_iff (h : IsUnanchored s) :
    ".." ∈ (ofString s).parts ↔ ".." ∈ segments s := by
  rw [ofString_of_unanchored h, Path.components, splitOn_unified, List.mem_filter, segments]
  exact and_iff_left rfl

end WindowsPath

namespace Path

/-- A text that begins with no slash is relative. -/
theorem isAbsolute_of_unanchored (h : IsUnanchored s) : (ofString s).isAbsolute = false := by
  have front : s.toList.takeWhile (· == '/') = [] := by
    cases letters : s.toList with
    | nil => rfl
    | cons c rest =>
        have other := h.noSlash c rest letters
        have notSlash : c ≠ '/' := by
          rintro rfl
          cases other
        simp [notSlash]
  rw [isAbsolute, ofString, anchorOf, front]
  rfl

/-- A double dot between slashes of one kind is one between slashes of both. -/
theorem mem_segments_of_mem_parts (member : ".." ∈ (ofString s).parts) : ".." ∈ segments s := by
  obtain ⟨piece, cut, same⟩ := List.mem_map.1 (List.mem_filter.1 member).1
  refine List.mem_map.2 ⟨piece, Text.mem_splitOn_of_finer ?_ cut ?_, same⟩
  · intro c slash
    exact isSlash_iff.2 (.inl (eq_of_beq slash))
  · intro c inside
    have dots : piece = ['.', '.'] := by
      rw [← String.toList_ofList (l := piece), same]
      rfl
    rw [dots] at inside
    rw [List.eq_of_mem_replicate (n := 2) inside]
    rfl

end Path

end CookbookRules
