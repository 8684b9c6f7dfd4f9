import CookbookRules.Proofs.Files.Below
import CookbookRules.Proofs.Files.Glob

/-!
# What patterns match

When the components of a pattern match the names of a file, told by their texts. A pattern is run piece by
piece with all that a star can stand for; it selects a file exactly if its components match the names, and
one that ends in `**` selects none, since the last name of a file is no directory.
-/

namespace CookbookRules.Glob

open Outcome

/-! ## One name -/

/-- The characters that make a component a pattern. -/
def wildcards : List Char := ['*', '?', '[']

/-- A component, character by character, matches a name: a star any characters, a question mark one, brackets
one that their set holds, and a bracket that is never closed and any other character only itself. -/
inductive Fits : List Char → List Char → Prop
  | done : Fits [] []
  | anyText {cs front back : List Char} (onward : Fits cs back) : Fits ('*' :: cs) (front ++ back)
  | anyChar {cs name : List Char} {c : Char} (onward : Fits cs name) : Fits ('?' :: cs) (c :: name)
  | oneOf {cs inside after name : List Char} {c : Char} (closed : splitSet? cs = some (inside, after))
      (held : (CharSet.ofInside inside).holds c = true) (onward : Fits after name) :
      Fits ('[' :: cs) (c :: name)
  | bracket {cs name : List Char} (open_ : splitSet? cs = none) (onward : Fits cs name) :
      Fits ('[' :: cs) ('[' :: name)
  | literal {cs name : List Char} {c : Char} (plain : c ∉ wildcards) (onward : Fits cs name) :
      Fits (c :: cs) (c :: name)

variable {cs name inside after : List Char} {c low high : Char} {set : CharSet} {pieces : List Piece}

/-- A hyphen between two characters makes a set of all from the one to the other. -/
theorem holds_hyphen_iff (plain : low ≠ '!') (ascending : low ≤ high) :
    (CharSet.ofInside [low, '-', high]).holds c = true ↔ low ≤ c ∧ c ≤ high := by
  have cut : setChunks [low, '-', high] = [[low], [high]] := by
    simp [setChunks, plain, chunks, closeChunks, mergeBackward, Char.not_lt.2 ascending]
  have read : CharSet.ofInside [low, '-', high] = ⟨false, [(low, low), (low, high), (high, high)]⟩ := by
    rw [CharSet.ofInside, cut]
    split
    · next first rest front =>
      cases front
      exact absurd rfl plain
    · rfl
  simp only [read, CharSet.holds, List.any_cons, List.any_nil, bne_iff_ne, ne_eq, Bool.not_eq_false,
    Bool.or_eq_true, Bool.and_eq_true, decide_eq_true_eq, Bool.false_eq_true, or_false]
  constructor
  · rintro (⟨below, above⟩ | between | ⟨below, above⟩)
    · exact ⟨below, Char.le_trans above ascending⟩
    · exact between
    · exact ⟨Char.le_trans ascending below, above⟩
  · exact fun between => .inr (.inl between)

/-- A range that runs backwards falls away, and the exclamation mark behind it then negates the set. -/
example : (CharSet.ofInside "b-a!c".toList).holds 'c' = false ∧
    (CharSet.ofInside "b-a!c".toList).holds '!' = true := by decide

theorem anySuffix_iff {α : Type} {test : List α → Bool} {items : List α} :
    anySuffix test items = true ↔ ∃ front back, items = front ++ back ∧ test back = true := by
  induction items with
  | nil =>
      rw [anySuffix]
      constructor
      · intro passed
        exact ⟨[], [], rfl, passed⟩
      · rintro ⟨front, back, cut, passed⟩
        obtain ⟨-, rfl⟩ := List.append_eq_nil_iff.1 cut.symm
        exact passed
  | cons item rest ih =>
      rw [anySuffix, Bool.or_eq_true, ih]
      constructor
      · rintro (passed | ⟨front, back, rfl, passed⟩)
        · exact ⟨[], item :: rest, rfl, passed⟩
        · exact ⟨item :: front, back, rfl, passed⟩
      · rintro ⟨front, back, cut, passed⟩
        cases front with
        | nil => exact .inl (cut ▸ passed)
        | cons first front =>
            cases cut
            exact .inr ⟨front, back, rfl, passed⟩

theorem piecesMatch_literal_iff :
    piecesMatch (.literal c :: pieces) name = true ↔
      ∃ rest, name = c :: rest ∧ piecesMatch pieces rest = true := by
  cases name with
  | nil => simp [piecesMatch]
  | cons d rest =>
      rw [piecesMatch, Bool.and_eq_true, beq_iff_eq]
      constructor
      · rintro ⟨rfl, onward⟩
        exact ⟨rest, rfl, onward⟩
      · rintro ⟨_, same, onward⟩
        cases same
        exact ⟨rfl, onward⟩

theorem piecesMatch_anyChar_iff :
    piecesMatch (.anyChar :: pieces) name = true ↔
      ∃ d rest, name = d :: rest ∧ piecesMatch pieces rest = true := by
  cases name with
  | nil => simp [piecesMatch]
  | cons d rest => simp [piecesMatch]

theorem piecesMatch_oneOf_iff :
    piecesMatch (.oneOf set :: pieces) name = true ↔
      ∃ d rest, name = d :: rest ∧ set.holds d = true ∧ piecesMatch pieces rest = true := by
  cases name with
  | nil => simp [piecesMatch]
  | cons d rest => simp [piecesMatch]

theorem piecesMatch_anyText_iff :
    piecesMatch (.anyText :: pieces) name = true ↔
      ∃ front back, name = front ++ back ∧ piecesMatch pieces back = true := by
  rw [piecesMatch, anySuffix_iff]

/-! What each kind of character fits. -/

theorem fits_nil_iff : Fits [] name ↔ name = [] := by
  constructor
  · intro fits
    cases fits with
    | done => rfl
  · rintro rfl
    exact .done

theorem fits_star_iff : Fits ('*' :: cs) name ↔ ∃ front back, name = front ++ back ∧ Fits cs back := by
  constructor
  · intro fits
    cases fits with
    | anyText onward => exact ⟨_, _, rfl, onward⟩
    | literal plain onward => exact absurd (by simp [wildcards]) plain
  · rintro ⟨front, back, rfl, onward⟩
    exact .anyText onward

theorem fits_question_iff : Fits ('?' :: cs) name ↔ ∃ d rest, name = d :: rest ∧ Fits cs rest := by
  constructor
  · intro fits
    cases fits with
    | anyChar onward => exact ⟨_, _, rfl, onward⟩
    | literal plain onward => exact absurd (by simp [wildcards]) plain
  · rintro ⟨d, rest, rfl, onward⟩
    exact .anyChar onward

theorem fits_closed_iff (closed : splitSet? cs = some (inside, after)) :
    Fits ('[' :: cs) name ↔
      ∃ d rest, name = d :: rest ∧ (CharSet.ofInside inside).holds d = true ∧ Fits after rest := by
  constructor
  · intro fits
    cases fits with
    | oneOf closed' held onward =>
        cases closed.symm.trans closed'
        exact ⟨_, _, rfl, held, onward⟩
    | bracket open_ onward => cases closed.symm.trans open_
    | literal plain onward => exact absurd (by simp [wildcards]) plain
  · rintro ⟨d, rest, rfl, held, onward⟩
    exact .oneOf closed held onward

theorem fits_open_iff (open_ : splitSet? cs = none) :
    Fits ('[' :: cs) name ↔ ∃ rest, name = '[' :: rest ∧ Fits cs rest := by
  constructor
  · intro fits
    cases fits with
    | oneOf closed held onward => cases closed.symm.trans open_
    | bracket open_ onward => exact ⟨_, rfl, onward⟩
    | literal plain onward => exact ⟨_, rfl, onward⟩
  · rintro ⟨rest, rfl, onward⟩
    exact .bracket open_ onward

theorem fits_plain_iff (plain : c ∉ wildcards) :
    Fits (c :: cs) name ↔ ∃ rest, name = c :: rest ∧ Fits cs rest := by
  constructor
  · intro fits
    cases fits with
    | literal plain onward => exact ⟨_, rfl, onward⟩
    | anyText | anyChar | oneOf | bracket => exact absurd (by simp [wildcards]) plain
  · rintro ⟨rest, rfl, onward⟩
    exact .literal plain onward

/-- A component without wildcards fits only its own name. -/
theorem fits_iff_of_plain (plain : ∀ c ∈ cs, c ∉ wildcards) : Fits cs name ↔ name = cs := by
  induction cs generalizing name with
  | nil => exact fits_nil_iff
  | cons c rest ih =>
      rw [List.forall_mem_cons] at plain
      rw [fits_plain_iff plain.1]
      simp [ih plain.2]

theorem length_of_splitSet? (h : splitSet? cs = some (inside, after)) : after.length < cs.length := by
  unfold splitSet? at h
  split at h
  · next front rest cut =>
    have fewer := (List.dropWhile_suffix (· != ']') (l := rest)).length_le
    have whole : rest.length ≤ cs.length := by
      split at cut
      · cases cut
        simp only [List.length_cons]
        omega
      · cases cut
        exact Nat.le_succ _
      · cases cut
        exact Nat.le_refl _
    split at h
    · cases h
    · next behind =>
      cases h
      rw [behind] at fewer
      exact Nat.lt_of_lt_of_le fewer whole

theorem piecesFrom_plain (plain : c ∉ wildcards) (bound : Nat) (cs : List Char) :
    piecesFrom (bound + 1) (c :: cs) = .literal c :: piecesFrom bound cs := by
  simp only [wildcards, List.mem_cons, List.not_mem_nil, or_false, not_or] at plain
  rw [piecesFrom] <;> simp [plain]

/-- The pieces that a component is read as match what its characters fit. -/
theorem piecesMatch_iff {bound : Nat} (enough : cs.length ≤ bound) :
    piecesMatch (piecesFrom bound cs) name = true ↔ Fits cs name := by
  induction bound generalizing cs name with
  | zero =>
      rw [Nat.le_zero, List.length_eq_zero_iff] at enough
      subst enough
      simp [piecesFrom, piecesMatch, fits_nil_iff]
  | succ bound ih =>
      cases cs with
      | nil => simp [piecesFrom, piecesMatch, fits_nil_iff]
      | cons c rest =>
          have fewer : rest.length ≤ bound := Nat.le_of_succ_le_succ enough
          by_cases wild : c ∈ wildcards
          · simp only [wildcards, List.mem_cons, List.not_mem_nil, or_false] at wild
            rcases wild with rfl | rfl | rfl
            · simp only [piecesFrom, piecesMatch_anyText_iff, fits_star_iff, ih fewer]
            · simp only [piecesFrom, piecesMatch_anyChar_iff, fits_question_iff, ih fewer]
            · cases read : splitSet? rest with
              | none =>
                  simp only [piecesFrom, read, piecesMatch_literal_iff, fits_open_iff read, ih fewer]
              | some set =>
                  obtain ⟨inside, after⟩ := set
                  have shorter := length_of_splitSet? read
                  simp only [piecesFrom, read, piecesMatch_oneOf_iff, fits_closed_iff read,
                    ih (show after.length ≤ bound by omega)]
          · rw [piecesFrom_plain wild, piecesMatch_literal_iff, fits_plain_iff wild]
            simp only [ih fewer]

/-! ## All names -/

/-- The components of a pattern match the names that lead to a file: each its own name, and `**` any number
of names of directories, which the last name is not. -/
inductive Matches : List String → List String → Prop
  | done : Matches [] []
  | name {part name : String} {parts names : List String} (single : part ≠ "**")
      (fits : Fits part.toList name.toList) (onward : Matches parts names) :
      Matches (part :: parts) (name :: names)
  | directories {parts above names : List String} (onward : Matches parts names)
      (inside : names = [] → above = []) : Matches ("**" :: parts) (above ++ names)

variable {part s : String} {parts names : List String} {component : Component}
  {components : List Component} {pattern : Pattern}

theorem component_ofString_eq_ok (read : Component.ofString part = .ok component) :
    component = if part = "**" then .anyDirectories
      else .name (piecesFrom part.toList.length part.toList) := by
  unfold Component.ofString at read
  dsimp only at read
  split at read
  · next stars =>
    cases read
    rw [if_pos stars]
  · next single =>
    rw [if_neg single]
    split at read
    · cases read
    · cases read
      rfl

/-- Where the last component is no `**`, something stands behind each `**`. -/
theorem not_matches_nil (filled : parts ≠ []) (last : parts.getLast? ≠ some "**") : ¬ Matches parts [] := by
  induction parts with
  | nil => exact absurd rfl filled
  | cons part rest ih =>
      intro matched
      generalize none_ : ([] : List String) = names at matched
      cases matched with
      | name => cases none_
      | directories onward inside =>
          obtain ⟨-, rfl⟩ := List.append_eq_nil_iff.1 none_.symm
          cases rest with
          | nil => exact last rfl
          | cons next others => exact ih (List.cons_ne_nil _ _) last onward

theorem matches_nil_iff : Matches [] names ↔ names = [] := by
  constructor
  · intro matched
    cases matched with
    | done => rfl
  · rintro rfl
    exact .done

theorem matches_name_iff (single : part ≠ "**") : Matches (part :: parts) names ↔
    ∃ name rest, names = name :: rest ∧ Fits part.toList name.toList ∧ Matches parts rest := by
  constructor
  · intro matched
    cases matched with
    | name _ fits onward => exact ⟨_, _, rfl, fits, onward⟩
    | directories => exact absurd rfl single
  · rintro ⟨name, rest, rfl, fits, onward⟩
    exact .name single fits onward

theorem matches_stars_iff (filled : parts ≠ []) (last : parts.getLast? ≠ some "**") :
    Matches ("**" :: parts) names ↔ ∃ above rest, names = above ++ rest ∧ Matches parts rest := by
  constructor
  · intro matched
    cases matched with
    | name single => exact absurd rfl single
    | directories onward inside => exact ⟨_, _, rfl, onward⟩
  · rintro ⟨above, rest, rfl, onward⟩
    refine .directories onward ?_
    rintro rfl
    exact absurd onward (not_matches_nil filled last)

theorem componentsMatch_name_iff {pieces : List Piece} :
    componentsMatch (.name pieces :: components) names = true ↔
      ∃ name rest, names = name :: rest ∧ piecesMatch pieces name.toList = true ∧
        componentsMatch components rest = true := by
  cases names with
  | nil => simp [componentsMatch]
  | cons name rest => simp [componentsMatch]

/-- Components that are run match as their texts do, where the last of them stands for a name. -/
theorem componentsMatch_iff (read : parts.mapM Component.ofString = .ok components)
    (last : parts.getLast? ≠ some "**") : componentsMatch components names = true ↔ Matches parts names := by
  induction parts generalizing components names with
  | nil =>
      cases read
      change names.isEmpty = true ↔ _
      rw [matches_nil_iff, List.isEmpty_iff]
  | cons part rest ih =>
      rw [List.mapM_cons] at read
      obtain ⟨component, own, read⟩ := bind_eq_ok.1 read
      obtain ⟨others, behind, made⟩ := bind_eq_ok.1 read
      cases made
      have later : rest.getLast? ≠ some "**" := by
        cases rest with
        | nil => simp
        | cons next more => exact last
      rw [component_ofString_eq_ok own]
      by_cases stars : part = "**"
      · subst stars
        have filled : rest ≠ [] := by
          rintro rfl
          exact last rfl
        simp only [if_pos, componentsMatch, anySuffix_iff, matches_stars_iff filled later, ih behind later]
      · simp only [if_neg stars, componentsMatch_name_iff, matches_name_iff stars,
          piecesMatch_iff (Nat.le_refl _), ih behind later]

theorem getLast?_components (read : parts.mapM Component.ofString = .ok components) :
    components.getLast? = some .anyDirectories ↔ parts.getLast? = some "**" := by
  induction parts generalizing components with
  | nil =>
      cases read
      exact iff_of_false nofun nofun
  | cons part rest ih =>
      rw [List.mapM_cons] at read
      obtain ⟨component, own, read⟩ := bind_eq_ok.1 read
      obtain ⟨others, behind, made⟩ := bind_eq_ok.1 read
      cases made
      cases rest with
      | nil =>
          cases behind
          rw [component_ofString_eq_ok own]
          by_cases stars : part = "**" <;> simp [stars]
      | cons next more =>
          have last := ih behind
          rw [List.mapM_cons] at behind
          obtain ⟨second, -, behind⟩ := bind_eq_ok.1 behind
          obtain ⟨further, -, made⟩ := bind_eq_ok.1 behind
          cases made
          rwa [List.getLast?_cons_cons, List.getLast?_cons_cons]

theorem pattern_ofString_eq_ok (read : Pattern.ofString s = .ok pattern) :
    (Path.components s.toList).mapM Component.ofString = .ok pattern.components ∧
      pattern.directoriesOnly = (s.toList.getLast? == some '/') := by
  unfold Pattern.ofString at read
  dsimp only at read
  split at read
  · cases read
  · split at read
    · cases read
    · obtain ⟨components, each, made⟩ := map_eq_ok.1 read
      cases made
      exact ⟨each, rfl⟩

/-- The names that a pattern without a slash behind it selects: its components match them, and the last of
these stands for a name. -/
theorem selects_iff (read : Pattern.ofString s = .ok pattern) (noSlash : s.toList.getLast? ≠ some '/') :
    pattern.selects names = true ↔
      Matches (Path.ofString s).parts names ∧ (Path.ofString s).parts.getLast? ≠ some "**" := by
  obtain ⟨each, only⟩ := pattern_ofString_eq_ok read
  have files : pattern.directoriesOnly = false := by simpa [only] using noSlash
  rw [Pattern.selects, files, Bool.not_false, Bool.true_and, Bool.and_eq_true, bne_iff_ne, ne_eq,
    getLast?_components each]
  constructor
  · rintro ⟨last, matched⟩
    exact ⟨(componentsMatch_iff each last).1 matched, last⟩
  · rintro ⟨matched, last⟩
    exact ⟨last, (componentsMatch_iff each last).2 matched⟩

/-- Components without wildcards match only their own names. -/
theorem matches_iff_of_plain (plain : ∀ part ∈ parts, ∀ c ∈ part.toList, c ∉ wildcards) :
    Matches parts names ↔ names = parts := by
  induction parts generalizing names with
  | nil => exact matches_nil_iff
  | cons part rest ih =>
      rw [List.forall_mem_cons] at plain
      have single : part ≠ "**" := by
        rintro rfl
        exact plain.1 '*' (by decide) (by decide)
      rw [matches_name_iff single]
      simp [fits_iff_of_plain plain.1, ih plain.2, String.toList_inj]

/-- The components of a text hold nothing that the text does not. -/
theorem mem_of_mem_components {cs : List Char} {c : Char} (member : part ∈ Path.components cs)
    (inside : c ∈ part.toList) : c ∈ cs := by
  obtain ⟨piece, found, rfl⟩ := List.mem_map.1 (List.mem_filter.1 member).1
  rw [String.toList_ofList] at inside
  exact Text.mem_of_mem_splitOn found inside

/-! ## Hits -/

variable {tree : FileTree} {hit : String}

theorem mem_hits_iff : hit ∈ pattern.hits tree ↔
    ∃ names ∈ tree.inside, pattern.selects names = true ∧ String.intercalate "/" names = hit := by
  rw [Pattern.hits, List.mem_mergeSort, List.mem_map]
  simp only [List.mem_filter, and_assoc]

/-- Two stars at the end stand for directories only, so that no file is a hit. -/
theorem hits_eq_nil (last : pattern.components.getLast? = some .anyDirectories) : pattern.hits tree = [] := by
  rw [List.eq_nil_iff_forall_not_mem]
  intro hit member
  obtain ⟨names, -, selected, -⟩ := mem_hits_iff.1 member
  simp [Pattern.selects, last] at selected

/-- The hits in a proper tree ascend strictly. -/
theorem pairwise_hits (proper : tree.IsProper) : (pattern.hits tree).Pairwise (· < ·) := by
  apply pairwise_mergeSort_lt id
  rw [List.map_id]
  refine List.Nodup.map_on ?_ (proper.nodup_inside.filter _)
  intro names member names' member' same
  have isName := proper.isName_of_mem_inside (List.mem_of_mem_filter member)
  have isName' := proper.isName_of_mem_inside (List.mem_of_mem_filter member')
  exact eq_of_intercalate isName isName' same

end CookbookRules.Glob
