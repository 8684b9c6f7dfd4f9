import CookbookRules.Proofs.Files.Matching

/-!
# Searching directories

Which paths a pattern looks up on its way through a directory, and that it gives up at the first of them that
is too long to be looked up. The pattern of everything looks up all that is below the directory, and each
pattern what it selects.
-/

namespace CookbookRules.Glob

open Outcome

/-- A row of components looks up what names lead to below a tree. A component without wildcards looks up its
name, whether it is there or not; any other lists the directory that it is compared in, and `**` also all
directories below. What is behind a component is looked for at the entries that match it, which have to be
directories unless the component is the last. -/
inductive LooksUp (directoriesOnly : Bool) : List Component → FileTree → List String → Prop
  | matched (tree : FileTree) : LooksUp directoriesOnly [] tree []
  | plain {pieces : List Piece} {rest : List Component} {name : String} (tree : FileTree)
      (named : Component.name? (.name pieces) = some name) :
      LooksUp directoriesOnly (.name pieces :: rest) tree [name]
  | wild {pieces : List Piece} {rest : List Component} (tree : FileTree)
      (unnamed : Component.name? (.name pieces) = none) :
      LooksUp directoriesOnly (.name pieces :: rest) tree []
  | enter {pieces : List Piece} {rest : List Component} {tree inner : FileTree} {name : String}
      {names : List String} (listed : (name, inner) ∈ tree.entries)
      (fits : piecesMatch pieces name.toList = true)
      (open_ : inner.isDirectory = true ∨ rest = [] ∧ directoriesOnly = false)
      (onward : LooksUp directoriesOnly rest inner names) :
      LooksUp directoriesOnly (.name pieces :: rest) tree (name :: names)
  | lists {rest : List Component} {tree inner : FileTree} {above : List String}
      (leads : tree.Leads above inner) (directory : inner.isDirectory = true) :
      LooksUp directoriesOnly (.anyDirectories :: rest) tree above
  | descend {rest : List Component} {tree inner : FileTree} {above names : List String}
      (leads : tree.Leads above inner) (directory : inner.isDirectory = true)
      (onward : LooksUp directoriesOnly rest inner names) :
      LooksUp directoriesOnly (.anyDirectories :: rest) tree (above ++ names)

/-- A pattern that is looked for at a path meets a path that is too long to be looked up: this one, or one
below that its components look up. -/
inductive Pattern.Meets (pattern : Pattern) (files : Files) (top : Path) : Path → Prop
  | top (long : files.IsTooLong top) : Meets pattern files top top
  | below {entries : List (String × FileTree)} {names : List String}
      (there : files.look top = .ok (some (.directory entries)))
      (looked : LooksUp pattern.directoriesOnly pattern.components (.directory entries) names)
      (long : files.IsTooLong (top.descend names)) : Meets pattern files top (top.descend names)

variable {directoriesOnly : Bool} {components rest : List Component} {pieces : List Piece}
  {tree inner : FileTree} {names : List String} {pattern : Pattern} {files : Files} {top path : Path}
  {found : Option FileTree}

/-! ## What is looked up -/

theorem looksUp_nil_iff : LooksUp directoriesOnly [] tree names ↔ names = [] := by
  constructor
  · intro looks
    cases looks with
    | matched => rfl
  · rintro rfl
    exact .matched tree

theorem looksUp_name_iff : LooksUp directoriesOnly (.name pieces :: rest) tree names ↔
    names = (Component.name? (.name pieces)).toList ∨ ∃ entry ∈ tree.entries,
      piecesMatch pieces entry.1.toList = true ∧
      (entry.2.isDirectory = true ∨ rest = [] ∧ directoriesOnly = false) ∧
      ∃ behind, LooksUp directoriesOnly rest entry.2 behind ∧ entry.1 :: behind = names := by
  constructor
  · intro looks
    cases looks with
    | plain tree named => exact .inl (by rw [named]; rfl)
    | wild tree unnamed => exact .inl (by rw [unnamed]; rfl)
    | enter listed fits open_ onward => exact .inr ⟨_, listed, fits, open_, _, onward, rfl⟩
  · rintro (rfl | ⟨⟨name, inner⟩, listed, fits, open_, behind, onward, rfl⟩)
    · cases named : Component.name? (.name pieces) with
      | none => exact .wild tree named
      | some name => exact .plain tree named
    · exact .enter listed fits open_ onward

theorem looksUp_stars_iff : LooksUp directoriesOnly (.anyDirectories :: rest) tree names ↔
    ∃ above inner, (tree.Leads above inner ∧ inner.isDirectory = true) ∧
      (names = above ∨ ∃ behind, LooksUp directoriesOnly rest inner behind ∧ above ++ behind = names) := by
  constructor
  · intro looks
    cases looks with
    | lists leads directory => exact ⟨_, _, ⟨leads, directory⟩, .inl rfl⟩
    | descend leads directory onward => exact ⟨_, _, ⟨leads, directory⟩, .inr ⟨_, onward, rfl⟩⟩
  · rintro ⟨above, inner, ⟨leads, directory⟩, rfl | ⟨behind, onward, rfl⟩⟩
    · exact .lists leads directory
    · exact .descend leads directory onward

/-- The paths that components look up are told without the order in which this is done. -/
theorem mem_lookUps_iff : names ∈ lookUps directoriesOnly components tree ↔
    LooksUp directoriesOnly components tree names := by
  induction components generalizing tree names with
  | nil => rw [lookUps, List.mem_singleton, looksUp_nil_iff]
  | cons component rest ih =>
      cases component with
      | anyDirectories =>
          rw [lookUps, looksUp_stars_iff, List.mem_flatMap]
          simp only [Prod.exists, FileTree.mem_directories_iff, List.mem_map, List.mem_append, ih,
            List.mem_singleton]
          constructor
          · rintro ⟨above, inner, leads, behind, onward | rfl, rfl⟩
            · exact ⟨above, inner, leads, .inr ⟨behind, onward, rfl⟩⟩
            · exact ⟨above, inner, leads, .inl (List.append_nil above)⟩
          · rintro ⟨above, inner, leads, rfl | ⟨behind, onward, rfl⟩⟩
            · exact ⟨names, inner, leads, [], .inr rfl, List.append_nil names⟩
            · exact ⟨above, inner, leads, behind, .inl onward, rfl⟩
      | name pieces =>
          rw [lookUps, looksUp_name_iff, List.mem_cons, List.mem_flatMap]
          simp only [List.mem_filter, Bool.and_eq_true, Bool.or_eq_true, List.isEmpty_iff,
            Bool.not_eq_true', List.mem_map, ih, and_assoc]

/-- Where the last component stands for a name, there is one. -/
theorem ne_nil_of_componentsMatch (filled : components ≠ [])
    (last : components.getLast? ≠ some .anyDirectories) (matched : componentsMatch components names = true) :
    names ≠ [] := by
  rintro rfl
  induction components with
  | nil => exact filled rfl
  | cons component rest ih =>
      cases component with
      | name pieces => cases matched
      | anyDirectories =>
          cases rest with
          | nil => exact last rfl
          | cons next more => exact ih (List.cons_ne_nil _ _) last matched

/-- Components look up the files that they match, where the last of them stands for a name. -/
theorem looksUp_of_componentsMatch {bytes : List UInt8} (leads : tree.Leads names (.file bytes))
    (last : components.getLast? ≠ some .anyDirectories) (matched : componentsMatch components names = true) :
    LooksUp false components tree names := by
  induction components generalizing tree names with
  | nil =>
      obtain rfl := List.isEmpty_iff.1 matched
      exact .matched tree
  | cons component rest ih =>
      cases rest with
      | nil =>
          cases component with
          | anyDirectories => exact absurd rfl last
          | name pieces =>
              obtain ⟨name, behind, rfl, fits, ended⟩ := componentsMatch_name_iff.1 matched
              obtain rfl := List.isEmpty_iff.1 ended
              obtain ⟨next, listed, -⟩ := FileTree.leads_cons_iff.1 leads
              exact .enter listed fits (.inr ⟨rfl, rfl⟩) (.matched next)
      | cons next more =>
          have later : (next :: more).getLast? ≠ some .anyDirectories := last
          cases component with
          | anyDirectories =>
              obtain ⟨above, behind, rfl, onward⟩ := anySuffix_iff.1 matched
              obtain ⟨middle, first, then_⟩ := FileTree.leads_append_iff.1 leads
              have filled := ne_nil_of_componentsMatch (List.cons_ne_nil _ _) later onward
              exact .descend first (then_.isDirectory filled) (ih then_ later onward)
          | name pieces =>
              obtain ⟨name, behind, rfl, fits, onward⟩ := componentsMatch_name_iff.1 matched
              obtain ⟨inner, listed, then_⟩ := FileTree.leads_cons_iff.1 leads
              have filled := ne_nil_of_componentsMatch (List.cons_ne_nil _ _) later onward
              exact .enter listed fits (.inl (then_.isDirectory filled)) (ih then_ later onward)

/-- A pattern looks up the files that it selects. -/
theorem looksUp_of_selects {bytes : List UInt8} (leads : tree.Leads names (.file bytes))
    (selected : pattern.selects names = true) :
    LooksUp pattern.directoriesOnly pattern.components tree names := by
  simp only [Pattern.selects, Bool.and_eq_true, Bool.not_eq_true', bne_iff_ne] at selected
  obtain ⟨⟨files, last⟩, matched⟩ := selected
  rw [files]
  exact looksUp_of_componentsMatch leads last matched

/-- The pattern of everything looks up all that names lead to below a directory. -/
theorem looksUp_everything_iff {entries : List (String × FileTree)} :
    LooksUp everything.directoriesOnly everything.components (.directory entries) names ↔
      ∃ inner, (FileTree.directory entries).Leads names inner := by
  rw [everything, looksUp_stars_iff]
  constructor
  · rintro ⟨above, inner, ⟨leads, -⟩, rfl | ⟨behind, looks, rfl⟩⟩
    · exact ⟨inner, leads⟩
    · rcases looksUp_name_iff.1 looks with rfl | ⟨⟨name, next⟩, listed, -, -, _, onward, rfl⟩
      · have none : Component.name? (.name [.anyText]) = none := rfl
        rw [none, Option.toList_none, List.append_nil]
        exact ⟨inner, leads⟩
      · obtain rfl := looksUp_nil_iff.1 onward
        exact ⟨next, leads.trans (FileTree.leads_cons_iff.2 ⟨next, listed, .here next⟩)⟩
  · rintro ⟨inner, leads⟩
    rcases List.eq_nil_or_concat names with rfl | ⟨above, name, rfl⟩
    · exact ⟨[], _, ⟨.here _, rfl⟩, .inl rfl⟩
    · rw [List.concat_eq_append] at leads ⊢
      obtain ⟨middle, first, last⟩ := FileTree.leads_append_iff.1 leads
      obtain ⟨next, listed, -⟩ := FileTree.leads_cons_iff.1 last
      have all : piecesMatch [.anyText] name.toList = true :=
        piecesMatch_anyText_iff.2 ⟨name.toList, [], (List.append_nil _).symm, rfl⟩
      exact ⟨above, middle, ⟨first, last.isDirectory (List.cons_ne_nil _ _)⟩,
        .inr ⟨[name], .enter listed all (.inr ⟨rfl, rfl⟩) (.matched next), rfl⟩⟩

/-! ## What is too long -/

/-- A pattern is looked for at a path unless it meets a path there that is too long, and this is the fault. -/
theorem search_cases (pattern : Pattern) (files : Files) (top : Path) :
    (∃ found, pattern.search files top = .ok found) ∧ (∀ path, ¬ pattern.Meets files top path) ∨
      ∃ path, pattern.Meets files top path ∧
        pattern.search files top = .error (.nameTooLong path.toString) := by
  rw [Pattern.search]
  rcases files.look_cases top with ⟨⟨there, looked⟩, short⟩ | ⟨failed, long⟩
  · rw [looked, ok_bind]
    -- Only what lies in a directory is looked up.
    have free (other : ∀ entries, there ≠ some (.directory entries)) (path : Path) :
        ¬ pattern.Meets files top path := by
      intro meets
      cases meets with
      | top long => exact short long
      | below there' =>
          cases looked.symm.trans there'
          exact other _ rfl
    cases there with
    | none => exact .inl ⟨⟨none, rfl⟩, free nofun⟩
    | some tree =>
        cases tree with
        | file bytes => exact .inl ⟨⟨none, rfl⟩, free nofun⟩
        | directory entries =>
            dsimp only
            cases visited : (lookUps pattern.directoriesOnly pattern.components
                (.directory entries)).forM fun names => files.visit (top.descend names) with
            | ok done =>
                refine .inl ⟨⟨_, rfl⟩, fun path meets => ?_⟩
                cases meets with
                | top long => exact short long
                | below there looks long =>
                    cases looked.symm.trans there
                    have each := forM_eq_ok.1 visited _ (mem_lookUps_iff.2 looks)
                    exact Files.visit_eq_ok_iff.1 each long
            | error fault =>
                obtain ⟨names, member, failed⟩ := exists_of_forM_eq_error visited
                obtain ⟨long, rfl⟩ := Files.visit_eq_error failed
                exact .inr ⟨_, .below looked (mem_lookUps_iff.1 member) long, rfl⟩
  · rw [failed]
    exact .inr ⟨top, .top long, rfl⟩

/-- A pattern is looked for in the directory at a path. -/
theorem search_eq_ok (searched : pattern.search files top = .ok found) :
    ((∃ entries, found = some (.directory entries) ∧ files.look top = .ok found) ∨
      found = none ∧ ∀ entries, files.look top ≠ .ok (some (.directory entries))) := by
  obtain ⟨there, looked, ended⟩ := bind_eq_ok.1 searched
  cases there with
  | none =>
      cases ended
      exact .inr ⟨rfl, fun entries other => by cases looked.symm.trans other⟩
  | some tree =>
      cases tree with
      | file bytes =>
          cases ended
          exact .inr ⟨rfl, fun entries other => by cases looked.symm.trans other⟩
      | directory entries =>
          obtain ⟨-, -, ended⟩ := bind_eq_ok.1 ended
          cases ended
          exact .inl ⟨entries, rfl, looked⟩

/-- A pattern that is run gives its hits in a directory, and none in anything else. -/
theorem run_eq_ok {hits : List String} (ran : pattern.run files top = .ok hits) :
    (∃ entries, files.look top = .ok (some (.directory entries)) ∧
        hits = pattern.hits (.directory entries)) ∨
      hits = [] ∧ ∀ entries, files.look top ≠ .ok (some (.directory entries)) := by
  obtain ⟨found, searched, ended⟩ := bind_eq_ok.1 ran
  cases ended
  rcases search_eq_ok searched with ⟨entries, rfl, there⟩ | ⟨rfl, none⟩
  · exact .inl ⟨entries, there, rfl⟩
  · exact .inr ⟨rfl, none⟩

/-- The pattern of everything meets what is too long at a path. -/
theorem meets_everything_iff : everything.Meets files top path ↔ files.MeetsTooLong top path := by
  constructor
  · intro meets
    cases meets with
    | top long => exact .top long
    | below there looks long =>
        obtain ⟨inner, leads⟩ := looksUp_everything_iff.1 looks
        exact .below there leads long
  · intro meets
    cases meets with
    | top long => exact .top long
    | @below tree inner names there leads long =>
        cases tree with
        | file bytes =>
            cases leads with
            | here =>
                rw [Path.descend_nil] at long
                cases there.symm.trans (Files.look_of_isTooLong long)
        | directory entries => exact .below there (looksUp_everything_iff.2 ⟨inner, leads⟩) long

end CookbookRules.Glob
