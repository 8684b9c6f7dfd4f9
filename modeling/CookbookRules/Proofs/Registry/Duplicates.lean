import CookbookRules.Proofs.RuleFile.Repeats
import Mathlib.Data.List.Forall2
import Mathlib.Data.List.Induction

/-!
# Codes that are declared more than once

What the warnings on a list of rules have to say is told without the passes that make them: which codes
occur twice, in which order they occur first, and where their rules were declared. `reports_duplicateNotes`
says that a registry warns of just this, and `find?_eq_some_iff` that it finds the first rule with a code.
-/

namespace CookbookRules.Registry

variable {r : Registry} {rules : List Rule} {rule : Rule} {code : String} {index : Nat}

/-- The first of some rules with a code, and its place. -/
structure IsFirst (rules : List Rule) (code : String) (index : Nat) (rule : Rule) : Prop where
  there : rules[index]? = some rule
  own : rule.code = code
  first : ∀ earlier < index, ∀ other, rules[earlier]? = some other → other.code ≠ code

/-- Where a rule was declared, as a warning names it: in its source, or in code if it has none. An empty
text is no source. -/
inductive DeclaredAt (rule : Rule) : String → Prop
  | source {source : String} (given : rule.source = some source) (filled : source ≠ "") :
      DeclaredAt rule source
  | code (bare : ∀ source, rule.source = some source → source = "") :
      DeclaredAt rule "<declared in code>"

/-- A line of the log warns of a code: it shows the code as the first of its rules does, and names the places
where they were declared, each once and in ascending order. -/
inductive WarnsOf (rules : List Rule) (code : String) : String → Prop
  | line {index : Nat} {rule : Rule} {places : List String} (first : IsFirst rules code index rule)
      (mem : ∀ place, place ∈ places ↔ ∃ rule ∈ rules, rule.code = code ∧ DeclaredAt rule place)
      (ascending : places.Pairwise (· < ·)) :
      WarnsOf rules code ("WARNING " ++ ("Rule code " ++ rule.label.shown ++ " is declared more than once (" ++
        String.intercalate ", " places ++ ")"))

/-- Lines of the log report the codes that some rules repeat: one line for each code that occurs at least
twice, in the order in which the codes occur first. -/
structure Reports (rules : List Rule) (codes lines : List String) : Prop where
  mem : ∀ code, code ∈ codes ↔ 2 ≤ (rules.map (·.code)).count code
  ordered : codes.Pairwise fun code later =>
    (rules.map (·.code)).idxOf code < (rules.map (·.code)).idxOf later
  warns : List.Forall₂ (WarnsOf rules) codes lines

/-! ## The first rule with a code -/

theorem isFirst_iff : IsFirst rules code index rule ↔
    rule.code = code ∧ ∃ bound : index < rules.length, rules[index] = rule ∧
      ∀ earlier (before : earlier < index), rules[earlier].code ≠ code := by
  constructor
  · rintro ⟨there, own, first⟩
    obtain ⟨bound, found⟩ := List.getElem?_eq_some_iff.1 there
    exact ⟨own, bound, found, fun earlier before =>
      first earlier before _ (List.getElem?_eq_getElem (Nat.lt_trans before bound))⟩
  · rintro ⟨own, bound, found, first⟩
    refine ⟨List.getElem?_eq_some_iff.2 ⟨bound, found⟩, own, fun earlier before other there => ?_⟩
    obtain ⟨-, rfl⟩ := List.getElem?_eq_some_iff.1 there
    exact first earlier before

/-- A registry finds the first rule with a code. -/
theorem find?_eq_some_iff : r.find? code = some (index, rule) ↔ IsFirst r.rules code index rule := by
  rw [find?, Option.map_eq_some_iff, isFirst_iff]
  constructor
  · rintro ⟨⟨_, _⟩, found, same⟩
    cases same
    obtain ⟨own, place, bound, there, first⟩ := List.find?_eq_some_iff_getElem.1 found
    simp only [List.getElem_zipIdx, Nat.zero_add, Prod.mk.injEq] at there first
    obtain ⟨there, rfl⟩ := there
    exact ⟨beq_iff_eq.1 own, by simpa using bound, there, by simpa using first⟩
  · rintro ⟨own, bound, there, first⟩
    refine ⟨(rule, index), List.find?_eq_some_iff_getElem.2 ⟨beq_iff_eq.2 own, index, ?_⟩, rfl⟩
    simpa [there] using ⟨bound, first⟩

theorem exists_isFirst_of_find? (found : rules.find? (·.code == code) = some rule) :
    ∃ index, IsFirst rules code index rule := by
  obtain ⟨own, index, bound, there, first⟩ := List.find?_eq_some_iff_getElem.1 found
  exact ⟨index, isFirst_iff.2 ⟨beq_iff_eq.1 own, bound, there, by simpa using first⟩⟩

/-- A code that some rule has is that of a first one. -/
theorem exists_find?_of_mem (member : code ∈ rules.map (·.code)) :
    ∃ rule, rules.find? (·.code == code) = some rule := by
  rw [← Option.isSome_iff_exists, List.find?_isSome]
  simpa using member

/-! ## The order of first occurrence -/

theorem occurs_of_repeated (member : code ∈ repeatedCodes rules) : code ∈ rules.map (·.code) :=
  List.count_pos_iff.1 (Nat.lt_of_succ_lt (mem_repeatedCodes.1 member))

theorem firsts_concat (items : List String) (item : String) :
    firsts (items ++ [item]) =
      if item ∈ items then firsts items else firsts items ++ [item] := by
  have known : (firsts items).contains item = true ↔ item ∈ items :=
    List.contains_iff_mem.trans mem_firsts
  rw [firsts, List.foldl_concat]
  exact if_congr known rfl rfl

/-- Items without their repetitions stand in the order in which they occur first. -/
theorem pairwise_firsts (items : List String) :
    (firsts items).Pairwise fun item later => items.idxOf item < items.idxOf later := by
  induction items using List.reverseRecOn with
  | nil => exact .nil
  | append_singleton items last ih =>
      -- What has occurred before keeps its place, and what has not stands behind all of it.
      have stays : ∀ item ∈ firsts items, (items ++ [last]).idxOf item = items.idxOf item :=
        fun item member => List.idxOf_append_of_mem (mem_firsts.1 member)
      have old : (firsts items).Pairwise fun item later =>
          (items ++ [last]).idxOf item < (items ++ [last]).idxOf later := by
        refine ih.imp_of_mem fun member member' before => ?_
        rwa [stays _ member, stays _ member']
      rw [firsts_concat]
      split
      · exact old
      · next fresh =>
        refine List.pairwise_append.2 ⟨old, List.pairwise_singleton _ _, fun item member other own => ?_⟩
        obtain rfl := List.mem_singleton.1 own
        rw [stays item member, List.idxOf_append_of_notMem fresh]
        exact Nat.lt_add_right _ (List.idxOf_lt_length_of_mem (mem_firsts.1 member))

/-! ## Warnings -/

theorem sourceOf_of_filled {source : String} (given : rule.source = some source)
    (filled : source ≠ "") : sourceOf rule = source := by
  simp [sourceOf, given, filled]

theorem sourceOf_of_bare (bare : ∀ source, rule.source = some source → source = "") :
    sourceOf rule = "<declared in code>" := by
  cases given : rule.source with
  | none => simp [sourceOf, given]
  | some source => simp [sourceOf, given, bare source given]

theorem declaredAt_iff {place : String} : DeclaredAt rule place ↔ sourceOf rule = place := by
  constructor
  · rintro (⟨given, filled⟩ | bare)
    · exact sourceOf_of_filled given filled
    · exact sourceOf_of_bare bare
  · rintro rfl
    by_cases bare : ∀ source, rule.source = some source → source = ""
    · exact sourceOf_of_bare bare ▸ .code bare
    · obtain ⟨source, given, filled⟩ : ∃ source, rule.source = some source ∧ source ≠ "" := by
        simpa using bare
      exact sourceOf_of_filled given filled ▸ .source given filled

theorem mem_sourcesOf {place : String} : place ∈ sourcesOf code rules ↔
    ∃ rule ∈ rules, rule.code = code ∧ DeclaredAt rule place := by
  rw [sourcesOf, ← TextSet.mem_def, TextSet.mem_ofList]
  simp [declaredAt_iff, and_assoc]

theorem line_repeatedCode (shown : String) (places : List String) :
    Note.line (.repeatedCode shown places) = "WARNING " ++ ("Rule code " ++ shown ++
      " is declared more than once (" ++ String.intercalate ", " places ++ ")") := by
  have level : "WARNING" ++ " " = "WARNING " := by decide
  rw [← level]
  rfl

/-- The warning on a code that some rule has. -/
theorem warnsOf_repeatedCode (member : code ∈ rules.map (·.code)) :
    WarnsOf rules code (Note.line (.repeatedCode (shownCode code rules) (sourcesOf code rules))) := by
  obtain ⟨rule, found⟩ := exists_find?_of_mem member
  obtain ⟨index, first⟩ := exists_isFirst_of_find? found
  have shown : shownCode code rules = rule.label.shown := by rw [shownCode, found]; rfl
  rw [shown, line_repeatedCode]
  exact .line first (fun place => mem_sourcesOf) (TextSet.ofList _).ascending

/-- A registry warns of the codes that its rules repeat. -/
theorem reports_duplicateNotes (r : Registry) :
    Reports r.rules r.duplicateCodes (r.duplicateNotes.map Note.line) where
  mem _ := mem_repeatedCodes
  ordered := (pairwise_firsts _).filter _
  warns := by
    rw [duplicateNotes, List.map_map, List.forall₂_map_right_iff, List.forall₂_same]
    exact fun code member => warnsOf_repeatedCode (occurs_of_repeated member)

/-- A repeated code is found with the first of its rules. -/
theorem exists_find?_of_repeated (member : code ∈ r.duplicateCodes) :
    ∃ index rule, IsFirst r.rules code index rule ∧ r.find? code = some (index, rule) := by
  obtain ⟨rule, found⟩ := exists_find?_of_mem (occurs_of_repeated member)
  obtain ⟨index, first⟩ := exists_isFirst_of_find? found
  exact ⟨index, rule, first, find?_eq_some_iff.2 first⟩

end CookbookRules.Registry
