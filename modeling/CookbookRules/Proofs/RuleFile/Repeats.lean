import CookbookRules.RuleFile.Validation

/-!
# Codes that are used again

The review of rules finds those whose codes have been used before, and a registry lists the codes that
more than one of its rules has. Over the same rules both find the same codes.
-/

namespace CookbookRules

namespace Registry

variable {code : String}

theorem mem_firsts {items : List String} : code ∈ firsts items ↔ code ∈ items := by
  have fold : ∀ items kept : List String,
      code ∈ items.foldl (fun kept item => if kept.contains item then kept else kept ++ [item]) kept ↔
        code ∈ kept ∨ code ∈ items := by
    intro items
    induction items with
    | nil => simp
    | cons item rest ih =>
        intro kept
        rw [List.foldl_cons, ih]
        split
        · next known =>
          have old : item ∈ kept := List.contains_iff_mem.1 known
          constructor
          · rintro (member | member)
            · exact .inl member
            · exact .inr (List.mem_cons_of_mem _ member)
          · rintro (member | member)
            · exact .inl member
            · rcases List.mem_cons.1 member with rfl | member
              · exact .inl old
              · exact .inr member
        · simp [or_assoc]
  rw [firsts, fold]
  simp

/-- The repeated codes are those that stand more than once. -/
theorem mem_repeatedCodes {rules : List Rule} :
    code ∈ repeatedCodes rules ↔ 1 < (rules.map (·.code)).count code := by
  simp only [repeatedCodes, List.mem_filter, mem_firsts, decide_eq_true_eq, and_iff_right_iff_imp]
  intro repeated
  exact List.count_pos_iff.1 (Nat.lt_trans Nat.one_pos repeated)

end Registry

namespace RuleFile

/-- The first uses of codes after one more use: it is the first if its code was not used before. -/
def FirstUse.noteUse (seen : List FirstUse) (use : String × Rule) : List FirstUse :=
  match seen.find? (·.code == use.2.code) with
  | none => seen ++ [⟨use.2.code, use.1, use.2.line⟩]
  | some _ => seen

/-- The problems of the rules, each with its file, whose codes were used before. -/
def repeats : List (String × Rule) → List FirstUse → List Problem
  | [], _ => []
  | use :: rest, seen =>
    match seen.find? (·.code == use.2.code) with
    | none => repeats rest (FirstUse.noteUse seen use)
    | some first => repeatedProblem use.1 use.2 first :: repeats rest (FirstUse.noteUse seen use)

variable {code : String} {seen : List FirstUse} {use : String × Rule} {uses : List (String × Rule)}

/-- The review of a file's rules notes their uses and reports those that are repeated. -/
theorem reviewRules_eq (path : String) (rules : List Rule) (seen : List FirstUse) :
    reviewRules path rules seen =
      ((rules.map (path, ·)).foldl FirstUse.noteUse seen, repeats (rules.map (path, ·)) seen) := by
  induction rules generalizing seen with
  | nil => rfl
  | cons rule rest ih =>
      rw [List.map_cons, List.foldl_cons, repeats, reviewRules, FirstUse.noteUse]
      dsimp only
      cases seen.find? (·.code == rule.code) with
      | none => exact ih _
      | some first => simp only [ih]

theorem repeats_append (first second : List (String × Rule)) (seen : List FirstUse) :
    repeats (first ++ second) seen =
      repeats first seen ++ repeats second (first.foldl FirstUse.noteUse seen) := by
  induction first generalizing seen with
  | nil => rfl
  | cons use rest ih =>
      rw [List.cons_append, repeats, repeats, List.foldl_cons, ih]
      cases seen.find? (·.code == use.2.code) with
      | none => rfl
      | some first => rfl

theorem code_of_mem_repeats {problem : Problem} (h : problem ∈ repeats uses seen) :
    problem.code = "RULE006" := by
  induction uses generalizing seen with
  | nil => cases h
  | cons use rest ih =>
      rw [repeats] at h
      split at h
      · exact ih h
      · rcases List.mem_cons.1 h with rfl | later
        · rfl
        · exact ih later

theorem code_notMem_of_find? (h : seen.find? (·.code == code) = none) :
    code ∉ seen.map (·.code) := by
  simpa using h

theorem code_mem_of_find? {first : FirstUse} (h : seen.find? (·.code == code) = some first) :
    code ∈ seen.map (·.code) :=
  List.mem_map.2 ⟨first, List.mem_of_find?_eq_some h, by simpa using List.find?_some h⟩

theorem mem_noteUse :
    code ∈ (FirstUse.noteUse seen use).map (·.code) ↔
      code ∈ seen.map (·.code) ∨ code = use.2.code := by
  unfold FirstUse.noteUse
  cases found : seen.find? (·.code == use.2.code) with
  | none => simp
  | some first =>
      constructor
      · exact .inl
      · rintro (member | rfl)
        · exact member
        · exact code_mem_of_find? found

/-- A code is reported as repeated exactly if it is used, and was used before or is used twice. -/
theorem mem_repeats :
    code ∈ (repeats uses seen).map (·.ruleCode) ↔
      code ∈ uses.map (·.2.code) ∧
        (code ∈ seen.map (·.code) ∨ 1 < (uses.map (·.2.code)).count code) := by
  induction uses generalizing seen with
  | nil => simp [repeats]
  | cons use rest ih =>
      have used := @List.count_pos_iff _ _ _ code (rest.map (·.2.code))
      rw [repeats]
      cases found : seen.find? (·.code == use.2.code) with
      | none =>
          have fresh := code_notMem_of_find? found
          dsimp only
          rw [ih, mem_noteUse, List.map_cons, List.mem_cons]
          by_cases same : code = use.2.code
          · subst same
            rw [List.count_cons_self]
            constructor
            · rintro ⟨member, -⟩
              exact ⟨.inl rfl, .inr (Nat.succ_lt_succ (used.2 member))⟩
            · rintro ⟨-, old | again⟩
              · exact absurd old fresh
              · exact ⟨used.1 (Nat.lt_of_succ_lt_succ again), .inl (.inr rfl)⟩
          · simp [same, List.count_cons_of_ne (Ne.symm same)]
      | some first =>
          have known := code_mem_of_find? found
          dsimp only
          rw [List.map_cons, List.mem_cons, ih, mem_noteUse, List.map_cons, List.mem_cons]
          by_cases same : code = use.2.code
          · subst same
            simp [repeatedProblem, known]
          · simp [repeatedProblem, same, List.count_cons_of_ne (Ne.symm same)]

/-- A code is reported as often as it is used, but for its first use. -/
theorem count_repeats : ((repeats uses seen).map (·.ruleCode)).count code =
    (uses.map (·.2.code)).count code - if code ∈ seen.map (·.code) then 0 else 1 := by
  induction uses generalizing seen with
  | nil => simp [repeats]
  | cons use rest ih =>
      rw [repeats, List.map_cons]
      cases found : seen.find? (·.code == use.2.code) with
      | none =>
          have fresh := code_notMem_of_find? found
          dsimp only
          rw [ih]
          by_cases same : code = use.2.code
          · subst same
            rw [List.count_cons_self, if_pos (mem_noteUse.2 (.inr rfl)), if_neg fresh]
            rfl
          · have stays : code ∈ (FirstUse.noteUse seen use).map (·.code) ↔ code ∈ seen.map (·.code) := by
              rw [mem_noteUse, or_iff_left same]
            simp only [List.count_cons_of_ne (Ne.symm same), stays]
      | some first =>
          have known := code_mem_of_find? found
          have noted : FirstUse.noteUse seen use = seen := by rw [FirstUse.noteUse, found]
          dsimp only
          rw [List.map_cons, noted]
          by_cases same : code = use.2.code
          · subst same
            rw [repeatedProblem, List.count_cons_self, List.count_cons_self, ih, if_pos known]
            rfl
          · rw [repeatedProblem, List.count_cons_of_ne (Ne.symm same),
              List.count_cons_of_ne (Ne.symm same), ih]

end RuleFile

end CookbookRules
