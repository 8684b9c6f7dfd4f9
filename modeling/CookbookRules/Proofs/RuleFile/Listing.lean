import CookbookRules.Proofs.Rule.Listing
import CookbookRules.Proofs.RuleFile.Blame
import CookbookRules.Proofs.RuleFile.Concatenation
import CookbookRules.Proofs.RuleFile.Selection

/-!
# Listings of loaded rules

What the schema of listings asks of rules, loading has seen to: the check of a document leaves no code empty,
and the reader of texts gives every entry its line. So whatever is loaded can be listed.
-/

namespace CookbookRules.RuleFile

open Outcome

variable {env : Environment} {path : Path} {paths : List Path} {rule : Rule}

theorem length_pos_of_text_ne {label : Label} (h : label.text ≠ "") : 1 ≤ label.length := by
  rw [Nat.one_le_iff_ne_zero]
  intro nothing
  apply h
  cases label with
  | plain s => exact String.length_eq_zero_iff.1 nothing
  | broken codes =>
      rw [List.length_eq_zero_iff.1 nothing]
      rfl
  | kind k => exact String.length_eq_zero_iff.1 nothing

/-- The code of a declared rule is not empty. -/
theorem IsDeclared.length_pos (h : IsDeclared rule) : 1 ≤ rule.label.length := by
  refine length_pos_of_text_ne fun nothing => ?_
  have filled := h.trim_ne_empty (TextSet.mem_insert.2 (.inl rfl))
  rw [Rule.code, nothing] at filled
  exact filled rfl

/-- The line of a rule of a file is one of its lines. -/
theorem exists_line_of_mem_alone (member : rule ∈ (alone env path).1.rules) :
    ∃ line : Nat, rule.line = some (line : Int) ∧ 1 ≤ line := by
  obtain ⟨document, entries, read, checked, member⟩ := exists_document_of_mem_alone member
  obtain ⟨entry, declared, isRule⟩ := exists_isRuleOf_of_mem checked member
  have isDocument := checkDocument_eq_ok_iff.1 checked
  obtain ⟨index, found⟩ := List.getElem?_of_mem declared
  obtain ⟨text, -, parsed⟩ := readDocument_eq_ok read
  have located := (isDocument.hasEntry found).isLocated (Yaml.isLocated_read parsed)
  have mapping := (Value.keysWithin_iff.1 (isDocument.isEntry entry declared).keys).1
  obtain ⟨line, known, first, -⟩ := located.exists_line mapping
  exact ⟨line, isRule.line.trans known, first⟩

/-- The listing of what is loaded conforms to the schema, and lists the loaded rules one by one in the order
of the files that the paths stand for. -/
theorem document_conforms (loaded : (loadRegistry env paths).2 = .ok ()) :
    Json.Accepts Listing.schema (Listing.document (loadRegistry env paths).1.rules) ∧
      ∃ found entries, (resolve env.files ruleFileEndings paths).2 = .ok found ∧
        (loadRegistry env paths).1.rules = (found.flatMap fun path => (alone env path).1.rules) ∧
        Listing.document (loadRegistry env paths).1.rules =
          .object [("schema_version", .text "1"), ("rules", .list entries)] ∧
        List.Forall₂ Listing.IsListed (loadRegistry env paths).1.rules entries := by
  obtain ⟨found, resolved⟩ := exists_resolve_of_loaded loaded
  have rules : (loadRegistry env paths).1.rules = found.flatMap fun path => (alone env path).1.rules := by
    rcases loadRegistry_cases_of_found resolved with ⟨-, -, all⟩ | ⟨_, _, _, _, -, -, -, failed⟩
    · exact all
    · cases loaded.symm.trans failed
  have each : ∀ rule ∈ (loadRegistry env paths).1.rules,
      1 ≤ rule.label.length ∧ ∀ n, rule.line = some n → 1 ≤ n := by
    intro rule member
    rw [rules] at member
    obtain ⟨path, -, member⟩ := List.mem_flatMap.1 member
    refine ⟨(isDeclared_of_mem_alone member).length_pos, fun n given => ?_⟩
    obtain ⟨line, known, first⟩ := exists_line_of_mem_alone member
    cases known.symm.trans given
    exact Int.ofNat_le.2 first
  refine ⟨Listing.accepts_document.2 each, found, _, resolved, rules, rfl, ?_⟩
  rw [List.forall₂_map_right_iff, List.forall₂_same]
  exact fun rule member => Listing.isListed_entry (each rule member).1 (each rule member).2

/-- The text of a file with a rule that has a matcher and tags, one of them twice. -/
def taggedText : String :=
  "rules:\n- code: A\n  name: a\n  tags: [z, y, z]\n  cookbook: \x7bstrategy: missing_file, path: x\x7d\n"

/-- Surroundings with that file only. -/
def taggedSurroundings : Environment :=
  { files := ⟨.directory [("rules.yaml", .file taggedText.toUTF8.toList)], ⟨.root, []⟩⟩
    catalog := ⟨[]⟩
    bundled := ⟨.root, []⟩
    home := "/"
    users := [] }

/-- The path of that file. -/
def taggedPath : Path := ⟨.relative, ["rules.yaml"]⟩

/-- The rule is listed with its tags in order. -/
theorem document_tagged :
    (loadRegistry taggedSurroundings [taggedPath]).2 = .ok () ∧
      Json.Accepts Listing.schema
        (Listing.document (loadRegistry taggedSurroundings [taggedPath]).1.rules) ∧
      (loadRegistry taggedSurroundings [taggedPath]).1.rules.map (fun rule => (rule.tags.toList, rule.kinds)) =
        [(["y", "z"], [.cookbook])] := by
  have noNull : taggedPath.hasNull = false := by simp [Path.hasNull, taggedPath]
  have read : taggedSurroundings.files.read taggedPath = .ok taggedText := by
    simp only [Files.read, noNull, Bool.false_eq_true, if_false]
    decide +kernel
  have resolved : (resolve taggedSurroundings.files ruleFileEndings [taggedPath]).2 = .ok [taggedPath] := by
    simp only [resolve, lookUp, Files.look, noNull, Bool.false_eq_true, if_false]
    rfl
  have declares : (alone taggedSurroundings taggedPath).2 = .ok 1 ∧
      (alone taggedSurroundings taggedPath).1.rules.map (fun rule => (rule.tags.toList, rule.kinds)) =
        [(["y", "z"], [.cookbook])] := alone_of_text read (by decide +kernel)
  obtain ⟨rules, ended⟩ := loadRegistry_of_found resolved (appends_sole _ _)
  rw [declares.1] at ended
  rw [rules]
  exact ⟨ended, rules ▸ (document_conforms ended).1, declares.2⟩

end CookbookRules.RuleFile
