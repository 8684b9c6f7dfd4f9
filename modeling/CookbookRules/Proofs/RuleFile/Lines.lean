import CookbookRules.Proofs.Rule.Lines
import CookbookRules.Proofs.RuleFile.Listing

/-!
# Lines of loaded rules

The check of a document asks of codes, names and tags only that they are not blank. A text in quotes may
hold a line feed, and then the listing has more lines than it is meant to have. Where there is none, the
listing is aligned, since what is read from a file is data, so that each name shows as it is.
-/

namespace CookbookRules.RuleFile

open Outcome Listing

variable {env : Environment} {path : Path} {document entry : Value} {rule : Rule} {rules : List Rule}

theorem HasEntry.isData {index : Nat} (stands : HasEntry document index entry) (data : document.IsData) :
    entry.IsData := by
  obtain ⟨items, held, found⟩ := stands
  exact (data.of_holds held).of_mem (List.mem_of_getElem? found)

theorem shown_of_isData {label : Label} (data : label.value.IsData) : label.shown = label.text := by
  cases label with
  | plain s => rfl
  | broken codes => rfl
  | kind k =>
      cases data with
      | scalar bare => cases bare

/-- The name of a rule of a file shows as it is. -/
theorem shown_title_of_mem_alone (member : rule ∈ (alone env path).1.rules) :
    rule.title.shown = rule.name := by
  obtain ⟨document, entries, read, checked, member⟩ := exists_document_of_mem_alone member
  obtain ⟨entry, declared, isRule⟩ := exists_isRuleOf_of_mem checked member
  obtain ⟨index, found⟩ := List.getElem?_of_mem declared
  obtain ⟨text, -, parsed⟩ := readDocument_eq_ok read
  have data := ((checkDocument_eq_ok_iff.1 checked).hasEntry found).isData (Yaml.isData_read parsed)
  exact shown_of_isData (data.of_holds isRule.name)

/-- The listing of some rules of files has one line more than it is meant to have for each line feed in a
code, a name or a tag, and it is aligned exactly if there is none. -/
theorem isAligned_listing_iff (filled : rules ≠ [])
    (loaded : ∀ rule ∈ rules, ∃ env path, rule ∈ (alone env path).1.rules) :
    (Text.pieces '\n' (text rules)).length = rules.length + 2 + (rules.map feeds).sum ∧
      (IsAligned rules (Text.pieces '\n' (text rules)) ↔ ∀ rule ∈ rules, IsOnOneLine rule) := by
  have shows : ∀ rule ∈ rules, rule.title.shown = rule.name := by
    intro rule member
    obtain ⟨env, path, declared⟩ := loaded rule member
    exact shown_title_of_mem_alone declared
  exact ⟨length_pieces_text filled shows, isAligned_pieces_text_iff filled shows⟩

/-- The listing of a file of one rule is aligned. -/
theorem isAligned_tagged :
    let rules := (alone taggedSurroundings taggedPath).1.rules
    rules ≠ [] ∧ (∀ rule ∈ rules, ∃ env path, rule ∈ (alone env path).1.rules) ∧
      IsAligned rules (Text.pieces '\n' (text rules)) := by
  have noNull : taggedPath.hasNull = false := by simp [Path.hasNull, taggedPath]
  have read : taggedSurroundings.files.read taggedPath = .ok taggedText := by
    simp only [Files.read, noNull, Bool.false_eq_true, if_false]
    decide +kernel
  obtain ⟨-, none⟩ : (alone taggedSurroundings taggedPath).2 = .ok 1 ∧
      (alone taggedSurroundings taggedPath).1.rules.map feeds = [0] := alone_of_text read (by decide +kernel)
  have filled : (alone taggedSurroundings taggedPath).1.rules ≠ [] := fun nothing => by
    rw [nothing] at none
    cases none
  have loaded : ∀ rule ∈ (alone taggedSurroundings taggedPath).1.rules, ∃ env path,
      rule ∈ (alone env path).1.rules := fun rule member => ⟨_, _, member⟩
  refine ⟨filled, loaded, (isAligned_listing_iff filled loaded).2.2 fun rule member => ?_⟩
  have listed := List.mem_map_of_mem (f := feeds) member
  rw [none] at listed
  exact feeds_eq_zero_iff.1 (List.mem_singleton.1 listed)

/-- The text of a file of one rule, with a line feed in its tag. -/
def feedText : String := "rules:\n- code: A\n  name: a\n  tags: [\"x\\ny\"]\n"

/-- Surroundings with that file only. -/
def feedSurroundings : Environment :=
  { files := ⟨.directory [("rules.yaml", .file feedText.toUTF8.toList)], ⟨.root, []⟩⟩
    catalog := ⟨[]⟩
    bundled := ⟨.root, []⟩
    home := "/"
    users := [] }

/-- The path of that file. -/
def feedPath : Path := ⟨.relative, ["rules.yaml"]⟩

/-- The line of the rule is cut in two, so that the listing has four lines. -/
theorem not_isAligned_feed :
    ¬ ∀ rules : List Rule, rules ≠ [] →
      (∀ rule ∈ rules, ∃ env path, Loads env path ∧ rule ∈ (alone env path).1.rules) →
      IsAligned rules (Text.pieces '\n' (text rules)) := by
  intro always
  have noNull : feedPath.hasNull = false := by simp [Path.hasNull, feedPath]
  have read : feedSurroundings.files.read feedPath = .ok feedText := by
    simp only [Files.read, noNull, Bool.false_eq_true, if_false]
    decide +kernel
  have one : (alone feedSurroundings feedPath).2 = .ok 1 ∧
      (alone feedSurroundings feedPath).1.rules.map feeds = [1] := alone_of_text read (by decide +kernel)
  have loads : Loads feedSurroundings feedPath := ⟨1, one.1⟩
  obtain ⟨rule, others, rules, single, -⟩ := List.map_eq_cons_iff.1 one.2
  have member : rule ∈ (alone feedSurroundings feedPath).1.rules := by
    rw [rules]
    exact List.mem_cons_self
  have aligned := always [rule] (List.cons_ne_nil _ _) fun other listed => by
    rw [List.mem_singleton.1 listed]
    exact ⟨_, _, loads, member⟩
  have shows : ∀ other ∈ [rule], other.title.shown = other.name := by
    simpa using shown_title_of_mem_alone member
  have whole := (isAligned_pieces_text_iff (List.cons_ne_nil _ _) shows).1 aligned rule List.mem_cons_self
  cases single.symm.trans (feeds_eq_zero_iff.2 whole)

end CookbookRules.RuleFile
