import CookbookRules.Proofs.Rule.Selection
import CookbookRules.Proofs.RuleFile.Remainder

/-!
# Selecting declared rules

Which tags a rule of a rule file can be selected by. The schema takes every text that is not blank for a tag
or a code, while an expression cannot mean a tag with a comma, a tilde in front or blanks around it: exactly
those lead to rules that do not answer to one of their own tags.
-/

namespace CookbookRules.RuleFile

open Outcome Rule

/-- A rule that is declared by a document that the schema accepts. -/
def IsDeclared (rule : Rule) : Prop :=
  ∃ (catalog : Catalog) (source : String) (document : Value) (entries : List Value),
    checkDocument document = .ok entries ∧
      rule ∈ (compileDocument catalog document source .empty).1.rules

variable {env : Environment} {path : Path} {rule : Rule} {tag code : String} {tags : List String}

/-- A rule of an accepted document is that of one of its entries. -/
theorem exists_isRuleOf_of_mem {catalog : Catalog} {source : String} {document : Value}
    {entries : List Value} (accepted : checkDocument document = .ok entries)
    (member : rule ∈ (compileDocument catalog document source .empty).1.rules) :
    ∃ entry ∈ entries, IsRuleOf catalog source entry rule := by
  have each := (checkDocument_eq_ok_iff.1 accepted).isEntry
  obtain ⟨done, new, rules, ends⟩ := declareEntries_ends catalog source each .empty
  rw [rules_compileDocument accepted, ends.rules (.empty [])] at member
  obtain ⟨entry, declared, isRule⟩ := exists_of_mem_forall₂ rules member
  exact ⟨entry, ends.sublist.subset declared, isRule⟩

/-- A declared rule is that of an entry of the grammar. -/
theorem IsDeclared.exists_isRuleOf (h : IsDeclared rule) :
    ∃ catalog source entry, IsEntry entry ∧ IsRuleOf catalog source entry rule := by
  obtain ⟨catalog, source, document, entries, accepted, member⟩ := h
  obtain ⟨entry, declared, isRule⟩ := exists_isRuleOf_of_mem accepted member
  exact ⟨catalog, source, entry, (checkDocument_eq_ok_iff.1 accepted).isEntry entry declared, isRule⟩

theorem isText_value (label : Label) : label.value.IsText label.text := by
  cases label with
  | plain s => exact .text s
  | broken codes => exact .broken codes
  | kind k => exact .kind k

/-- No tag of a declared rule is blank. -/
theorem IsDeclared.trim_ne_empty (h : IsDeclared rule) (member : tag ∈ rule.effectiveTags) :
    Text.trim tag ≠ "" := by
  obtain ⟨catalog, source, entry, isEntry, isRule⟩ := h.exists_isRuleOf
  rcases TextSet.mem_insert.1 member with rfl | member
  · obtain ⟨given, held, s, text, filled⟩ := isEntry.required "code" (by simp)
    cases held.unique isRule.code
    rw [code, (isText_value rule.label).unique text]
    exact filled
  · obtain ⟨items, held, item, listed, text⟩ := (isRule.tags tag).1 member
    obtain ⟨_, same, each⟩ := isEntry.tags _ held
    cases same
    obtain ⟨s, text', filled⟩ := each item listed
    rw [text.unique text']
    exact filled

/-- The rules of a file are those of its document. -/
theorem rules_alone {document : Value} (read : readDocument env.files path = .ok document) :
    (alone env path).1.rules =
      (compileDocument env.catalog document path.toString .empty).1.rules := by
  rw [alone, loadFile, read]
  dsimp only
  rcases compileDocument env.catalog document path.toString .empty with ⟨after, fault | count⟩
  · rfl
  · rfl

/-- What the document of a text tells about its load and its rules is so for a file with that text. -/
theorem alone_of_text {α : Type} {text : String} {view : Rule → α} {views : List α} {count : Nat}
    (read : env.files.read path = .ok text)
    (told : (Yaml.read true text).toOption.map (fun document =>
      let compiled := compileDocument env.catalog document path.toString .empty
      (compiled.2.toOption, compiled.1.rules.map view)) = some (some count, views)) :
    (alone env path).2 = .ok count ∧ (alone env path).1.rules.map view = views := by
  obtain ⟨document, parsed, told⟩ := Option.map_eq_some_iff.1 told
  obtain ⟨counted, listed⟩ := Prod.mk.inj told
  have found : readDocument env.files path = .ok document :=
    readDocument_of_parsed read (toOption_eq_some.1 parsed)
  constructor
  · rw [alone, loadFile_of_read found, toOption_eq_some.1 counted]
    rfl
  · rw [rules_alone found, listed]

/-- A rule of a file is one of a document that is read from it and accepted. -/
theorem exists_document_of_mem_alone (member : rule ∈ (alone env path).1.rules) :
    ∃ document entries, readDocument env.files path = .ok document ∧
      checkDocument document = .ok entries ∧
      rule ∈ (compileDocument env.catalog document path.toString .empty).1.rules := by
  by_cases accepted : ∃ document entries, readDocument env.files path = .ok document ∧
      checkDocument document = .ok entries
  · obtain ⟨document, entries, read, checked⟩ := accepted
    rw [rules_alone read] at member
    exact ⟨document, entries, read, checked, member⟩
  · have refused : (loadFile env path .empty).1 = .empty :=
      loadFile_refused fun document entries read checked => accepted ⟨document, entries, read, checked⟩
    rw [alone, refused] at member
    cases member

/-- The rules of a file are declared. -/
theorem isDeclared_of_mem_alone (member : rule ∈ (alone env path).1.rules) : IsDeclared rule := by
  obtain ⟨document, entries, -, checked, member⟩ := exists_document_of_mem_alone member
  exact ⟨env.catalog, path.toString, document, entries, checked, member⟩

/-! ## Rules with given tags -/

/-- An entry of a code and tags. -/
def taggedEntry (code : String) (tags : List String) : Value :=
  .map .plain [(.text "code", .text code), (.text "name", .text "tagged"),
    (.text "tags", .list (tags.map .text))]

theorem not_holds_kind {kind : Kind} {description : Value} :
    ¬ (taggedEntry code tags).Holds kind.name description := by
  intro held
  have found := Value.get?_eq_some_iff.2 held
  cases kind with
  | recipe => cases found
  | resource => cases found
  | provider => cases found
  | cookbook => cases found

theorem isEntry_taggedEntry (filled : Text.trim code ≠ "") (each : ∀ tag ∈ tags, Text.trim tag ≠ "") :
    IsEntry (taggedEntry code tags) where
  keys := Value.keysWithin_iff.2 ⟨rfl, rfl⟩
  required := by
    simp only [List.forall_mem_cons, List.not_mem_nil, false_implies, implies_true, and_true]
    exact ⟨⟨.text code, Value.get?_eq_some_iff.1 rfl, code, .text code, filled⟩,
      .text "tagged", Value.get?_eq_some_iff.1 rfl, "tagged", .text "tagged", by decide⟩
  tags := by
    intro given held
    cases Value.get?_eq_some_iff.2 held
    refine ⟨_, rfl, fun item member => ?_⟩
    obtain ⟨tag, listed, rfl⟩ := List.mem_map.1 member
    exact ⟨tag, .text tag, each tag listed⟩
  matchers := fun _ _ held => absurd held not_holds_kind

theorem IsRuleOf.mem_effectiveTags {catalog : Catalog} {source : String}
    (h : IsRuleOf catalog source (taggedEntry code tags) rule) :
    tag ∈ rule.effectiveTags ↔ tag = code ∨ tag ∈ tags := by
  have heldCode : (taggedEntry code tags).Holds "code" (.text code) := Value.get?_eq_some_iff.1 rfl
  have heldTags : (taggedEntry code tags).Holds "tags" (.list (tags.map .text)) :=
    Value.get?_eq_some_iff.1 rfl
  have isCode : rule.code = code := by
    have text := isText_value rule.label
    rw [h.code.unique heldCode] at text
    exact text.unique (.text code)
  rw [effectiveTags, TextSet.mem_insert, isCode, h.tags]
  apply or_congr_right
  constructor
  · rintro ⟨items, held, item, listed, text⟩
    cases held.unique heldTags
    obtain ⟨own, member, rfl⟩ := List.mem_map.1 listed
    rwa [text.unique (.text own)]
  · intro member
    exact ⟨_, heldTags, .text tag, List.mem_map_of_mem member, .text tag⟩

/-- A document of such an entry declares a rule that has these tags beside its code. -/
theorem exists_isDeclared (filled : Text.trim code ≠ "") (each : ∀ tag ∈ tags, Text.trim tag ≠ "") :
    ∃ rule, IsDeclared rule ∧ ∀ tag, tag ∈ rule.effectiveTags ↔ tag = code ∨ tag ∈ tags := by
  have isEntry := isEntry_taggedEntry filled each
  have frame : IsFrame (.map .plain [(.text "rules", .list [taggedEntry code tags])])
      (.list [taggedEntry code tags]) := by
    refine ⟨Value.keysWithin_iff.2 ⟨rfl, rfl⟩, Value.get?_eq_some_iff.1 rfl, fun version held => ?_⟩
    cases Value.get?_eq_some_iff.2 held
  have accepted := checkDocument_eq_ok_iff.2 (.listed frame (List.forall_mem_singleton.2 isEntry))
  obtain ⟨done, new, rules, ends⟩ :=
    declareEntries_ends ⟨[]⟩ "rules.yaml" (List.forall_mem_singleton.2 isEntry) .empty
  have added := (rules_compileDocument accepted).trans (ends.rules (.empty []))
  have whole : done = [taggedEntry code tags] := by
    generalize (declareEntries ⟨[]⟩ "rules.yaml" [taggedEntry code tags] .empty).2 = outcome at ends
    cases ends with
    | complete whole _ => exact whole.symm
    | @stopped entry _ _ _ _ _ _ _ cut _ stops _ =>
        have only : entry ∈ [taggedEntry code tags] := by
          rw [cut]
          exact List.mem_append_right done List.mem_cons_self
        rw [List.mem_singleton.1 only] at stops
        exact absurd stops.held not_holds_kind
  subst whole
  obtain ⟨rule, _, isRule, nothing, rfl⟩ := List.forall₂_cons_left_iff.1 rules
  cases nothing
  refine ⟨rule, ⟨⟨[]⟩, "rules.yaml", _, _, accepted, ?_⟩, fun tag => isRule.mem_effectiveTags⟩
  rw [added]
  exact List.mem_append_right _ (List.mem_singleton_self rule)

/-! ## Selection -/

/-- A tag that is not blank is selectable exactly if every declared rule that has it answers to it. -/
theorem isSelectable_iff (filled : Text.trim tag ≠ "") :
    (IsSelectable tag ↔
        ∀ rule, IsDeclared rule → tag ∈ rule.effectiveTags → rule.AnswersTo tag) ∧
      (IsSelectable tag → ∀ (env : Environment) (path : Path), ∀ rule ∈ (alone env path).1.rules,
        tag ∈ rule.effectiveTags → rule.AnswersTo tag) := by
  have answers (selectable : IsSelectable tag) (rule : Rule) (declared : IsDeclared rule)
      (member : tag ∈ rule.effectiveTags) : rule.AnswersTo tag :=
    selectable.answersTo filled member fun nameless => declared.trim_ne_empty nameless rfl
  refine ⟨⟨answers, fun all => ?_⟩, fun selectable env path rule loaded =>
    answers selectable rule (isDeclared_of_mem_alone loaded)⟩
  by_contra other
  obtain ⟨others, each, fails⟩ := exists_not_answersTo other filled
  obtain ⟨rule, declared, effective⟩ := exists_isDeclared filled each
  exact fails rule effective (all rule declared ((effective tag).2 (.inl rfl)))

/-- A tag of two words with a tilde in it, which is not in front. -/
theorem isSelectable_wordy :
    Text.trim "not~this one" ≠ "" ∧ IsSelectable "not~this one" ∧
      ∃ rule, IsDeclared rule ∧ "not~this one" ∈ rule.effectiveTags ∧
        rule.AnswersTo "not~this one" := by
  have filled : Text.trim "not~this one" ≠ "" := by decide
  have selectable : IsSelectable "not~this one" := by
    refine ⟨⟨by decide, ?_⟩, .inl ?_⟩
    · intro c last
      cases last
      rfl
    · intro c head
      cases head
      decide
  obtain ⟨rule, declared, effective⟩ :=
    @exists_isDeclared "R" ["not~this one"] (by decide) (by simpa using filled)
  have member : "not~this one" ∈ rule.effectiveTags := (effective _).2 (by simp)
  exact ⟨filled, selectable, rule, declared, member,
    (isSelectable_iff filled).1.1 selectable rule declared member⟩

/-- The text of a file of one rule, with a comma in its tag. -/
def commaText : String := "rules:\n- code: R\n  name: r\n  tags: ['a,b']\n"

/-- Surroundings with that file only. -/
def commaSurroundings : Environment :=
  { files := ⟨.directory [("rules.yaml", .file commaText.toUTF8.toList)], ⟨.root, []⟩⟩
    catalog := ⟨[]⟩
    bundled := ⟨.root, []⟩
    home := "/"
    users := [] }

/-- The path of that file. -/
def commaPath : Path := ⟨.relative, ["rules.yaml"]⟩

/-- The tag is read as two others, so that it does not select the rule. -/
theorem not_answersTo_comma :
    ¬ ∀ (env : Environment) (path : Path), Loads env path → ∀ rule ∈ (alone env path).1.rules,
      ∀ tag, tag ∈ rule.effectiveTags → rule.AnswersTo tag := by
  intro always
  have noNull : commaPath.hasNull = false := by simp [Path.hasNull, commaPath]
  have read : commaSurroundings.files.read commaPath = .ok commaText := by
    simp only [Files.read, noNull, Bool.false_eq_true, if_false]
    decide +kernel
  have declares : (alone commaSurroundings commaPath).2 = .ok 1 ∧
      (alone commaSurroundings commaPath).1.rules.map (fun rule =>
        (decide ("a,b" ∈ rule.effectiveTags), rule.satisfies (.ofString "a,b"))) = [(true, false)] :=
    alone_of_text read (by decide +kernel)
  obtain ⟨rule, others, rules, same, -⟩ := List.map_eq_cons_iff.1 declares.2
  obtain ⟨tagged, unmet⟩ := Prod.mk.inj same
  have answers := always _ _ ⟨1, declares.1⟩ rule (by rw [rules]; exact List.mem_cons_self) "a,b"
    (of_decide_eq_true tagged)
  cases unmet.symm.trans (select_eq_self_iff.1 answers.selected)

end CookbookRules.RuleFile
