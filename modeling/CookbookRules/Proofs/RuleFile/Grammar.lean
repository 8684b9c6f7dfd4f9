import CookbookRules.Proofs.Number.Rational
import CookbookRules.Proofs.Outcome
import CookbookRules.Proofs.Text.Trim
import CookbookRules.Proofs.Value.Keys
import CookbookRules.RuleFile.Schema

/-!
# The grammar of rule files

What a document may hold, said without an order of checks, and the schema against it: a check passes
exactly if its part of the grammar is met. Each check has one such lemma, from the parts of a matcher out
to the whole document.
-/

namespace CookbookRules.RuleFile

open Outcome

/-! ## Grammar -/

/-- A text of which trimming leaves something. -/
def IsFilled (v : Value) : Prop :=
  ∃ s, v.IsText s ∧ Text.trim s ≠ ""

/-- A mapping holds such a text under a key. -/
def HoldsFilled (v : Value) (key : String) : Prop :=
  ∃ given, v.Holds key given ∧ IsFilled given

/-- A mapping whose keys are texts. -/
def IsOptions (v : Value) : Prop :=
  ∃ origin entries, v = .map origin entries ∧ ∀ entry ∈ entries, ∃ s, entry.1.IsText s

/-- The number one, as an integer or with a floating point; true is not a version. -/
inductive IsVersion : Value → Prop
  | int : IsVersion (.int 1)
  | float {x : Number.Binary64} (one : x.rational? = some 1) : IsVersion (.float x)

/-- A mapping names a strategy by a text under the key for it. -/
def Names (v : Value) (strategy : Strategy) : Prop :=
  ∃ name, v.Holds "strategy" name ∧ name.IsText strategy.name

/-- A matcher of a kind as a strategy takes it. -/
structure DescribesBy (strategy : Strategy) (kind : Kind) (v : Value) : Prop where
  named : Names v strategy
  supported : strategy.supports kind = true
  keys : v.KeysWithin ("strategy" :: strategy.allowedKeys)
  required : HoldsFilled v strategy.requiredKey
  options : ∀ options, v.Holds "options" options → IsOptions options

/-- A matcher of a kind, by one of the strategies. -/
def Describes (kind : Kind) (v : Value) : Prop :=
  ∃ strategy, DescribesBy strategy kind v

/-- A list of texts that are not blank. -/
def IsTags (v : Value) : Prop :=
  ∃ items, v = .list items ∧ ∀ tag ∈ items, IsFilled tag

/-- An entry of a document. -/
structure IsEntry (v : Value) : Prop where
  keys : v.KeysWithin
    ["code", "name", "tags", "recipe", "resource", "provider", "cookbook"]
  required : ∀ key ∈ ["code", "name"], HoldsFilled v key
  tags : ∀ tags, v.Holds "tags" tags → IsTags tags
  matchers : ∀ (kind : Kind) description, v.Holds kind.name description → Describes kind description

/-- The outer mapping of a document, around some rules. -/
structure IsFrame (document rules : Value) : Prop where
  keys : document.KeysWithin ["version", "rules"]
  rules : document.Holds "rules" rules
  version : ∀ version, document.Holds "version" version → IsVersion version

/-- A document with its entries. Without a value, or with rules without a value, there are none. -/
inductive IsDocument : Value → List Value → Prop
  | empty : IsDocument .none []
  | bare {document : Value} (frame : IsFrame document .none) : IsDocument document []
  | listed {document : Value} {entries : List Value} (frame : IsFrame document (.list entries))
      (each : ∀ entry ∈ entries, IsEntry entry) : IsDocument document entries

theorem IsDocument.isEntry {document : Value} {entries : List Value} (h : IsDocument document entries) :
    ∀ entry ∈ entries, IsEntry entry := by
  cases h with
  | empty => simp
  | bare _ => simp
  | listed _ each => exact each

variable {α : Type} {v : Value} {kind : Kind} {strategy : Strategy} {line : Option Int}

/-! ## Values -/

theorem isFilledText_iff : isFilledText v = true ↔ IsFilled v := by
  rw [isFilledText, Option.any_eq_true]
  constructor
  · rintro ⟨s, text, filled⟩
    refine ⟨s, Value.asText?_eq_some_iff.1 text, fun nothing => ?_⟩
    rw [Text.allBlank_iff.2 nothing] at filled
    cases filled
  · rintro ⟨s, text, filled⟩
    refine ⟨s, Value.asText?_eq_some_iff.2 text, ?_⟩
    rw [Bool.not_eq_true', ← Bool.not_eq_true, Text.allBlank_iff]
    exact filled

theorem holdsFilled_iff {key : String} :
    (v.get? key).any isFilledText = true ↔ HoldsFilled v key := by
  rw [Option.any_eq_true, HoldsFilled]
  exact exists_congr fun given => and_congr Value.get?_eq_some_iff isFilledText_iff

theorem areOptions_iff : areOptions v = true ↔ IsOptions v := by
  simp only [areOptions, Option.any_eq_true, List.all_eq_true, Value.asText?_isSome_iff]
  constructor
  · rintro ⟨entries, mapping, texts⟩
    cases v with
    | map origin given => cases mapping; exact ⟨origin, _, rfl, texts⟩
    | _ => cases mapping
  · rintro ⟨origin, entries, rfl, texts⟩
    exact ⟨entries, rfl, texts⟩

theorem isOne_iff : v.isOne = true ↔ IsVersion v := by
  constructor
  · intro h
    cases v with
    | int n => rw [eq_of_beq h]; exact .int
    | float x => exact .float (by simpa using Number.Binary64.isInt_iff.1 h)
    | _ => cases h
  · intro h
    cases h with
    | int => rfl
    | float one => exact Number.Binary64.isInt_iff.2 (by simpa using one)

theorem ofName?_eq_some_iff {name : String} :
    Strategy.ofName? name = some strategy ↔ name = strategy.name := by
  constructor
  · intro h
    have named := List.find?_some h
    exact (eq_of_beq named).symm
  · rintro rfl
    cases strategy <;> decide

/-! ## Checks -/

@[simp] theorem expect_eq_ok_iff {holds : Bool} {cause : α} :
    expect holds line cause = .ok () ↔ holds = true := by
  cases holds <;> simp [expect, violated]

@[simp] theorem violated_bind {β γ : Type} {cause : α} {next : β → Check α γ} :
    (violated line cause : Check α β) >>= next = violated line cause := rfl

@[simp] theorem violated_ne_ok {β : Type} {cause : α} {result : β} :
    violated line cause ≠ .ok result := by
  simp [violated]

theorem checkParameters_eq_ok_iff :
    checkParameters strategy v line = .ok () ↔
      v.keysOutside ("strategy" :: strategy.allowedKeys) = [] ∧
        HoldsFilled v strategy.requiredKey ∧
        ∀ options, v.Holds "options" options → IsOptions options := by
  unfold checkParameters
  rw [then_eq_ok, expect_eq_ok_iff, List.isEmpty_iff]
  apply and_congr_right
  intro _
  simp only [← holdsFilled_iff, ← Value.get?_eq_some_iff, ← areOptions_iff]
  cases v.get? strategy.requiredKey with
  | none => simp
  | some given =>
      simp only [then_eq_ok, expect_eq_ok_iff, Option.any_some]
      apply and_congr_right
      intro _
      cases v.get? "options" with
      | none => simp [pure, Except.pure]
      | some options => simp

/-- A strategy is found exactly if it is named. -/
theorem names_iff :
    ((v.get? "strategy").getD .none).asText?.bind Strategy.ofName? = some strategy ↔
      Names v strategy := by
  simp only [Names, ← Value.get?_eq_some_iff, ← Value.asText?_eq_some_iff, Option.bind_eq_some_iff,
    ofName?_eq_some_iff, exists_eq_right]
  cases v.get? "strategy" with
  | none => simp [Value.asText?]
  | some name => simp

theorem checkMatcher_eq_ok_iff : checkMatcher kind v line = .ok () ↔ Describes kind v := by
  unfold checkMatcher
  rw [then_eq_ok, expect_eq_ok_iff]
  constructor
  · rintro ⟨mapping, described⟩
    cases named : ((v.get? "strategy").getD .none).asText?.bind Strategy.ofName? with
    | none => simp [named] at described
    | some strategy =>
        simp only [named, then_eq_ok, expect_eq_ok_iff, checkParameters_eq_ok_iff] at described
        obtain ⟨supported, within, required, options⟩ := described
        exact ⟨strategy, names_iff.1 named, supported, Value.keysWithin_iff.2 ⟨mapping, within⟩,
          required, options⟩
  · rintro ⟨strategy, named, supported, keys, required, options⟩
    obtain ⟨mapping, within⟩ := Value.keysWithin_iff.1 keys
    refine ⟨mapping, ?_⟩
    simp only [names_iff.2 named, then_eq_ok, expect_eq_ok_iff, checkParameters_eq_ok_iff]
    exact ⟨supported, within, required, options⟩

theorem checkTags_eq_ok_iff : checkTags v line = .ok () ↔ IsTags v := by
  constructor
  · intro h
    cases v with
    | list items =>
        refine ⟨items, rfl, fun tag member => ?_⟩
        unfold checkTags at h
        cases found : items.find? fun tag => !isFilledText tag with
        | none =>
            have filled := List.find?_eq_none.1 found tag member
            exact isFilledText_iff.1 (by simpa using filled)
        | some bad => simp [found] at h
    | _ => cases h
  · rintro ⟨items, rfl, filled⟩
    have found : (items.find? fun tag => !isFilledText tag) = none := by
      rw [List.find?_eq_none]
      intro tag member
      simpa using isFilledText_iff.2 (filled tag member)
    simp [checkTags, found]

theorem checkRequired_eq_ok_iff {key : String} :
    checkRequired v line key = .ok () ↔ HoldsFilled v key := by
  rw [← holdsFilled_iff, checkRequired]
  cases v.get? key with
  | none => simp
  | some given => simp

theorem checkKind_eq_ok_iff :
    checkKind v line kind = .ok () ↔
      ∀ description, v.Holds kind.name description → Describes kind description := by
  simp only [← Value.get?_eq_some_iff, checkKind]
  cases v.get? kind.name with
  | none => simp
  | some description => simp [mapError_eq_ok, checkMatcher_eq_ok_iff]

theorem checkKinds_eq_ok_iff :
    Kind.all.forM (checkKind v line) = .ok () ↔
      ∀ (kind : Kind) description, v.Holds kind.name description → Describes kind description := by
  simp only [forM_eq_ok, checkKind_eq_ok_iff, Kind.mem_all, forall_const]

theorem checkEntry_eq_ok_iff : checkEntry v line = .ok () ↔ IsEntry v := by
  have parts : checkEntry v line = .ok () ↔
      v.isMap = true ∧ v.keysOutside allowedEntryKeys = [] ∧
        (∀ key ∈ requiredEntryKeys, HoldsFilled v key) ∧
        (∀ tags, v.Holds "tags" tags → IsTags tags) ∧
        ∀ (kind : Kind) description, v.Holds kind.name description → Describes kind description := by
    unfold checkEntry
    simp only [then_eq_ok, expect_eq_ok_iff, List.isEmpty_iff, forM_eq_ok, checkRequired_eq_ok_iff]
    refine and_congr_right fun _ => and_congr_right fun _ => and_congr_right fun _ => ?_
    rw [← @checkKinds_eq_ok_iff v v.line?]
    simp only [← Value.get?_eq_some_iff]
    cases v.get? "tags" with
    | none => simp
    | some tags => simp [then_eq_ok, checkTags_eq_ok_iff]
  rw [parts]
  constructor
  · rintro ⟨mapping, within, required, tags, matchers⟩
    exact ⟨Value.keysWithin_iff.2 ⟨mapping, within⟩, required, tags, matchers⟩
  · rintro ⟨keys, required, tags, matchers⟩
    obtain ⟨mapping, within⟩ := Value.keysWithin_iff.1 keys
    exact ⟨mapping, within, required, tags, matchers⟩

/-- The keys of a document pass exactly if it is the frame of what it holds as its rules. -/
theorem checkKeys_eq_ok_iff (mapping : v.isMap = true) :
    checkKeys v = .ok () ↔ ∃ rules, IsFrame v rules := by
  unfold checkKeys
  simp only [then_eq_ok, expect_eq_ok_iff, List.isEmpty_iff, Value.get?_isSome_iff]
  constructor
  · rintro ⟨_, within, ⟨rules, held⟩, version⟩
    refine ⟨rules, Value.keysWithin_iff.2 ⟨mapping, within⟩, held, fun given h => ?_⟩
    rw [Value.get?_eq_some_iff.2 h] at version
    exact isOne_iff.1 (expect_eq_ok_iff.1 version)
  · rintro ⟨rules, keys, held, version⟩
    have within := (Value.keysWithin_iff.1 keys).2
    refine ⟨?_, within, ⟨rules, held⟩, ?_⟩
    · change strayKeys (v.keysOutside ["version", "rules"]) = []
      rw [within]
      simp [strayKeys, Kind.all]
    · cases given : v.get? "version" with
      | none => rfl
      | some found =>
          exact expect_eq_ok_iff.2 (isOne_iff.2 (version found (Value.get?_eq_some_iff.1 given)))

theorem checkEntries_eq_ok_iff {entries : List Value} :
    checkEntries entries line = .ok () ↔ ∀ entry ∈ entries, IsEntry entry := by
  rw [checkEntries, forM_eq_ok]
  simp only [mapError_eq_ok, checkEntry_eq_ok_iff]
  constructor
  · intro h entry member
    obtain ⟨index, found⟩ := List.getElem?_of_mem member
    exact h (entry, index) (List.mk_mem_zipIdx_iff_getElem?.2 found)
  · intro h pair member
    exact h pair.1 (List.fst_mem_of_mem_zipIdx member)

/-- Entries are checked in their order: the first one that is none decides. -/
theorem checkEntries_append {before after : List Value} {entry : Value}
    {found : Located EntryViolation} (passed : ∀ earlier ∈ before, IsEntry earlier)
    (failed : checkEntry entry line = .error found) :
    checkEntries (before ++ entry :: after) line =
      .error ⟨.entry before.length found.cause, found.line⟩ := by
  rw [checkEntries, List.zipIdx_append, List.zipIdx_cons]
  apply forM_eq_error
  · intro earlier member
    rw [mapError_eq_ok, checkEntry_eq_ok_iff]
    exact passed earlier.1 (List.fst_mem_of_mem_zipIdx member)
  · simp [failed, Except.mapError]

/-! ## Documents -/

/-- Inside a frame the rules alone decide. -/
theorem IsFrame.checkDocument_eq {document rules : Value} :
    IsFrame document rules → checkDocument document =
      match rules with
      | .list entries => do
        checkEntries entries document.line?
        pure entries
      | .none => pure []
      | _ => violated document.line? .rulesNotList := by
  intro frame
  obtain ⟨mapping, -⟩ := Value.keysWithin_iff.1 frame.keys
  have passed := (checkKeys_eq_ok_iff mapping).2 ⟨rules, frame⟩
  obtain ⟨origin, given, rfl⟩ := Value.isMap_iff.1 mapping
  rw [checkDocument, passed, Value.get?_eq_some_iff.2 frame.rules]
  cases rules <;> rfl

theorem checkDocument_eq_ok_iff {document : Value} {entries : List Value} :
    checkDocument document = .ok entries ↔ IsDocument document entries := by
  constructor
  · intro h
    cases document with
    | none => cases h; exact .empty
    | map origin given =>
        obtain ⟨passed, -⟩ := then_eq_ok.1 h
        obtain ⟨rules, frame⟩ := (checkKeys_eq_ok_iff rfl).1 passed
        rw [frame.checkDocument_eq] at h
        cases rules with
        | none => cases h; exact .bare frame
        | list items =>
            obtain ⟨each, h⟩ := then_eq_ok.1 h
            cases h
            exact .listed frame (checkEntries_eq_ok_iff.1 each)
        | _ => cases h
    | _ => cases h
  · intro h
    cases h with
    | empty => rfl
    | bare frame => rw [frame.checkDocument_eq]; rfl
    | listed frame each =>
        rw [frame.checkDocument_eq]
        exact then_eq_ok.2 ⟨checkEntries_eq_ok_iff.2 each, rfl⟩

/-- The schema accepts the documents of the grammar and answers their entries. Where the frame of a
document stands and not every item of its rules is an entry, the first one that is none is reported,
with its own violation and its own line. -/
theorem checkDocument_grammar (document : Value) :
    (∀ entries, checkDocument document = .ok entries ↔ IsDocument document entries) ∧
      ∀ items, IsFrame document (.list items) → (∃ item ∈ items, ¬ IsEntry item) →
        ∃ before entry after found, items = before ++ entry :: after ∧
          (∀ earlier ∈ before, IsEntry earlier) ∧ ¬ IsEntry entry ∧
          checkEntry entry document.line? = .error found ∧
          checkDocument document = .error ⟨.entry before.length found.cause, found.line⟩ := by
  classical
  refine ⟨fun entries => checkDocument_eq_ok_iff, fun items frame ⟨item, member, invalid⟩ => ?_⟩
  obtain ⟨entry, first⟩ : ∃ entry, (items.find? fun e => ¬ IsEntry e) = some entry := by
    rw [← Option.isSome_iff_exists, List.find?_isSome]
    exact ⟨item, member, by simpa using invalid⟩
  obtain ⟨wrong, before, after, rfl, passed⟩ := List.find?_eq_some_iff_append.1 first
  replace wrong : ¬ IsEntry entry := by simpa using wrong
  replace passed : ∀ earlier ∈ before, IsEntry earlier := by simpa using passed
  cases checked : checkEntry entry document.line? with
  | ok => exact absurd (checkEntry_eq_ok_iff.1 checked) wrong
  | error found =>
      refine ⟨before, entry, after, found, rfl, passed, wrong, checked, ?_⟩
      simp only [frame.checkDocument_eq, checkEntries_append passed checked]
      rfl

/-- An entry without tags and matchers. -/
def plainEntry (code name : String) : Value :=
  .map .plain [(.text "code", .text code), (.text "name", .text name)]

/-- A document of version 1.0 with two entries, the second without a name to read. -/
def blankName : Value :=
  .map (.located (some 1))
    [(.text "version", .float (.finite false 4503599627370496 (-52))),
      (.text "rules", .list [plainEntry "A" "first", plainEntry "B" " "])]

theorem isEntry_plainEntry : IsEntry (plainEntry "A" "first") ∧ ¬ IsEntry (plainEntry "B" " ") := by
  simp only [← @checkEntry_eq_ok_iff _ none]
  exact ⟨rfl, nofun⟩

/-- The frame of the document stands, and its second entry is reported. -/
theorem checkDocument_blankName :
    IsFrame blankName (.list [plainEntry "A" "first", plainEntry "B" " "]) ∧
      ¬ IsEntry (plainEntry "B" " ") ∧
      ∃ (index : Nat) (found : Located EntryViolation),
        checkDocument blankName = .error ⟨.entry index found.cause, found.line⟩ := by
  have frame : IsFrame blankName (.list [plainEntry "A" "first", plainEntry "B" " "]) := by
    refine ⟨Value.keysWithin_iff.2 ⟨rfl, rfl⟩, Value.get?_eq_some_iff.1 rfl, fun version held => ?_⟩
    cases Value.get?_eq_some_iff.2 held
    exact isOne_iff.1 rfl
  obtain ⟨-, invalid⟩ := isEntry_plainEntry
  obtain ⟨before, _, _, found, _, _, _, _, reported⟩ :=
    (checkDocument_grammar blankName).2 _ frame ⟨_, by simp, invalid⟩
  exact ⟨frame, invalid, before.length, found, reported⟩

end CookbookRules.RuleFile
