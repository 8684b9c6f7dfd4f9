import CookbookRules.Proofs.RuleFile.Entries
import CookbookRules.Proofs.RuleFile.Failure
import CookbookRules.Proofs.Yaml.Building

/-!
# Where content errors are

An error in the content of a rule file belongs to one mapping of its document: the document, an entry or the
description of a matcher. `BelongsTo` says which, and that what the error tells is wrong there. Where all
mappings know their lines, the line of the error is that of the mapping, so no error is without one.
-/

namespace CookbookRules.RuleFile

open Outcome

/-! ## What is wrong where -/

/-- What a violation tells is wrong with the description of a matcher of a kind. -/
inductive Misdescribed (kind : Kind) (v : Value) : MatcherViolation → Prop
  | badStrategy (nothing : ∀ strategy, ¬ Names v strategy) :
      Misdescribed kind v (.badStrategy ((v.get? "strategy").getD .none))
  | unsupported {strategy : Strategy} (named : Names v strategy)
      (other : strategy.supports kind = false) : Misdescribed kind v (.unsupported strategy kind)
  | unknownKeys {strategy : Strategy} (named : Names v strategy)
      (outside : ¬ v.KeysWithin ("strategy" :: strategy.allowedKeys)) :
      Misdescribed kind v
        (.unknownKeys strategy (v.keysOutside ("strategy" :: strategy.allowedKeys)))
  | missingKey {strategy : Strategy} (named : Names v strategy)
      (absent : ∀ given, ¬ v.Holds strategy.requiredKey given) :
      Misdescribed kind v (.missingKey strategy strategy.requiredKey)
  | blankKey {strategy : Strategy} {given : Value} (named : Names v strategy)
      (held : v.Holds strategy.requiredKey given) (blank : ¬ IsFilled given) :
      Misdescribed kind v (.blankKey strategy.requiredKey)
  | badOptions {options : Value} (held : v.Holds "options" options) (other : ¬ IsOptions options) :
      Misdescribed kind v .badOptions

/-- What a violation tells is wrong with an entry. Of the descriptions in it, only that one is no mapping
is laid to the entry. -/
inductive Misentered (v : Value) : EntryViolation → Prop
  | unknownKeys (outside : ¬ v.KeysWithin allowedEntryKeys) :
      Misentered v (.unknownKeys (v.keysOutside allowedEntryKeys))
  | missingKey {key : String} (required : key ∈ requiredEntryKeys)
      (absent : ∀ given, ¬ v.Holds key given) : Misentered v (.missingKey key)
  | blankKey {key : String} {given : Value} (required : key ∈ requiredEntryKeys)
      (held : v.Holds key given) (blank : ¬ IsFilled given) : Misentered v (.blankKey key)
  | tagsNotList {tags : Value} (held : v.Holds "tags" tags) (other : ∀ items, tags ≠ .list items) :
      Misentered v .tagsNotList
  | badTag {items : List Value} {tag : Value} (held : v.Holds "tags" (.list items))
      (member : tag ∈ items) (blank : ¬ IsFilled tag) : Misentered v (.badTag tag)
  | notMatcher {kind : Kind} {description : Value} (held : v.Holds kind.name description)
      (other : description.isMap = false) : Misentered v (.matcher kind .notMapping)

/-- An entry stands at an index among the rules of a document. -/
def HasEntry (document : Value) (index : Nat) (entry : Value) : Prop :=
  ∃ items, document.Holds "rules" (.list items) ∧ items[index]? = some entry

/-- The mapping that a violation of a document belongs to. What is wrong with the keys of the document, and
that an entry is no mapping, is laid to the document itself. -/
inductive BelongsTo (document : Value) : Violation → Value → Prop
  | strayMatchers (outside : ¬ document.KeysWithin allowedKeys) :
      BelongsTo document (.strayMatchers (strayKeys (document.keysOutside allowedKeys))) document
  | unknownKeys (outside : ¬ document.KeysWithin allowedKeys) :
      BelongsTo document (.unknownKeys (document.keysOutside allowedKeys)) document
  | missingKey (absent : ∀ rules, ¬ document.Holds "rules" rules) :
      BelongsTo document (.missingKey "rules") document
  | badVersion {version : Value} (held : document.Holds "version" version)
      (other : ¬ IsVersion version) : BelongsTo document (.badVersion version) document
  | rulesNotList {rules : Value} (held : document.Holds "rules" rules) (given : rules ≠ .none)
      (other : ∀ items, rules ≠ .list items) : BelongsTo document .rulesNotList document
  | notMapping {index : Nat} {entry : Value} (stands : HasEntry document index entry)
      (other : entry.isMap = false) : BelongsTo document (.entry index .notMapping) document
  | entry {index : Nat} {entry : Value} {violation : EntryViolation}
      (stands : HasEntry document index entry) (wrong : Misentered entry violation) :
      BelongsTo document (.entry index violation) entry
  | description {index : Nat} {entry description : Value} {kind : Kind} {violation : MatcherViolation}
      (stands : HasEntry document index entry) (held : entry.Holds kind.name description)
      (wrong : Misdescribed kind description violation) :
      BelongsTo document (.entry index (.matcher kind violation)) description

/-- The mapping that an error in the content of a file belongs to: that of a violation, or the description
of a matcher that cannot be built. -/
inductive LoadCause.Blames (catalog : Catalog) (document : Value) : LoadCause → Value → Prop
  | refused {violation : Located Violation} {blamed : Value}
      (belongs : BelongsTo document violation.cause blamed) :
      Blames catalog document (.refused violation) blamed
  | strategy {index : Nat} {entry description : Value} {label : Label} {kind : Kind}
      {fault : StrategyFault} {line : Option Int} (stands : HasEntry document index entry)
      (code : entry.Holds "code" label.value) (held : entry.Holds kind.name description)
      (failed : buildMatcher catalog description = .error (.strategy fault)) :
      Blames catalog document (.strategy label.shown kind fault line) description

/-! ## Checks that fail -/

variable {α : Type} {v document : Value} {kind : Kind} {line outer : Option Int} {last : Nat}

theorem expect_eq_error_iff {holds : Bool} {cause : α} {found : Located α} :
    expect holds line cause = .error found ↔ holds = false ∧ found = ⟨cause, line⟩ := by
  cases holds <;> simp [expect, violated, eq_comm]

theorem violated_eq_error_iff {β : Type} {cause : α} {found : Located α} :
    (violated line cause : Check α β) = .error found ↔ found = ⟨cause, line⟩ := by
  simp [violated, eq_comm]

/-- Keys outside some names are found, so the keys of the mapping are not within them. -/
theorem not_keysWithin_of_isEmpty {names : List String}
    (h : (v.keysOutside names).isEmpty = false) : ¬ v.KeysWithin names := by
  intro within
  rw [(Value.keysWithin_iff.1 within).2] at h
  cases h

theorem checkParameters_eq_error {strategy : Strategy} {found : Located MatcherViolation}
    (named : Names v strategy) (h : checkParameters strategy v line = .error found) :
    Misdescribed kind v found.cause ∧ found.line = line := by
  unfold checkParameters at h
  dsimp only at h
  rcases then_eq_error.1 h with h | ⟨-, h⟩
  · obtain ⟨outside, rfl⟩ := expect_eq_error_iff.1 h
    exact ⟨.unknownKeys named (not_keysWithin_of_isEmpty outside), rfl⟩
  · split at h
    · next absent =>
      rw [violated_bind, violated_eq_error_iff] at h
      subst h
      exact ⟨.missingKey named (Value.get?_eq_none_iff.1 absent), rfl⟩
    · next given held =>
      rcases then_eq_error.1 h with h | ⟨-, h⟩
      · obtain ⟨blank, rfl⟩ := expect_eq_error_iff.1 h
        refine ⟨.blankKey named (Value.get?_eq_some_iff.1 held) ?_, rfl⟩
        rw [← isFilledText_iff, blank]
        exact Bool.false_ne_true
      · split at h
        · next options held =>
          obtain ⟨other, rfl⟩ := expect_eq_error_iff.1 h
          refine ⟨.badOptions (Value.get?_eq_some_iff.1 held) ?_, rfl⟩
          rw [← areOptions_iff, other]
          exact Bool.false_ne_true
        · cases h

/-- The check of a description fails on the line around it where there is no mapping, and else on the line
that counts for the description. -/
theorem checkMatcher_eq_error {found : Located MatcherViolation}
    (h : checkMatcher kind v outer = .error found) :
    v.isMap = false ∧ found = ⟨.notMapping, outer⟩ ∨
      v.isMap = true ∧ Misdescribed kind v found.cause ∧ found.line = lineOr v.line? outer := by
  unfold checkMatcher at h
  dsimp only at h
  rcases then_eq_error.1 h with h | ⟨mapping, h⟩
  · exact .inl (expect_eq_error_iff.1 h)
  refine .inr ⟨expect_eq_ok_iff.1 mapping, ?_⟩
  split at h
  · next nothing =>
    rw [violated_eq_error_iff] at h
    subst h
    refine ⟨.badStrategy fun strategy named => ?_, rfl⟩
    cases nothing.symm.trans (names_iff.2 named)
  · next strategy named =>
    rcases then_eq_error.1 h with h | ⟨-, h⟩
    · obtain ⟨other, rfl⟩ := expect_eq_error_iff.1 h
      exact ⟨.unsupported (names_iff.1 named) other, rfl⟩
    · exact checkParameters_eq_error (names_iff.1 named) h

theorem checkTags_eq_error {tags : Value} {found : Located EntryViolation}
    (held : v.Holds "tags" tags) (h : checkTags tags line = .error found) :
    Misentered v found.cause ∧ found.line = line := by
  unfold checkTags at h
  split at h
  · split at h
    · next tag failing =>
      rw [violated_eq_error_iff] at h
      subst h
      refine ⟨.badTag held (List.mem_of_find?_eq_some failing) fun filled => ?_, rfl⟩
      have blank := List.find?_some failing
      rw [isFilledText_iff.2 filled] at blank
      cases blank
    · cases h
  · next other =>
    rw [violated_eq_error_iff] at h
    subst h
    exact ⟨.tagsNotList held other, rfl⟩

theorem checkRequired_eq_error {key : String} {found : Located EntryViolation}
    (required : key ∈ requiredEntryKeys) (h : checkRequired v line key = .error found) :
    Misentered v found.cause ∧ found.line = line := by
  unfold checkRequired at h
  split at h
  · next absent =>
    rw [violated_eq_error_iff] at h
    subst h
    exact ⟨.missingKey required (Value.get?_eq_none_iff.1 absent), rfl⟩
  · next given held =>
    obtain ⟨blank, rfl⟩ := expect_eq_error_iff.1 h
    refine ⟨.blankKey required (Value.get?_eq_some_iff.1 held) ?_, rfl⟩
    rw [← isFilledText_iff, blank]
    exact Bool.false_ne_true

/-- The check of a kind fails on the line of the entry where its description is no mapping, and else on the
line that counts for the description. -/
theorem checkKind_eq_error {found : Located EntryViolation} (h : checkKind v line kind = .error found) :
    Misentered v found.cause ∧ found.line = line ∨
      ∃ description violation, v.Holds kind.name description ∧ description.isMap = true ∧
        Misdescribed kind description violation ∧
        found = ⟨.matcher kind violation, lineOr description.line? line⟩ := by
  unfold checkKind at h
  split at h
  · cases h
  · next description held =>
    have held := Value.get?_eq_some_iff.1 held
    obtain ⟨⟨violation, place⟩, failed, rfl⟩ := mapError_eq_error.1 h
    rcases checkMatcher_eq_error failed with ⟨other, same⟩ | ⟨mapping, wrong, same⟩
    · cases same
      exact .inl ⟨.notMatcher held other, rfl⟩
    · cases same
      exact .inr ⟨description, violation, held, mapping, wrong, rfl⟩

/-- The check of an entry fails on the line around it where there is no mapping, on the line of the entry
for what is wrong with the entry, and for a description on the line that counts for it. -/
theorem checkEntry_eq_error {found : Located EntryViolation}
    (h : checkEntry v outer = .error found) :
    v.isMap = false ∧ found = ⟨.notMapping, outer⟩ ∨
      v.isMap = true ∧ (Misentered v found.cause ∧ found.line = v.line? ∨
        ∃ kind description violation, v.Holds (Kind.name kind) description ∧
          description.isMap = true ∧ Misdescribed kind description violation ∧
          found = ⟨.matcher kind violation, lineOr description.line? v.line?⟩) := by
  unfold checkEntry at h
  dsimp only at h
  rcases then_eq_error.1 h with h | ⟨mapping, h⟩
  · exact .inl (expect_eq_error_iff.1 h)
  refine .inr ⟨expect_eq_ok_iff.1 mapping, ?_⟩
  rcases then_eq_error.1 h with h | ⟨-, h⟩
  · obtain ⟨outside, rfl⟩ := expect_eq_error_iff.1 h
    exact .inl ⟨.unknownKeys (not_keysWithin_of_isEmpty outside), rfl⟩
  rcases then_eq_error.1 h with h | ⟨-, h⟩
  · obtain ⟨key, required, h⟩ := exists_of_forM_eq_error h
    exact .inl (checkRequired_eq_error required h)
  have kinds (failed : Kind.all.forM (checkKind v v.line?) = .error found) :
      Misentered v found.cause ∧ found.line = v.line? ∨
        ∃ kind description violation, v.Holds (Kind.name kind) description ∧
          description.isMap = true ∧ Misdescribed kind description violation ∧
          found = ⟨.matcher kind violation, lineOr description.line? v.line?⟩ := by
    obtain ⟨kind, -, h⟩ := exists_of_forM_eq_error failed
    exact (checkKind_eq_error h).imp_right fun described => ⟨kind, described⟩
  split at h
  · next tags held =>
    rcases then_eq_error.1 h with h | ⟨-, h⟩
    · exact .inl (checkTags_eq_error (Value.get?_eq_some_iff.1 held) h)
    · exact kinds h
  · exact kinds h

theorem checkKeys_eq_error {found : Located Violation} (h : checkKeys v = .error found) :
    BelongsTo v found.cause v ∧ found.line = v.line? := by
  unfold checkKeys at h
  dsimp only at h
  rcases then_eq_error.1 h with h | ⟨-, h⟩
  · obtain ⟨stray, rfl⟩ := expect_eq_error_iff.1 h
    refine ⟨.strayMatchers fun within => ?_, rfl⟩
    rw [(Value.keysWithin_iff.1 within).2] at stray
    simp [strayKeys, Kind.all] at stray
  rcases then_eq_error.1 h with h | ⟨-, h⟩
  · obtain ⟨outside, rfl⟩ := expect_eq_error_iff.1 h
    exact ⟨.unknownKeys (not_keysWithin_of_isEmpty outside), rfl⟩
  rcases then_eq_error.1 h with h | ⟨-, h⟩
  · obtain ⟨absent, rfl⟩ := expect_eq_error_iff.1 h
    refine ⟨.missingKey (Value.get?_eq_none_iff.1 ?_), rfl⟩
    simpa using absent
  · split at h
    · next version held =>
      obtain ⟨other, rfl⟩ := expect_eq_error_iff.1 h
      refine ⟨.badVersion (Value.get?_eq_some_iff.1 held) ?_, rfl⟩
      rw [← isOne_iff, other]
      exact Bool.false_ne_true
    · cases h

/-! ## Lines -/

/-- Of a mapping that knows its line no other line counts. -/
theorem lineOr_line? (located : v.IsLocated last) (mapping : v.isMap = true) :
    lineOr v.line? outer = v.line? := by
  obtain ⟨n, known, first, -⟩ := located.exists_line mapping
  rw [known]
  cases n with
  | zero => cases first
  | succ n => rfl

theorem HasEntry.isLocated {index : Nat} {entry : Value} (stands : HasEntry document index entry)
    (located : document.IsLocated last) : entry.IsLocated last := by
  obtain ⟨items, held, found⟩ := stands
  exact (located.of_holds held).of_mem (List.mem_of_getElem? found)

theorem IsDocument.hasEntry {entries : List Value} {index : Nat} {entry : Value}
    (h : IsDocument document entries) (found : entries[index]? = some entry) :
    HasEntry document index entry := by
  cases h with
  | empty => cases found
  | bare frame => cases found
  | listed frame each => exact ⟨entries, frame.rules, found⟩

/-- Where mappings know their lines, a violation has the line of the mapping that it belongs to. -/
theorem checkEntry_line {index : Nat} {entry : Value} {found : Located EntryViolation}
    (located : document.IsLocated last) (mapping : document.isMap = true)
    (stands : HasEntry document index entry)
    (h : checkEntry entry document.line? = .error found) :
    ∃ blamed, BelongsTo document (.entry index found.cause) blamed ∧ blamed.isMap = true ∧
      blamed.IsLocated last ∧ found.line = blamed.line? := by
  have own := stands.isLocated located
  rcases checkEntry_eq_error h with ⟨other, rfl⟩ | ⟨isMap, ⟨wrong, same⟩ | described⟩
  · exact ⟨document, .notMapping stands other, mapping, located, rfl⟩
  · exact ⟨entry, .entry stands wrong, isMap, own, same⟩
  · obtain ⟨kind, description, violation, held, isMap, wrong, rfl⟩ := described
    have inner := own.of_holds held
    exact ⟨description, .description stands held wrong, isMap, inner, lineOr_line? inner isMap⟩

theorem checkDocument_line {found : Located Violation} (located : document.IsLocated last)
    (mapping : document.isMap = true) (h : checkDocument document = .error found) :
    ∃ blamed, BelongsTo document found.cause blamed ∧ blamed.isMap = true ∧
      blamed.IsLocated last ∧ found.line = blamed.line? := by
  obtain ⟨origin, held, rfl⟩ := Value.isMap_iff.1 mapping
  unfold checkDocument at h
  rcases then_eq_error.1 h with h | ⟨-, h⟩
  · obtain ⟨belongs, same⟩ := checkKeys_eq_error h
    exact ⟨_, belongs, mapping, located, same⟩
  · split at h
    · next entries rules =>
      rcases then_eq_error.1 h with h | ⟨-, h⟩
      · obtain ⟨⟨entry, index⟩, member, h⟩ := exists_of_forM_eq_error h
        obtain ⟨cause, failed, rfl⟩ := mapError_eq_error.1 h
        refine checkEntry_line located mapping ⟨entries, Value.get?_eq_some_iff.1 rules, ?_⟩ failed
        exact List.mk_mem_zipIdx_iff_getElem?.1 member
      · cases h
    · cases h
    · cases h
    · next rules notList given held =>
      rw [violated_eq_error_iff] at h
      subst h
      exact ⟨_, .rulesNotList (Value.get?_eq_some_iff.1 held) given notList, mapping, located, rfl⟩

/-- A matcher that cannot be built is an error on the line of its description, and the only one that entries
of the grammar give. -/
theorem declareEntries_line {catalog : Catalog} {source : String} {entries : List Value} {r : Registry}
    {fault : EntryFault} {e : LoadError} (located : document.IsLocated last)
    (accepted : checkDocument document = .ok entries)
    (h : (declareEntries catalog source entries r).2 = .error fault)
    (worded : (DocumentFault.entry fault).failure source = .error e) :
    e.cause.code = "RULE005" ∧ ∃ blamed : Value, e.cause.Blames catalog document blamed ∧
      blamed.isMap = true ∧ blamed.IsLocated last ∧ e.cause.line = blamed.line? := by
  have isDocument := checkDocument_eq_ok_iff.1 accepted
  obtain ⟨done, new, -, ends⟩ := declareEntries_ends catalog source isDocument.isEntry r
  rw [h] at ends
  cases ends with
  | @stopped entry behind label kind description why after _ cut code stops halts =>
      generalize (declareEntries catalog source entries r).1 = after at halts
      cases halts with
      | raised _ => cases worded
      | exit _ _ => cases worded
      | strategy _ =>
          cases worded
          have stands : HasEntry document done.length entry := isDocument.hasEntry (by simp [cut])
          have isEntry := isDocument.isEntry entry (by simp [cut])
          obtain ⟨strategy, describes⟩ := isEntry.matchers kind description stops.held
          have isMap := (Value.keysWithin_iff.1 describes.keys).1
          have inner := (stands.isLocated located).of_holds stops.held
          exact ⟨rfl, description, .strategy stands code stops.held stops.failed, isMap, inner,
            lineOr_line? inner isMap⟩

/-- The load of a file with a mapping as its document fails with a line: that of the mapping which the error
belongs to, and one that the text of the file has. -/
theorem loadFile_located {env : Environment} {path : Path} {text : String} {e : LoadError}
    (read : env.files.read path = .ok text) (parsed : Yaml.read true text = .ok document)
    (mapping : document.isMap = true) {r : Registry}
    (failed : (loadFile env path r).2 = .error (.error e)) :
    (e.cause.code = "RULE004" ∨ e.cause.code = "RULE005") ∧
      ∃ (blamed : Value) (line : Nat), e.cause.Blames env.catalog document blamed ∧
        blamed.isMap = true ∧ blamed.line? = some (line : Int) ∧ e.cause.line = some (line : Int) ∧
        1 ≤ line ∧ line ≤ Yaml.breakCount text.toList + 1 := by
  have located := Yaml.isLocated_read parsed
  have found := readDocument_of_parsed read parsed
  rw [loadFile_of_read found] at failed
  obtain ⟨fault, stopped, worded⟩ := mapError_eq_error.1 failed
  have blame : (e.cause.code = "RULE004" ∨ e.cause.code = "RULE005") ∧
      ∃ blamed : Value, e.cause.Blames env.catalog document blamed ∧ blamed.isMap = true ∧
        blamed.IsLocated (Yaml.breakCount text.toList + 1) ∧ e.cause.line = blamed.line? := by
    cases checked : checkDocument document with
    | error violation =>
        simp only [compileDocument, checked, DocumentFault.ofViolation] at stopped
        split at stopped
        · cases stopped
          cases worded
          obtain ⟨blamed, belongs, rest⟩ := checkDocument_line located mapping checked
          exact ⟨.inl rfl, blamed, .refused belongs, rest⟩
        · cases stopped
          cases worded
    | ok entries =>
        rw [compileDocument_outcome checked] at stopped
        split at stopped
        · cases stopped
        · next ended =>
          cases stopped
          obtain ⟨code, blamed⟩ := declareEntries_line located checked ended worded
          exact ⟨.inr code, blamed⟩
  obtain ⟨code, blamed, blames, isMap, inner, same⟩ := blame
  obtain ⟨line, known, first, within⟩ := inner.exists_line isMap
  exact ⟨code, blamed, line, blames, isMap, known, same.trans known, first, within⟩

/-- The text of a file with the description of a matcher that two rules share. Only the first of them is
of a kind that its strategy supports. -/
def sharedText : String :=
  "rules:\n- code: A\n  name: a\n  cookbook: &shared\n    strategy: missing_file\n    path: x\n" ++
    "- code: B\n  name: b\n  recipe: *shared\n"

/-- Surroundings with that file only. -/
def sharedSurroundings : Environment :=
  { files := ⟨.directory [("rules.yaml", .file sharedText.toUTF8.toList)], ⟨.root, []⟩⟩
    catalog := ⟨[]⟩
    bundled := ⟨.root, []⟩
    home := "/"
    users := [] }

/-- The path of that file. -/
def sharedPath : Path := ⟨.relative, ["rules.yaml"]⟩

/-- The description stands on the fourth line, in the first rule, and that is the line of the error. -/
theorem loadFile_shared :
    ∃ document e, Yaml.read true sharedText = .ok document ∧ document.isMap = true ∧
      (loadFile sharedSurroundings sharedPath .empty).2 = .error (.error e) ∧ e.cause.line = some 4 ∧
      ∃ blamed, e.cause.Blames sharedSurroundings.catalog document blamed ∧ blamed.line? = some 4 := by
  have noNull : sharedPath.hasNull = false := by simp [Path.hasNull, sharedPath]
  have read : sharedSurroundings.files.read sharedPath = .ok sharedText := by
    simp only [Files.read, noNull, Bool.false_eq_true, if_false]
    decide +kernel
  have told : ((Yaml.read true sharedText).toOption.map fun document =>
      (document.isMap, (faultOf? (checkDocument document)).map fun violation =>
        (violation.cause.isWritable, violation.line))) = some (true, some (true, some 4)) := by
    decide +kernel
  obtain ⟨document, reads, told⟩ := Option.map_eq_some_iff.1 told
  obtain ⟨mapping, told⟩ := Prod.mk.inj told
  obtain ⟨violation, fails, told⟩ := Option.map_eq_some_iff.1 told
  obtain ⟨writable, fourth⟩ := Prod.mk.inj told
  have parsed := toOption_eq_some.1 reads
  have refused := faultOf?_eq_some.1 fails
  have found := readDocument_of_parsed read parsed
  have failed : (loadFile sharedSurroundings sharedPath .empty).2 =
      .error (.error ⟨sharedPath.toString, .refused violation⟩) := by
    rw [loadFile_of_read found]
    simp only [compileDocument, refused, DocumentFault.ofViolation, writable, if_true]
    rfl
  obtain ⟨-, blamed, line, blames, -, known, same, -⟩ := loadFile_located read parsed mapping failed
  refine ⟨document, _, parsed, mapping, failed, fourth, blamed, blames, ?_⟩
  rw [known, ← same]
  exact fourth

end CookbookRules.RuleFile
