import CookbookRules.Proofs.Rule.Changes
import CookbookRules.Proofs.Registry.Listed
import CookbookRules.Proofs.RuleFile.Compilation
import CookbookRules.Proofs.RuleFile.Loading
import Mathlib.Data.List.Forall2

/-!
# The rules of a document

Which rules a document declares, read off its entries: one for each entry in front of the first with a
matcher that cannot be built, and nothing of that entry or of those behind it. `IsRuleOf` says what the
rule of an entry is, `StopsAt` where an entry stops, `Adds` what becomes of a registry, and `Halts` what the
entry that stops leaves.
-/

namespace CookbookRules.RuleFile

open Outcome Registry

/-! ## The rule of an entry -/

/-- A rule is that of an entry: it has the code, the name and the tags that the entry holds, the matcher
of each description in it and no other, and it knows the file and the line of the entry. -/
structure IsRuleOf (catalog : Catalog) (source : String) (entry : Value) (rule : Rule) : Prop where
  code : entry.Holds "code" rule.label.value
  name : entry.Holds "name" rule.title.value
  tags : ∀ tag, tag ∈ rule.tags ↔
    ∃ items, entry.Holds "tags" (.list items) ∧ ∃ item ∈ items, item.IsText tag
  built : ∀ (kind : Kind) description, entry.Holds kind.name description →
    ∃ matcher, buildMatcher catalog description = .ok matcher ∧
      rule.matchers.get? kind = some matcher
  bare : ∀ kind : Kind, (∀ description, ¬ entry.Holds kind.name description) →
    rule.matchers.get? kind = none
  source : rule.source = some source
  line : rule.line = entry.line?

/-- An entry stops at a kind: the matcher that it describes for the kind cannot be built, and those for
the kinds before it can. -/
structure StopsAt (catalog : Catalog) (entry : Value) (kind : Kind) (description : Value)
    (why : DescriptionFault) : Prop where
  held : entry.Holds kind.name description
  failed : buildMatcher catalog description = .error why
  first : ∃ before after, Kind.all = before ++ kind :: after ∧
    ∀ earlier ∈ before, ∀ other, entry.Holds earlier.name other →
      ∃ matcher, buildMatcher catalog other = .ok matcher

variable {catalog : Catalog} {source : String} {entry given : Value} {rule after : Rule} {kind : Kind}

/-- The tags that an entry of the grammar gives are the texts of those that it holds. -/
theorem givesTag_entryTags_iff {tag : String} (h : ∀ tags, entry.Holds "tags" tags → IsTags tags) :
    Rule.GivesTag (entryTags entry) tag ↔
      ∃ items, entry.Holds "tags" (.list items) ∧ ∃ item ∈ items, item.IsText tag := by
  unfold entryTags
  cases held : entry.get? "tags" with
  | none =>
      rw [Rule.givesTag_list_iff]
      refine iff_of_false (by simp) ?_
      rintro ⟨items, holds, -⟩
      exact Value.get?_eq_none_iff.1 held _ holds
  | some tags =>
      have holds := Value.get?_eq_some_iff.1 held
      obtain ⟨items, rfl, -⟩ := h tags holds
      have given : (if (Value.list items).isTruthy then Value.list items else .list []) = .list items := by
        cases items <;> rfl
      dsimp only
      rw [given, Rule.givesTag_list_iff]
      constructor
      · intro found
        exact ⟨items, holds, found⟩
      · rintro ⟨others, holds', found⟩
        cases holds.unique holds'
        exact found

/-- The tags of an entry of the grammar are added to those of a rule. -/
theorem addTags_eq_ok {tagged : Rule} (h : ∀ tags, entry.Holds "tags" tags → IsTags tags)
    (added : rule.addTags (entryTags entry) = .ok tagged) :
    ∃ tags, tagged = { rule with tags := tags } ∧ ∀ tag, tag ∈ tags ↔
      (∃ items, entry.Holds "tags" (.list items) ∧ ∃ item ∈ items, item.IsText tag) ∨
        tag ∈ rule.tags := by
  obtain ⟨new, rfl, each⟩ := Rule.addTags_eq_ok added
  refine ⟨_, rfl, fun tag => ?_⟩
  rw [TextSet.mem_insertAll, each, givesTag_entryTags_iff h]

/-! ## The matchers of an entry -/

/-- The matcher that an entry describes for a kind. -/
def described (catalog : Catalog) (entry : Value) (kind : Kind) : Option Matcher :=
  (entry.get? kind.name).bind fun description => (buildMatcher catalog description).toOption

/-- A step through the kinds gives the rule the matcher that the entry describes, if it does. -/
theorem withDescribed_eq_ok (h : withDescribed catalog entry rule kind = .ok after) :
    ∃ matchers, after = { rule with matchers := matchers } ∧ ∀ other, matchers.get? other =
      if other = kind then (described catalog entry kind).or (rule.matchers.get? other)
      else rule.matchers.get? other := by
  unfold withDescribed at h
  unfold described
  split at h
  · next absent =>
    cases h
    exact ⟨_, rfl, fun other => by simp [absent]⟩
  · next empty =>
    cases h
    refine ⟨_, rfl, fun other => ?_⟩
    -- A kind without a value is described by nothing.
    have unbuilt : (buildMatcher catalog .none).toOption = none := rfl
    simp [empty, unbuilt]
  · next description _ held =>
    split at h
    · next matcher built =>
      cases h
      refine ⟨rule.matchers.set kind matcher, rfl, fun other => ?_⟩
      simp [held, built, Except.toOption]
    · cases h

/-- After some kinds a rule has the matchers that the entry describes for them, and is otherwise as it
was. -/
theorem foldlM_withDescribed {kinds : List Kind}
    (h : kinds.foldlM (withDescribed catalog entry) rule = .ok after) :
    ∃ matchers, after = { rule with matchers := matchers } ∧ ∀ kind, matchers.get? kind =
      if kind ∈ kinds then (described catalog entry kind).or (rule.matchers.get? kind)
      else rule.matchers.get? kind := by
  induction kinds generalizing rule with
  | nil =>
      cases h
      exact ⟨_, rfl, fun kind => by simp⟩
  | cons first rest ih =>
      rw [List.foldlM_cons] at h
      obtain ⟨next, passed, later⟩ := bind_eq_ok.1 h
      obtain ⟨between, rfl, own⟩ := withDescribed_eq_ok passed
      obtain ⟨matchers, rfl, others⟩ := ih later
      refine ⟨matchers, rfl, fun kind => ?_⟩
      rw [others]
      dsimp only
      rw [own]
      by_cases same : kind = first
      · subst same
        by_cases again : kind ∈ rest
        · simp [again, ← Option.or_assoc]
        · simp [again]
      · simp [same]

/-- A kind that is passed is one whose description gives a matcher. -/
theorem built_of_withDescribed {description : Value} (h : IsEntry entry)
    (passed : withDescribed catalog entry rule kind = .ok after)
    (held : entry.Holds kind.name description) :
    ∃ matcher, buildMatcher catalog description = .ok matcher := by
  obtain ⟨origin, entries, rfl, -⟩ := (h.matchers kind description held).choose_spec.keys
  simp only [withDescribed, Value.get?_eq_some_iff.2 held] at passed
  split at passed
  · next matcher built => exact ⟨matcher, built⟩
  · cases passed

theorem built_of_foldlM {kinds : List Kind} {description : Value} (h : IsEntry entry)
    (passed : kinds.foldlM (withDescribed catalog entry) rule = .ok after) (member : kind ∈ kinds)
    (held : entry.Holds kind.name description) :
    ∃ matcher, buildMatcher catalog description = .ok matcher := by
  induction kinds generalizing rule with
  | nil => cases member
  | cons first rest ih =>
      rw [List.foldlM_cons] at passed
      obtain ⟨next, own, later⟩ := bind_eq_ok.1 passed
      rcases List.mem_cons.1 member with rfl | member
      · exact built_of_withDescribed h own held
      · exact ih later member

/-- What an entry of the grammar gives is its rule. -/
theorem isRuleOf_of_compileEntry (h : IsEntry entry)
    (compiled : compileEntry catalog source entry = .ok rule) :
    IsRuleOf catalog source entry rule := by
  obtain ⟨code, heldCode, -⟩ := h.required "code" (by simp)
  obtain ⟨name, heldName, -⟩ := h.required "name" (by simp)
  simp only [compileEntry, require_of_holds heldCode, require_of_holds heldName, mapError_ok,
    ok_bind] at compiled
  obtain ⟨created, creates, compiled⟩ := bind_eq_ok.1 compiled
  obtain ⟨tagged, adds, compiled⟩ := bind_eq_ok.1 compiled
  obtain ⟨isCode, isName, whole⟩ := Rule.create_eq_ok (mapError_eq_ok.1 creates)
  obtain ⟨tags, rfl, isTags⟩ := addTags_eq_ok h.tags (mapError_eq_ok.1 adds)
  obtain ⟨matchers, rfl, own⟩ := foldlM_withDescribed compiled
  rw [whole] at isTags own ⊢
  simp only [Kind.mem_all, if_true, Matchers.get?_empty, Option.or_none] at own
  refine ⟨isCode ▸ heldCode, isName ▸ heldName, fun tag => ?_, ?_, ?_, rfl, rfl⟩
  · simpa using isTags tag
  · intro kind description held
    obtain ⟨matcher, built⟩ := built_of_foldlM h compiled (Kind.mem_all kind) held
    refine ⟨matcher, built, ?_⟩
    rw [own, described, Value.get?_eq_some_iff.2 held, Option.bind_some, built]
    rfl
  · intro kind absent
    have nothing : entry.get? kind.name = none := by
      rw [Option.eq_none_iff_forall_ne_some]
      intro description held
      exact absent description (Value.get?_eq_some_iff.1 held)
    rw [own, described, nothing, Option.bind_none]

/-- A step through the kinds fails where the described matcher cannot be built. -/
theorem withDescribed_eq_error {fault : EntryFault}
    (failed : withDescribed catalog entry rule kind = .error fault) :
    ∃ description why, entry.Holds kind.name description ∧ buildMatcher catalog description = .error why ∧
      fault = why.inEntry rule kind (lineOr description.line? entry.line?) := by
  unfold withDescribed at failed
  split at failed
  · cases failed
  · cases failed
  · next description _ found =>
    split at failed
    · cases failed
    · next why stuck =>
      cases failed
      exact ⟨description, why, Value.get?_eq_some_iff.1 found, stuck, rfl⟩

/-- Where an entry of the grammar gives no rule, it stops at a kind, and the fault is that of the description
in a rule with the code of the entry. -/
theorem stopsAt_of_compileEntry {fault : EntryFault} (h : IsEntry entry)
    (failed : compileEntry catalog source entry = .error fault) :
    ∃ (begun : Rule) (kind : Kind) (description : Value) (why : DescriptionFault),
      entry.Holds "code" begun.label.value ∧ StopsAt catalog entry kind description why ∧
      fault = why.inEntry begun kind (lineOr description.line? entry.line?) := by
  obtain ⟨code, heldCode, filledCode⟩ := h.required "code" (by simp)
  obtain ⟨name, heldName, filledName⟩ := h.required "name" (by simp)
  obtain ⟨created, creates⟩ := create_of_filled filledCode filledName (some source) entry.line?
  obtain ⟨tagged, adds⟩ := addTags_of_tags h.tags created
  obtain ⟨isCode, -⟩ := Rule.create_eq_ok creates
  obtain ⟨tags, rfl, -⟩ := addTags_eq_ok h.tags adds
  simp only [compileEntry, require_of_holds heldCode, require_of_holds heldName, creates, adds,
    mapError_ok, ok_bind] at failed
  obtain ⟨before, kind, behind, middle, cut, passed, stopped⟩ := foldlM_eq_error failed
  obtain ⟨matchers, rfl, -⟩ := foldlM_withDescribed passed
  obtain ⟨description, why, held, stuck, rfl⟩ := withDescribed_eq_error stopped
  refine ⟨_, kind, description, why, isCode ▸ heldCode, ⟨held, stuck, before, behind, cut, ?_⟩, rfl⟩
  exact fun earlier member other held => built_of_foldlM h passed member held

/-! ## The rules of entries -/

/-- What is left by an entry that stops at a description, and the fault that it is. The rules of the entries in
front of it are there, and an exit leaves its own rule as the current one besides. -/
inductive Halts (r : Registry) (new : List Rule) (label : Label) (kind : Kind) (line : Option Int) :
    DescriptionFault → Registry → EntryFault → Prop
  | strategy {fault : StrategyFault} {after : Registry} (adds : r.Adds new after) :
      Halts r new label kind line (.strategy fault) after (.matcher label.shown kind fault line)
  | raised {what : Raised} {after : Registry} (adds : r.Adds new after) :
      Halts r new label kind line (.escape (.error what)) after (.raised what)
  | exit {what : Raised} {before : Registry} {begun : Rule} (adds : r.Adds new before)
      (same : begun.label = label) :
      Halts r new label kind line (.escape (.exit what)) (before.begin begun).2 (.exit begun what)

/-- How the declaration of some entries ends, and what it leaves: all of them are declared, or one stops and
those in front of it are. -/
inductive Ends (catalog : Catalog) (r : Registry) (entries done : List Value) (new : List Rule) :
    Registry → Except EntryFault Unit → Prop
  | complete {after : Registry} (whole : entries = done) (adds : r.Adds new after) :
      Ends catalog r entries done new after (.ok ())
  | stopped {entry : Value} {behind : List Value} {label : Label} {kind : Kind} {description : Value}
      {why : DescriptionFault} {after : Registry} {fault : EntryFault}
      (cut : entries = done ++ entry :: behind) (code : entry.Holds "code" label.value)
      (stops : StopsAt catalog entry kind description why)
      (halts : Halts r new label kind (lineOr description.line? entry.line?) why after fault) :
      Ends catalog r entries done new after (.error fault)

section Halts

variable {r : Registry} {new : List Rule} {label : Label} {line : Option Int} {why : DescriptionFault}
  {fault : EntryFault} {left : Registry} {entries done : List Value} {outcome : Except EntryFault Unit}

theorem Halts.cons (h : Halts (r.declare rule).2 new label kind line why left fault) :
    Halts r (rule :: new) label kind line why left fault := by
  cases h with
  | strategy adds => exact .strategy (adds_cons_iff.2 adds)
  | raised adds => exact .raised (adds_cons_iff.2 adds)
  | exit adds same => exact .exit (adds_cons_iff.2 adds) same

/-- The list is that of the rules in front, also after an exit. -/
theorem Halts.rules (h : Halts r new label kind line why left fault) (sound : r.Sound) :
    left.rules = r.rules ++ new := by
  cases h with
  | strategy adds => exact adds.rules sound
  | raised adds => exact adds.rules sound
  | exit adds _ => rw [(adds.sound sound).begin_rules, adds.rules sound]

theorem Ends.cons (entry : Value) (h : Ends catalog (r.declare rule).2 entries done new left outcome) :
    Ends catalog r (entry :: entries) (entry :: done) (rule :: new) left outcome := by
  cases h with
  | complete whole adds => exact .complete (congrArg (entry :: ·) whole) (adds_cons_iff.2 adds)
  | stopped cut code stops halts => exact .stopped (congrArg (entry :: ·) cut) code stops halts.cons

/-- The entries that are declared are some of those in front. -/
theorem Ends.sublist (h : Ends catalog r entries done new left outcome) : done.Sublist entries := by
  cases h with
  | complete whole _ => exact whole ▸ List.Sublist.refl _
  | stopped cut _ _ _ => exact cut ▸ List.sublist_append_left _ _

theorem Ends.rules (h : Ends catalog r entries done new left outcome) (sound : r.Sound) :
    left.rules = r.rules ++ new := by
  cases h with
  | complete _ adds => exact adds.rules sound
  | stopped _ _ _ halts => exact halts.rules sound

end Halts

/-- What an entry of the grammar leaves on which nothing is declared. -/
theorem halts_of_stopsAt {begun : Rule} {description : Value} {why : DescriptionFault} (h : IsEntry entry)
    (stops : StopsAt catalog entry kind description why) (line : Option Int) (r : Registry) :
    Halts r [] begun.label kind line why ((why.inEntry begun kind line).leave r)
      (why.inEntry begun kind line) := by
  have builds := builds_buildMatcher catalog (h.matchers kind description stops.held)
  rw [stops.failed] at builds
  cases builds with
  | unbuildable fault _ => exact .strategy (.nothing r)
  | @raises escape _ =>
      cases escape with
      | error what => exact .raised (.nothing r)
      | exit what => exact .exit (.nothing r) rfl

/-- Entries of the grammar are declared one behind the other up to the first that stops. -/
theorem declareEntries_ends (catalog : Catalog) (source : String) {entries : List Value}
    (each : ∀ entry ∈ entries, IsEntry entry) (r : Registry) :
    ∃ done new, List.Forall₂ (IsRuleOf catalog source) done new ∧
      Ends catalog r entries done new (declareEntries catalog source entries r).1
        (declareEntries catalog source entries r).2 := by
  induction entries generalizing r with
  | nil => exact ⟨[], [], .nil, .complete rfl (.nothing r)⟩
  | cons entry rest ih =>
      rw [List.forall_mem_cons] at each
      unfold declareEntries
      cases compiled : compileEntry catalog source entry with
      | ok rule =>
          obtain ⟨done, new, rules, ends⟩ := ih each.2 (r.declare rule).2
          have first := isRuleOf_of_compileEntry each.1 compiled
          exact ⟨entry :: done, rule :: new, .cons first rules, ends.cons entry⟩
      | error fault =>
          obtain ⟨begun, kind, description, why, code, stops, rfl⟩ :=
            stopsAt_of_compileEntry each.1 compiled
          exact ⟨[], [], .nil, .stopped rfl code stops (halts_of_stopsAt each.1 stops _ r)⟩

/-! ## The rules of documents -/

/-- The list that a document leaves is that of its entries. -/
theorem rules_compileDocument {document : Value} {entries : List Value} {r : Registry}
    (accepted : checkDocument document = .ok entries) :
    (compileDocument catalog document source r).1.rules =
      (declareEntries catalog source entries r).1.rules :=
  @compileDocument_leaves document source r catalog entries
    (fun after => after.rules = (declareEntries catalog source entries r).1.rules) accepted rfl fun _ _ => rfl

/-- A registry with one rule. -/
def heldRegistry : Registry :=
  (Registry.empty.declare ⟨.plain "X", .plain "held", .empty, none, none, .empty⟩).2

end CookbookRules.RuleFile
