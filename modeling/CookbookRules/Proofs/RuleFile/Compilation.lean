import CookbookRules.Proofs.RuleFile.Grammar
import CookbookRules.Proofs.RuleFile.Target
import CookbookRules.RuleFile.Compile

/-!
# Compiling checked documents

What the schema accepts has the shape that the compiler expects: an entry of the grammar gives a rule
unless one of its matchers cannot be built, and then the fault is one of that matcher's strategy, or is what
the code of a target raises. From the values of a description this goes out to the entries of a document.
-/

namespace CookbookRules.RuleFile

open Outcome

/-- Why a description gives no matcher although it is of the grammar: its target names no function, or its
path or pattern is refused because it might lead out of the cookbook. -/
inductive Unbuildable (catalog : Catalog) (v : Value) : Prop
  | target {given : Value} {target : String} (named : Names v .callable)
      (held : v.Holds "target" given) (text : given.IsText target)
      (fails : TargetFails catalog target)
  | path {strategy : Strategy} {given : Value} {fault : StrategyFault} (named : Names v strategy)
      (other : strategy ≠ .callable) (held : v.Holds strategy.requiredKey given)
      (refused : insideCookbook strategy.requiredKey given = .error (.strategy fault))

/-- What the code raises that a description of the grammar names. -/
inductive Raises (catalog : Catalog) (v : Value) (escape : Escape) : Prop
  | target {given : Value} {target : String} (named : Names v .callable)
      (held : v.Holds "target" given) (text : given.IsText target)
      (escapes : TargetEscapes catalog target escape)

/-- What building the matcher of a description comes to. -/
inductive Builds (catalog : Catalog) (v : Value) : Except DescriptionFault Matcher → Prop
  | built (matcher : Matcher) : Builds catalog v (.ok matcher)
  | unbuildable (fault : StrategyFault) (why : Unbuildable catalog v) :
      Builds catalog v (.error (.strategy fault))
  | raises {escape : Escape} (why : Raises catalog v escape) : Builds catalog v (.error (.escape escape))

/-- Modules are imported or fail with errors, and names are there or are not. -/
structure IsCalm (catalog : Catalog) : Prop where
  imports : ∀ name what, catalog.importModule name ≠ .error (.exit what)
  follows : ∀ name found, catalog.importModule name = .ok found →
    ∀ names escape, found.follow names ≠ .error escape

/-- An entry holds a description that gives no matcher. -/
def HasUnbuildable (catalog : Catalog) (entry : Value) : Prop :=
  ∃ (kind : Kind) (description : Value),
    entry.Holds kind.name description ∧ Unbuildable catalog description

/-- A run that fails if and only if something is the case, and then with the strategy of a matcher. -/
def StopsIf {α : Type} (run : Except EntryFault α) (cause : Prop) : Prop :=
  (∃ result, run = .ok result) ∧ ¬ cause ∨
    (∃ code kind fault line, run = .error (.matcher code kind fault line)) ∧ cause

variable {catalog : Catalog} {v given : Value} {kind : Kind} {strategy other : Strategy}
  {key s : String}

/-! ## Values of the grammar -/

theorem require_of_holds (h : v.Holds key given) : require key v = .ok given := by
  have found := Value.get?_eq_some_iff.2 h
  obtain ⟨origin, before, _, after, rfl, -⟩ := h
  simp only [require, found]

theorem Names.unique (h : Names v strategy) (h' : Names v other) : strategy = other :=
  Option.some.inj ((names_iff.2 h).symm.trans (names_iff.2 h'))

theorem unhashable?_of_text (h : given.IsText s) : given.unhashable? = none := by
  cases h <;> rfl

theorem strategyOf_of_names (h : Names v strategy) : strategyOf v = .ok strategy := by
  obtain ⟨name, held, text⟩ := h
  simp only [strategyOf, require_of_holds held, unhashable?_of_text text, ok_bind,
    Value.asText?_eq_some_iff.2 text, Option.bind_some, ofName?_eq_some_iff.2 rfl]
  rfl

theorem targetText_of_text (h : given.IsText s) : targetText given = .ok s := by
  cases h <;> rfl

/-- Options of the grammar have entries, or count as false and are none. -/
theorem optionEntries_of_options (h : ∀ options, v.Holds "options" options → IsOptions options) :
    ∃ entries, optionEntries v = .ok entries := by
  unfold optionEntries
  cases held : v.get? "options" with
  | none => exact ⟨[], rfl⟩
  | some options =>
      obtain ⟨origin, entries, rfl, -⟩ := h options (Value.get?_eq_some_iff.1 held)
      dsimp only [Value.entries?]
      split
      · exact ⟨entries, rfl⟩
      · exact ⟨[], rfl⟩

/-- A text is a path, so what is wrong with it can only be where it leads. -/
theorem insideCookbook_of_text (key : String) (h : given.IsText s) :
    (∃ path, insideCookbook key given = .ok path) ∨
      ∃ fault, insideCookbook key given = .error (.strategy fault) := by
  obtain ⟨path, text⟩ : ∃ path, Matcher.pathText given = .ok path := by
    cases h <;> exact ⟨_, rfl⟩
  simp only [insideCookbook, text, mapError_ok, ok_bind]
  split
  · exact .inr ⟨_, rfl⟩
  · split
    · exact .inr ⟨_, rfl⟩
    · exact .inl ⟨_, rfl⟩

/-! ## Matchers -/

theorem unbuildable_callable_iff (named : Names v .callable) (held : v.Holds "target" given)
    (text : given.IsText s) : Unbuildable catalog v ↔ TargetFails catalog s := by
  constructor
  · intro h
    cases h with
    | target _ held' text' fails =>
        cases held.unique held'
        cases text.unique text'
        exact fails
    | path named' other _ _ => exact absurd (named'.unique named) other
  · intro fails
    exact .target named held text fails

theorem unbuildable_path_iff (named : Names v strategy) (other : strategy ≠ .callable)
    (held : v.Holds strategy.requiredKey given) :
    Unbuildable catalog v ↔
      ∃ fault, insideCookbook strategy.requiredKey given = .error (.strategy fault) := by
  constructor
  · intro h
    cases h with
    | target named' _ _ _ => exact absurd (named.unique named') other
    | path named' _ held' refused =>
        cases named.unique named'
        cases held.unique held'
        exact ⟨_, refused⟩
  · rintro ⟨fault, refused⟩
    exact .path named other held refused

/-- A description that calls a function is built if the function is found. -/
theorem buildMatcher_callable (catalog : Catalog) (h : DescribesBy .callable kind v)
    (held : v.Holds "target" given) (text : given.IsText s) :
    ∃ make : Callable → Matcher,
      buildMatcher catalog v = make <$> findFunction catalog s given.form := by
  obtain ⟨options, read⟩ := optionEntries_of_options h.options
  refine ⟨fun function => .callable s function options, ?_⟩
  simp only [buildMatcher, strategyOf_of_names h.named, mapError_ok, ok_bind, Strategy.build,
    Strategy.requiredKey, require_of_holds held, targetText_of_text text, read]
  rfl

/-- A description of the other strategies is built if what it names stays in the cookbook. -/
theorem buildMatcher_path (catalog : Catalog) (named : Names v strategy)
    (other : strategy ≠ .callable) (held : v.Holds strategy.requiredKey given) :
    ∃ make ∈ [Matcher.missingFile, .fileExists, .glob],
      buildMatcher catalog v = make <$> insideCookbook strategy.requiredKey given := by
  simp only [buildMatcher, strategyOf_of_names named, mapError_ok, ok_bind, Strategy.build,
    require_of_holds held]
  cases strategy with
  | callable => exact absurd rfl other
  | missingFile => exact ⟨.missingFile, by simp, rfl⟩
  | fileExists => exact ⟨.fileExists, by simp, rfl⟩
  | glob => exact ⟨.glob, by simp, rfl⟩

theorem builds_buildMatcher (catalog : Catalog) (h : Describes kind v) :
    Builds catalog v (buildMatcher catalog v) := by
  obtain ⟨strategy, h⟩ := h
  obtain ⟨given, held, s, text, -⟩ := h.required
  by_cases callable : strategy = .callable
  · subst callable
    obtain ⟨make, built⟩ := buildMatcher_callable catalog h held text
    have seeks := seeks_findFunction catalog s given.form
    rw [built]
    cases sought : findFunction catalog s given.form with
    | ok function => exact .built (make function)
    | error fault =>
        rw [sought] at seeks
        cases seeks with
        | fails fault why => exact .unbuildable fault (.target h.named held text why)
        | escapes why => exact .raises (.target h.named held text why)
  · obtain ⟨make, -, built⟩ := buildMatcher_path catalog h.named callable held
    rw [built]
    rcases insideCookbook_of_text strategy.requiredKey text with
      ⟨path, inside⟩ | ⟨fault, outside⟩
    · rw [inside]
      exact .built (make path)
    · rw [outside]
      exact .unbuildable fault (.path h.named callable held outside)

/-- A description of the grammar is unbuildable where building its matcher is a fault of the strategy. -/
theorem buildMatcher_eq_strategy_iff (h : Describes kind v) :
    (∃ fault, buildMatcher catalog v = .error (.strategy fault)) ↔ Unbuildable catalog v := by
  constructor
  · rintro ⟨fault, failed⟩
    have builds := builds_buildMatcher catalog h
    rw [failed] at builds
    cases builds with
    | unbuildable _ why => exact why
  · intro unbuildable
    obtain ⟨strategy, h⟩ := h
    obtain ⟨given, held, s, text, -⟩ := h.required
    by_cases callable : strategy = .callable
    · subst callable
      obtain ⟨make, built⟩ := buildMatcher_callable catalog h held text
      obtain ⟨fault, failed⟩ :=
        findFunction_eq_strategy_iff.2 ((unbuildable_callable_iff h.named held text).1 unbuildable)
      exact ⟨fault, by rw [built, failed]; rfl⟩
    · obtain ⟨make, -, built⟩ := buildMatcher_path catalog h.named callable held
      obtain ⟨fault, outside⟩ := (unbuildable_path_iff h.named callable held).1 unbuildable
      exact ⟨fault, by rw [built, outside]; rfl⟩

/-- What the code raises that a description names is what building its matcher ends with. -/
theorem buildMatcher_eq_escape_iff {escape : Escape} (h : Describes kind v) :
    buildMatcher catalog v = .error (.escape escape) ↔ Raises catalog v escape := by
  constructor
  · intro failed
    have builds := builds_buildMatcher catalog h
    rw [failed] at builds
    cases builds with
    | raises why => exact why
  · rintro ⟨named, held, text, escapes⟩
    obtain ⟨strategy, h⟩ := h
    cases h.named.unique named
    obtain ⟨make, built⟩ := buildMatcher_callable catalog h held text
    rw [built, findFunction_eq_escape_iff.2 escapes]
    rfl

/-- In a calm catalog no description raises anything. -/
theorem IsCalm.not_raises (calm : IsCalm catalog) {escape : Escape} : ¬ Raises catalog v escape := by
  rintro ⟨-, -, -, escapes⟩
  cases escapes with
  | importing _ imported => exact calm.imports _ _ imported
  | following _ imported raises => exact calm.follows _ _ imported _ _ raises

/-! ## Entries -/

variable {α β ι : Type} {cause later : Prop}

theorem StopsIf.bind {run : Except EntryFault α} {next : α → Except EntryFault β}
    (first : StopsIf run cause) (rest : ∀ a, StopsIf (next a) later) :
    StopsIf (run >>= next) (cause ∨ later) := by
  rcases first with ⟨⟨a, rfl⟩, absent⟩ | ⟨⟨code, kind, fault, line, rfl⟩, present⟩
  · rcases rest a with ⟨result, no⟩ | ⟨stopped, yes⟩
    · exact .inl ⟨result, not_or.2 ⟨absent, no⟩⟩
    · exact .inr ⟨stopped, .inr yes⟩
  · exact .inr ⟨⟨code, kind, fault, line, rfl⟩, .inl present⟩

/-- A run through some items stops if and only if one of them stops it. -/
theorem StopsIf.foldlM {step : β → ι → Except EntryFault β} {causes : ι → Prop}
    (each : ∀ b item, StopsIf (step b item) (causes item)) (items : List ι) (init : β) :
    StopsIf (items.foldlM step init) (∃ item ∈ items, causes item) := by
  induction items generalizing init with
  | nil => exact .inl ⟨⟨init, rfl⟩, by simp⟩
  | cons item rest ih =>
      rw [List.foldlM_cons]
      simpa using (each init item).bind ih

/-- A text has a label, which is the same text. -/
theorem label_of_text (h : given.IsText s) :
    ∃ label, Label.ofValue? given = some label ∧ label.text = s :=
  Option.map_eq_some_iff.1 ((Label.map_text_ofValue? given).trans (Value.asText?_eq_some_iff.2 h))

/-- Texts that are not blank are a code and a name. -/
theorem create_of_filled {code name : Value} (hc : IsFilled code) (hn : IsFilled name)
    (source : Option String) (line : Option Int) :
    ∃ rule, Rule.create code name source line = .ok rule := by
  obtain ⟨s, text, filled⟩ := hc
  obtain ⟨label, found, rfl⟩ := label_of_text text
  obtain ⟨_, text', -⟩ := hn
  obtain ⟨title, found', -⟩ := label_of_text text'
  have notBlank : ¬ Text.allBlank label.text = true := fun blank => filled (Text.allBlank_iff.1 blank)
  refine ⟨⟨label, title, .empty, source, line, .empty⟩, ?_⟩
  simp only [Rule.create, found, found', if_neg notBlank]

/-- Tags of the grammar are added, also where there are none. -/
theorem addTags_of_tags {entry : Value} (h : ∀ tags, entry.Holds "tags" tags → IsTags tags)
    (rule : Rule) : ∃ tagged, rule.addTags (entryTags entry) = .ok tagged := by
  obtain ⟨items, listed, texts⟩ : ∃ items, entryTags entry = .list items ∧
      ∀ tag ∈ items, IsFilled tag := by
    unfold entryTags
    cases held : entry.get? "tags" with
    | none => exact ⟨[], rfl, by simp⟩
    | some tags =>
        obtain ⟨items, rfl, texts⟩ := h tags (Value.get?_eq_some_iff.1 held)
        dsimp only
        split
        · exact ⟨items, rfl, texts⟩
        · exact ⟨[], rfl, by simp⟩
  obtain ⟨tags, read⟩ : ∃ tags, Rule.givenTags rule.label.shown (.list items) = .ok tags := by
    apply exists_mapM_eq_ok
    intro tag member
    obtain ⟨s, text, -⟩ := texts tag member
    exact ⟨s, by rw [Value.asText?_eq_some_iff.2 text]⟩
  rw [listed, Rule.addTags, read]
  exact ⟨_, rfl⟩

theorem withDescribed_stopsIf (calm : IsCalm catalog) {entry : Value} (h : IsEntry entry) (rule : Rule)
    (kind : Kind) :
    StopsIf (withDescribed catalog entry rule kind)
      (∃ description, entry.Holds kind.name description ∧ Unbuildable catalog description) := by
  unfold withDescribed
  cases held : entry.get? kind.name with
  | none =>
      refine .inl ⟨⟨rule, rfl⟩, ?_⟩
      rintro ⟨description, present, -⟩
      rw [Value.get?_eq_some_iff.2 present] at held
      cases held
  | some description =>
      have present := Value.get?_eq_some_iff.1 held
      have describes := h.matchers kind description present
      have only : (∃ description, entry.Holds kind.name description ∧
          Unbuildable catalog description) ↔ Unbuildable catalog description := by
        constructor
        · rintro ⟨other, present', unbuildable⟩
          exact present.unique present' ▸ unbuildable
        · intro unbuildable
          exact ⟨description, present, unbuildable⟩
      rw [only]
      obtain ⟨origin, entries, rfl, -⟩ := describes.choose_spec.keys
      have builds := builds_buildMatcher catalog describes
      rw [← buildMatcher_eq_strategy_iff describes]
      cases built : buildMatcher catalog (.map origin entries) with
      | ok matcher => exact .inl ⟨⟨_, by simp only [built]; rfl⟩, by simp⟩
      | error fault =>
          rw [built] at builds
          cases builds with
          | unbuildable fault why =>
              exact .inr ⟨⟨_, _, _, _, by simp only [built, DescriptionFault.inEntry]; rfl⟩, fault, rfl⟩
          | raises why => exact absurd why calm.not_raises

/-- An entry of the grammar gives a rule unless one of its matchers cannot be built. -/
theorem compileEntry_stopsIf (calm : IsCalm catalog) {entry : Value} (h : IsEntry entry)
    (source : String) :
    StopsIf (compileEntry catalog source entry) (HasUnbuildable catalog entry) := by
  obtain ⟨code, heldCode, filledCode⟩ := h.required "code" (by simp)
  obtain ⟨name, heldName, filledName⟩ := h.required "name" (by simp)
  obtain ⟨rule, created⟩ := create_of_filled filledCode filledName (some source) entry.line?
  obtain ⟨tagged, added⟩ := addTags_of_tags h.tags rule
  have kinds := StopsIf.foldlM (withDescribed_stopsIf calm h) Kind.all tagged
  simp only [Kind.mem_all, true_and] at kinds
  simpa only [HasUnbuildable, compileEntry, require_of_holds heldCode, require_of_holds heldName,
    created, added, mapError_ok, ok_bind] using kinds

/-- Entries are declared up to the first that stops. -/
theorem declareEntries_stopsIf (calm : IsCalm catalog) {entries : List Value}
    (each : ∀ entry ∈ entries, IsEntry entry) (source : String) (r : Registry) :
    StopsIf (declareEntries catalog source entries r).2
      (∃ entry ∈ entries, HasUnbuildable catalog entry) := by
  induction entries generalizing r with
  | nil => exact .inl ⟨⟨(), rfl⟩, by simp⟩
  | cons entry rest ih =>
      rw [List.forall_mem_cons] at each
      simp only [List.mem_cons, exists_eq_or_imp]
      unfold declareEntries
      rcases compileEntry_stopsIf calm each.1 source with
        ⟨⟨rule, compiled⟩, no⟩ | ⟨⟨code, kind, fault, line, failed⟩, yes⟩
      · rw [compiled, or_iff_right no]
        exact ih each.2 (r.declare rule).2
      · rw [failed]
        exact .inr ⟨⟨code, kind, fault, line, rfl⟩, .inl yes⟩

/-! ## Documents -/

/-- Whether an accepted document is compiled is a matter of its entries. -/
theorem compileDocument_outcome {document : Value} {entries : List Value}
    (accepted : checkDocument document = .ok entries) (source : String) (r : Registry) :
    (compileDocument catalog document source r).2 =
      match (declareEntries catalog source entries r).2 with
      | .ok _ => .ok entries.length
      | .error fault => .error (.entry fault) := by
  simp only [compileDocument, accepted]
  rcases declareEntries catalog source entries r with ⟨after, fault | _⟩
  · rfl
  · rfl

/-- Where nothing that targets name raises anything, a document that the schema accepts is compiled to the
number of its entries, or stops with the strategy of a matcher. It stops if and only if some matcher in it
cannot be built. -/
theorem compileDocument_accepted {document : Value} {entries : List Value}
    (accepted : checkDocument document = .ok entries) (calm : IsCalm catalog) (source : String)
    (r : Registry) :
    let outcome := (compileDocument catalog document source r).2
    (outcome = .ok entries.length ∨
        ∃ code kind fault line, outcome = .error (.entry (.matcher code kind fault line))) ∧
      ((∃ fault, outcome = .error fault) ↔
        ∃ entry ∈ entries, HasUnbuildable catalog entry) := by
  have each := (checkDocument_eq_ok_iff.1 accepted).isEntry
  dsimp only
  rw [compileDocument_outcome accepted]
  rcases declareEntries_stopsIf calm each source r with
    ⟨⟨_, declared⟩, no⟩ | ⟨⟨code, kind, fault, line, stopped⟩, yes⟩
  · rw [declared]
    exact ⟨.inl rfl, fun ⟨_, failed⟩ => (nomatch failed), fun found => absurd found no⟩
  · rw [stopped]
    exact ⟨.inr ⟨code, kind, fault, line, rfl⟩, fun _ => yes, fun _ => ⟨_, rfl⟩⟩

/-- A rule that looks for files outside the cookbook. -/
def strayEntry : Value :=
  .map .plain
    [(.text "code", .text "A"), (.text "name", .text "outside"),
      (.text "cookbook",
        .map .plain [(.text "strategy", .text "glob"), (.text "pattern", .text "../*.rb")])]

/-- A document of that rule. -/
def strayDocument : Value := .map .plain [(.text "rules", .list [strayEntry])]

/-- A catalog without modules is calm. -/
theorem isCalm_nil : IsCalm ⟨[]⟩ := by
  have fails (name : String) : ∃ fault, Catalog.importModule ⟨[]⟩ name = .error (.fault fault) := by
    rw [Catalog.importModule]
    split
    · exact ⟨_, rfl⟩
    · cases Catalog.lineage (Text.pieces '.' name) with
      | nil => exact ⟨_, rfl⟩
      | cons first rest => exact ⟨_, rfl⟩
  refine ⟨fun name what ended => ?_, fun name found imported => ?_⟩
  · obtain ⟨fault, failed⟩ := fails name
    cases failed.symm.trans ended
  · obtain ⟨fault, failed⟩ := fails name
    cases failed.symm.trans imported

/-- The document is accepted, and compiling it stops. -/
theorem compileDocument_strayDocument :
    checkDocument strayDocument = .ok [strayEntry] ∧ IsCalm ⟨[]⟩ ∧
      ∃ code kind fault line, (compileDocument ⟨[]⟩ strayDocument "rules.yaml" .empty).2 =
        .error (.entry (.matcher code kind fault line)) := by
  have frame : IsFrame strayDocument (.list [strayEntry]) := by
    refine ⟨Value.keysWithin_iff.2 ⟨rfl, rfl⟩, Value.get?_eq_some_iff.1 rfl, fun version held => ?_⟩
    cases Value.get?_eq_some_iff.2 held
  have entry : IsEntry strayEntry := (@checkEntry_eq_ok_iff _ none).1 rfl
  have accepted : checkDocument strayDocument = .ok [strayEntry] :=
    checkDocument_eq_ok_iff.2 (.listed frame (List.forall_mem_singleton.2 entry))
  obtain ⟨ended, -⟩ := compileDocument_accepted accepted isCalm_nil "rules.yaml" .empty
  refine ⟨accepted, isCalm_nil, ended.resolve_left fun compiled => ?_⟩
  rw [compileDocument_outcome accepted] at compiled
  cases compiled

end CookbookRules.RuleFile
