import CookbookRules.Proofs.Finding.Meaning
import CookbookRules.Proofs.RuleFile.Entries

/-!
# Running matchers that call functions

A description can name a function of the catalog and options for it. The matcher that is built calls that
function with these options and reads what is returned; the rule reads the finding once more, and that changes
nothing. So the rule answers what the returned value means, and fails as the call or the reading does.
-/

namespace CookbookRules

open Outcome

namespace Rule

variable {rule : Rule} {kind : Kind} {matcher : Matcher}

/-- A finding that is read once more is the same, so a rule answers what its matcher does. -/
theorem run_of_matcher (held : rule.matchers.get? kind = some matcher) (files : Files) (artifact : Value) :
    rule.run files kind artifact = matcher.run files artifact := by
  have again : (Finding.toValue <$> matcher.run files artifact >>= fun returned =>
      (Finding.ofValue returned).mapError Matcher.Fault.finding) = matcher.run files artifact := by
    cases matcher.run files artifact with
    | error fault => rfl
    | ok finding =>
        change (Finding.ofValue finding.toValue).mapError Matcher.Fault.finding = _
        rw [Finding.ofValue_toValue, mapError_ok]
  rw [run, held]
  cases matcher with
  | callback id answer => rfl
  | _ => exact again

end Rule

namespace RuleFile

/-! ## What a description calls -/

/-- The options of a description: the entries of a mapping, or none where there is nothing or what counts as
false. -/
inductive HasOptions (description : Value) : List (Value × Value) → Prop
  | absent (none : ∀ given, ¬ description.Holds "options" given) : HasOptions description []
  | falsy {given : Value} (held : description.Holds "options" given) (counts : given.isTruthy = false) :
      HasOptions description []
  | entries {origin : Origin} {entries : List (Value × Value)}
      (held : description.Holds "options" (.map origin entries)) : HasOptions description entries

/-- A description names a function and gives it options. -/
structure Calls (catalog : Catalog) (description : Value) (target : String) (function : Callable)
    (options : List (Value × Value)) : Prop where
  named : ∃ given, description.Holds "target" given ∧ given.IsText target
  reaches : Reaches catalog target function
  options : HasOptions description options

variable {catalog : Catalog} {entry description given : Value} {kind : Kind} {matcher : Matcher}
  {target source shown : String} {function : Callable} {options : List (Value × Value)} {rule : Rule}

theorem optionEntries_eq_ok_iff :
    optionEntries description = .ok options ↔ HasOptions description options := by
  unfold optionEntries
  constructor
  · intro h
    split at h
    · next absent =>
      cases h
      exact .absent (Value.get?_eq_none_iff.1 absent)
    · next given found =>
      have held := Value.get?_eq_some_iff.1 found
      split at h
      · split at h
        · next own read =>
          cases h
          obtain ⟨origin, entries, rfl⟩ := Value.isMap_iff.1 (Finding.exists_entries?_iff.1 ⟨_, read⟩)
          cases read
          exact .entries held
        · cases h
      · next counts =>
        cases h
        exact .falsy held (by simpa using counts)
  · intro h
    cases h with
    | absent none =>
        rw [Value.get?_eq_none_iff.2 none]
    | falsy held counts =>
        rw [Value.get?_eq_some_iff.2 held]
        simp only [counts, Bool.false_eq_true, if_false]
    | entries held =>
        rw [Value.get?_eq_some_iff.2 held]
        cases options <;> rfl

theorem require_eq_ok_iff {key : String} {v : Value} : require key v = .ok given ↔ v.Holds key given := by
  constructor
  · intro h
    unfold require at h
    split at h
    · split at h
      · next found =>
        cases h
        exact Value.get?_eq_some_iff.1 found
      · cases h
    · cases h
  · exact require_of_holds

theorem targetText_eq_ok_iff : targetText given = .ok target ↔ given.IsText target := by
  constructor
  · intro h
    cases given with
    | text s => cases h; exact .text _
    | brokenText codes => cases h; exact .broken _
    | kind k => cases h; exact .kind _
    | _ => cases h
  · exact targetText_of_text

/-- A description that asks for a function is built exactly if it calls one. -/
theorem buildMatcher_eq_ok_iff (named : Names description .callable) :
    buildMatcher catalog description = .ok matcher ↔ ∃ target function options,
      matcher = .callable target function options ∧ Calls catalog description target function options := by
  simp only [buildMatcher, strategyOf_of_names named, mapError_ok, ok_bind, Strategy.build,
    Strategy.requiredKey]
  constructor
  · intro h
    obtain ⟨given, held, h⟩ := bind_eq_ok.1 h
    obtain ⟨target, text, h⟩ := bind_eq_ok.1 h
    obtain ⟨function, reaches, h⟩ := bind_eq_ok.1 h
    obtain ⟨options, read, ended⟩ := bind_eq_ok.1 h
    refine ⟨target, function, options, (Except.ok.inj ended).symm, ⟨given, ?_, ?_⟩, ?_, ?_⟩
    · exact require_eq_ok_iff.1 (mapError_eq_ok.1 held)
    · exact targetText_eq_ok_iff.1 (mapError_eq_ok.1 text)
    · exact findFunction_eq_ok_iff.1 reaches
    · exact optionEntries_eq_ok_iff.1 (mapError_eq_ok.1 read)
  · rintro ⟨target, function, options, rfl, ⟨given, held, text⟩, reaches, has⟩
    rw [require_of_holds held, mapError_ok, ok_bind, targetText_of_text text, mapError_ok, ok_bind,
      findFunction_eq_ok_iff.2 reaches, ok_bind, optionEntries_eq_ok_iff.2 has]
    rfl

/-! ## Compiled rules -/

theorem withDescribed_of_buildMatcher (held : entry.Holds kind.name description)
    (filled : description ≠ .none) (built : buildMatcher catalog description = .ok matcher) :
    withDescribed catalog entry rule kind = .ok (rule.withMatcher kind matcher) := by
  rw [withDescribed, Value.get?_eq_some_iff.2 held]
  cases description with
  | none => exact absurd rfl filled
  | _ => simp only [built]

/-- A rule that is compiled has the matcher of each description in its entry. -/
theorem exists_buildMatcher_of_compileEntry (compiled : compileEntry catalog source entry = .ok rule)
    (held : entry.Holds kind.name description) (filled : description ≠ .none) :
    ∃ matcher, buildMatcher catalog description = .ok matcher ∧
      rule.matchers.get? kind = some matcher := by
  obtain ⟨code, -, compiled⟩ := bind_eq_ok.1 compiled
  obtain ⟨name, -, compiled⟩ := bind_eq_ok.1 compiled
  obtain ⟨created, -, compiled⟩ := bind_eq_ok.1 compiled
  obtain ⟨tagged, -, compiled⟩ := bind_eq_ok.1 compiled
  have found := Value.get?_eq_some_iff.2 held
  obtain ⟨matcher, built⟩ : ∃ matcher, buildMatcher catalog description = .ok matcher := by
    obtain ⟨middle, next, step⟩ := exists_step_of_foldlM_eq_ok compiled (Kind.mem_all kind)
    unfold withDescribed at step
    split at step
    · next absent => cases found.symm.trans absent
    · next nothing => exact absurd (Option.some.inj (found.symm.trans nothing)) filled
    · next other _ present =>
      cases found.symm.trans present
      split at step
      · next matcher built => exact ⟨matcher, built⟩
      · cases step
  obtain ⟨matchers, rfl, own⟩ := foldlM_withDescribed compiled
  refine ⟨matcher, built, ?_⟩
  rw [own, if_pos (Kind.mem_all kind), described, found, Option.bind_some, built]
  rfl

/-- What a call with options returns, read as a finding. -/
def readCall (function : Callable) (options : List (Value × Value)) (artifact : Value) :
    Except Matcher.Fault Finding := do
  let returned ← (function.call options artifact).mapError .call
  (Finding.ofValue returned).mapError .finding

/-- A returned value is refused exactly as `Refuses` says, and else means what is read of it. A rule whose
entry describes a call answers what the call with its options returns means, and fails as the call or the
reading does, though it reads the finding a second time. -/
theorem reads_returned :
    (∀ v fault, Finding.ofValue v = .error fault ↔ Finding.Refuses v fault) ∧
    (∀ v finding, Finding.ofValue v = .ok finding → Finding.Means v finding) ∧
    ∀ catalog source entry rule, compileEntry catalog source entry = .ok rule →
      ∀ (kind : Kind) description, entry.Holds kind.name description → Names description .callable →
        (∃ target function options, Calls catalog description target function options) ∧
        ∀ target function options, Calls catalog description target function options →
          ∀ files artifact, rule.run files kind artifact = readCall function options artifact := by
  refine ⟨fun v fault => Finding.ofValue_eq_error_iff, fun v finding => Finding.means_of_ofValue, ?_⟩
  intro catalog source entry rule compiled kind description held named
  have filled : description ≠ .none := by
    rintro rfl
    obtain ⟨name, ⟨origin, before, key, after, same, -⟩, -⟩ := named
    cases same
  obtain ⟨matcher, built, own⟩ := exists_buildMatcher_of_compileEntry compiled held filled
  constructor
  · obtain ⟨target, function, options, -, calls⟩ := (buildMatcher_eq_ok_iff named).1 built
    exact ⟨target, function, options, calls⟩
  · intro target function options calls files artifact
    cases built.symm.trans ((buildMatcher_eq_ok_iff named).2 ⟨target, function, options, rfl, calls⟩)
    exact Rule.run_of_matcher own files artifact

/-- A function that returns its artifact. -/
def echo : Callable :=
  ⟨"echo", "artifact", [], none, false, fun artifact _ => .ok artifact⟩

/-- A catalog of one module with that function. -/
def echoCatalog : Catalog :=
  ⟨[("module", .plain [("echo", .ok (.function echo))])]⟩

/-- The description of a call of it. -/
def echoDescription : Value :=
  .map .plain [(.text "strategy", .text "callable"), (.text "target", .text "module:echo")]

/-- A rule with that call for its recipes. -/
def echoEntry : Value :=
  .map .plain [(.text "code", .text "A"), (.text "name", .text "calls"), (.text "recipe", echoDescription)]

theorem importModule_echoCatalog :
    echoCatalog.importModule "module" = .ok (.container [("echo", .ok (.function echo))]) := by
  have absolute : "module".startsWith "." = false := by decide +kernel
  have lineage : Catalog.lineage (Text.pieces '.' "module") = ["module"] := by decide +kernel
  rw [Catalog.importModule, absolute, lineage]
  rfl

/-- The description calls the function, without options. -/
theorem calls_echo : Calls echoCatalog echoDescription "module:echo" echo [] where
  named := ⟨.text "module:echo", Value.get?_eq_some_iff.1 rfl, .text _⟩
  reaches := by
    have parts : splitTarget? "module:echo" = some ("module", "echo") := by decide +kernel
    have pieces : Text.pieces '.' "echo" = ["echo"] := by decide +kernel
    have present : (Entity.container [("echo", .ok (.function echo))]).follow (Text.pieces '.' "echo") =
        .ok (some (.function echo)) := by
      rw [pieces]
      simp [Entity.follow, Entity.members]
    exact .function (splitTarget?_eq_some_iff.1 parts) importModule_echoCatalog present rfl
  options := optionEntries_eq_ok_iff.1 rfl

/-- The rule finds the two mappings of a list that it is given. -/
theorem reads_returned_echo :
    ∃ rule, compileEntry echoCatalog "rules.yaml" echoEntry = .ok rule ∧
      ∀ files, rule.run files .recipe (.list [.map (.located (some 3)) [], .map .plain []]) =
        .ok (.found (.map .plain [(.text "matches", .list [.map .plain [], .map .plain []])])) := by
  have held : echoEntry.Holds Kind.recipe.name echoDescription := Value.get?_eq_some_iff.1 rfl
  have named : Names echoDescription .callable :=
    ⟨.text "callable", Value.get?_eq_some_iff.1 rfl, .text _⟩
  have built := (buildMatcher_eq_ok_iff named).2 ⟨_, _, _, rfl, calls_echo⟩
  obtain ⟨rule, compiled⟩ : ∃ rule, compileEntry echoCatalog "rules.yaml" echoEntry = .ok rule := by
    let bare : Rule := ⟨.plain "A", .plain "calls", .empty, some "rules.yaml", none, .empty⟩
    have called : withDescribed echoCatalog echoEntry bare .recipe = .ok (bare.withMatcher .recipe _) :=
      withDescribed_of_buildMatcher held nofun built
    have rest : compileEntry echoCatalog "rules.yaml" echoEntry = (do
        let rule ← withDescribed echoCatalog echoEntry bare .recipe
        [Kind.resource, .provider, .cookbook].foldlM (withDescribed echoCatalog echoEntry) rule) := rfl
    rw [rest, called]
    exact ⟨_, rfl⟩
  refine ⟨rule, compiled, fun files => ?_⟩
  obtain ⟨-, answers⟩ := reads_returned.2.2 _ _ _ _ compiled .recipe _ held named
  exact answers _ _ _ calls_echo files _

end RuleFile

end CookbookRules
