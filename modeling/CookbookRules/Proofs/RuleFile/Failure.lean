import CookbookRules.Proofs.RuleFile.Entries
import CookbookRules.Proofs.RuleFile.Report

/-!
# How the load of a file fails

A file is read, parsed, checked and compiled, and each of these steps has a code of its own for what goes
wrong in it. Some faults have none: a path that no file can have, a scalar that is no value of its tag,
a violation that cannot be worded, and what the code of a target raises. They leave a load as they are, and
end a validation.
-/

namespace CookbookRules.RuleFile

open Outcome

/-- Every description in an entry gives a matcher. -/
def IsBuilt (catalog : Catalog) (entry : Value) : Prop :=
  ∀ (kind : Kind) description, entry.Holds kind.name description →
    ∃ matcher, buildMatcher catalog description = .ok matcher

/-- The first description in some entries that gives no matcher: all in front of it, in its own entry and in
those before, give one. -/
inductive FirstStuck (catalog : Catalog) (entries : List Value) (description : Value) : Prop
  | first {before behind : List Value} {entry : Value} {kind : Kind} {why : DescriptionFault}
      (cut : entries = before ++ entry :: behind) (built : ∀ earlier ∈ before, IsBuilt catalog earlier)
      (stops : StopsAt catalog entry kind description why) : FirstStuck catalog entries description

variable {env : Environment} {path : Path} {r : Registry}

/-- What a code says of a file. -/
inductive FailsBy (env : Environment) (path : Path) : String → Prop
  | unreadable {fault : ReadFault} (read : env.files.read path = .error fault)
      (other : fault ≠ .nullInPath) : FailsBy env path "RULE002"
  | malformed {text : String} {fault : Yaml.Fault} (read : env.files.read path = .ok text)
      (parsed : Yaml.read true text = .error fault) (other : ∀ scalar, fault ≠ .scalar scalar) :
      FailsBy env path "RULE003"
  | refused {text : String} {document : Value} {violation : Located Violation}
      (read : env.files.read path = .ok text) (parsed : Yaml.read true text = .ok document)
      (checked : checkDocument document = .error violation) (writable : violation.cause.isWritable = true) :
      FailsBy env path "RULE004"
  | unbuildable {text : String} {document description : Value} {entries : List Value}
      (read : env.files.read path = .ok text) (parsed : Yaml.read true text = .ok document)
      (checked : checkDocument document = .ok entries) (first : FirstStuck env.catalog entries description)
      (stuck : Unbuildable env.catalog description) : FailsBy env path "RULE005"

/-- The load of a file ends as documented: with the number of its rules, or with an error that names the
file and has the code of what went wrong. -/
inductive Documented (env : Environment) (path : Path) : Except FileFailure Nat → Prop
  | loaded {text : String} {document : Value} {entries : List Value}
      (read : env.files.read path = .ok text) (parsed : Yaml.read true text = .ok document)
      (checked : checkDocument document = .ok entries)
      (built : ∀ entry ∈ entries, IsBuilt env.catalog entry) : Documented env path (.ok entries.length)
  | failed {e : LoadError} (names : e.path = path.toString)
      (reason : FailsBy env path e.cause.code) : Documented env path (.error (.error e))

/-- What leaves the load of a file without a code. -/
inductive Escapes (env : Environment) (path : Path) : Prop
  | nullInPath (read : env.files.read path = .error .nullInPath)
  | scalar {text : String} {fault : Yaml.ScalarFault} (read : env.files.read path = .ok text)
      (parsed : Yaml.read true text = .error (.scalar fault))
  | notWritable {text : String} {document : Value} {violation : Located Violation}
      (read : env.files.read path = .ok text) (parsed : Yaml.read true text = .ok document)
      (checked : checkDocument document = .error violation) (long : violation.cause.isWritable = false)
  | target {text : String} {document description : Value} {entries : List Value} {escape : Escape}
      (read : env.files.read path = .ok text) (parsed : Yaml.read true text = .ok document)
      (checked : checkDocument document = .ok entries) (first : FirstStuck env.catalog entries description)
      (raises : Raises env.catalog description escape)

/-! ## The first description that is stuck -/

section Stuck

variable {catalog : Catalog} {entries : List Value} {entry description other : Value} {kind : Kind}
  {why : DescriptionFault} {escape : Escape}

theorem IsRuleOf.isBuilt {source : String} {rule : Rule} (h : IsRuleOf catalog source entry rule) :
    IsBuilt catalog entry := by
  intro kind description held
  obtain ⟨matcher, gives, -⟩ := h.built kind description held
  exact ⟨matcher, gives⟩

theorem StopsAt.not_isBuilt (stops : StopsAt catalog entry kind description why) : ¬ IsBuilt catalog entry := by
  intro built
  obtain ⟨matcher, gives⟩ := built kind description stops.held
  cases gives.symm.trans stops.failed

/-- An entry stops at one description only. -/
theorem StopsAt.unique {kind' : Kind} {why' : DescriptionFault}
    (stops : StopsAt catalog entry kind description why) (stops' : StopsAt catalog entry kind' other why') :
    description = other := by
  have passes {kind : Kind} {description : Value} {why : DescriptionFault}
      (stops : StopsAt catalog entry kind description why) :
      ¬ ∀ given, entry.Holds kind.name given → ∃ matcher, buildMatcher catalog given = .ok matcher := by
    intro built
    obtain ⟨matcher, gives⟩ := built description stops.held
    cases gives.symm.trans stops.failed
  obtain ⟨before, after, cut, earlier⟩ := stops.first
  obtain ⟨before', after', cut', earlier'⟩ := stops'.first
  obtain ⟨-, rfl, -⟩ := first_unique (cut.symm.trans cut') earlier (passes stops) earlier' (passes stops')
  exact stops.held.unique stops'.held

theorem FirstStuck.unique (h : FirstStuck catalog entries description)
    (h' : FirstStuck catalog entries other) : description = other := by
  obtain ⟨cut, built, stops⟩ := h
  obtain ⟨cut', built', stops'⟩ := h'
  obtain ⟨-, rfl, -⟩ := first_unique (cut.symm.trans cut') built stops.not_isBuilt built' stops'.not_isBuilt
  exact stops.unique stops'

theorem FirstStuck.not_isBuilt (h : FirstStuck catalog entries description) :
    ¬ ∀ entry ∈ entries, IsBuilt catalog entry := by
  obtain ⟨cut, -, stops⟩ := h
  exact fun each => stops.not_isBuilt (each _ (by simp [cut]))

/-- What raises something is not unbuildable. -/
theorem Raises.not_unbuildable (raises : Raises catalog description escape) :
    ¬ Unbuildable catalog description := by
  obtain ⟨named, held, text, escapes⟩ := raises
  rw [unbuildable_callable_iff named held text, ← @findFunction_eq_strategy_iff _ _ ""]
  rintro ⟨fault, failed⟩
  cases failed.symm.trans (findFunction_eq_escape_iff.2 escapes)

end Stuck

/-! ## Files -/

/-- The load of a file of the schema ends as its entries do. -/
theorem loadFile_of_checked {text : String} {document : Value} {entries : List Value}
    (read : env.files.read path = .ok text) (parsed : Yaml.read true text = .ok document)
    (checked : checkDocument document = .ok entries) (r : Registry) :
    (loadFile env path r).2 =
      match (declareEntries env.catalog path.toString entries r).2 with
      | .ok _ => .ok entries.length
      | .error fault => .error ((DocumentFault.entry fault).failure path.toString) := by
  rw [loadFile_of_read (readDocument_of_parsed read parsed), compileDocument_outcome checked]
  cases (declareEntries env.catalog path.toString entries r).2 <;> rfl

/-- Entries are all built, or one of their descriptions is the first that is stuck, and their declaration ends
with the fault of its strategy or with what it raises. -/
theorem declareEntries_cases (catalog : Catalog) (source : String) {entries : List Value}
    (each : ∀ entry ∈ entries, IsEntry entry) (r : Registry) :
    (declareEntries catalog source entries r).2 = .ok () ∧ (∀ entry ∈ entries, IsBuilt catalog entry) ∨
      ∃ description, FirstStuck catalog entries description ∧
        ((∃ code kind fault line, (declareEntries catalog source entries r).2 =
            .error (.matcher code kind fault line)) ∧ Unbuildable catalog description ∨
          ((∃ what, (declareEntries catalog source entries r).2 = .error (.raised what)) ∨
            ∃ begun what, (declareEntries catalog source entries r).2 = .error (.exit begun what)) ∧
          ∃ escape, Raises catalog description escape) := by
  obtain ⟨done, new, rules, ends⟩ := declareEntries_ends catalog source each r
  have built : ∀ entry ∈ done, IsBuilt catalog entry :=
    ((List.forall₂_and_left _ _).1 (rules.imp fun _ _ isRule => ⟨isRule.isBuilt, isRule⟩)).1
  cases run : declareEntries catalog source entries r with
  | mk after outcome =>
      rw [run] at ends
      cases ends with
      | complete whole _ => exact .inl ⟨rfl, whole ▸ built⟩
      | stopped cut code stops halts =>
          refine .inr ⟨_, .first cut built stops, ?_⟩
          have describes := (each _ (by simp [cut])).matchers _ _ stops.held
          cases halts with
          | strategy _ =>
              exact .inl ⟨⟨_, _, _, _, rfl⟩, (buildMatcher_eq_strategy_iff describes).1 ⟨_, stops.failed⟩⟩
          | raised _ =>
              exact .inr ⟨.inl ⟨_, rfl⟩, _, (buildMatcher_eq_escape_iff describes).1 stops.failed⟩
          | exit _ _ =>
              exact .inr ⟨.inr ⟨_, _, rfl⟩, _, (buildMatcher_eq_escape_iff describes).1 stops.failed⟩

/-- A failure that is none of the load errors. -/
def EndsOtherwise (outcome : Except FileFailure Nat) : Prop :=
  ∃ failure, outcome = .error failure ∧ ∀ e, failure ≠ .error e

/-- The load of a file ends as documented, or with a fault that has no code. -/
theorem loadFile_cases (env : Environment) (path : Path) (r : Registry) :
    Documented env path (loadFile env path r).2 ∨ Escapes env path := by
  cases read : env.files.read path with
  | error fault =>
      simp only [loadFile, readDocument, read]
      cases fault with
      | nullInPath => exact .inr (.nullInPath read)
      | _ => exact .inl (.failed rfl (.unreadable read (by simp)))
  | ok text =>
      cases parsed : Yaml.read true text with
      | error fault =>
          simp only [loadFile, readDocument, read, parsed]
          cases fault with
          | scalar fault => exact .inr (.scalar read parsed)
          | _ => exact .inl (.failed rfl (.malformed read parsed (by simp)))
      | ok document =>
          cases checked : checkDocument document with
          | error violation =>
              rw [loadFile_of_read (readDocument_of_parsed read parsed)]
              simp only [compileDocument, checked, DocumentFault.ofViolation]
              cases writable : violation.cause.isWritable with
              | true => exact .inl (.failed rfl (.refused read parsed checked writable))
              | false => exact .inr (.notWritable read parsed checked writable)
          | ok entries =>
              have each := (checkDocument_eq_ok_iff.1 checked).isEntry
              rw [loadFile_of_checked read parsed checked]
              rcases declareEntries_cases env.catalog path.toString each r with
                ⟨ended, built⟩ | ⟨description, first, ⟨⟨code, kind, fault, line, ended⟩, stuck⟩ | ⟨-, _, raises⟩⟩
              · rw [ended]
                exact .inl (.loaded read parsed checked built)
              · rw [ended]
                exact .inl (.failed rfl (.unbuildable read parsed checked first stuck))
              · exact .inr (.target read parsed checked first raises)

/-- A fault that has no code is no load error. -/
theorem Escapes.endsOtherwise (escapes : Escapes env path) (r : Registry) :
    EndsOtherwise (loadFile env path r).2 := by
  cases escapes with
  | nullInPath read =>
      simp only [loadFile, readDocument, read]
      exact ⟨_, rfl, by rintro _ ⟨⟩⟩
  | scalar read parsed =>
      simp only [loadFile, readDocument, read, parsed]
      exact ⟨_, rfl, by rintro _ ⟨⟩⟩
  | notWritable read parsed checked long =>
      rw [loadFile_of_read (readDocument_of_parsed read parsed)]
      simp only [compileDocument, checked, DocumentFault.ofViolation, long]
      exact ⟨_, rfl, by rintro _ ⟨⟩⟩
  | target read parsed checked first raises =>
      have each := (checkDocument_eq_ok_iff.1 checked).isEntry
      rw [loadFile_of_checked read parsed checked]
      rcases declareEntries_cases env.catalog path.toString each r with
        ⟨-, built⟩ | ⟨other, first', ⟨-, stuck⟩ | ⟨⟨what, ended⟩ | ⟨begun, what, ended⟩, -⟩⟩
      · exact absurd built first.not_isBuilt
      · cases first.unique first'
        exact absurd stuck raises.not_unbuildable
      · rw [ended]
        exact ⟨_, rfl, by rintro _ ⟨⟩⟩
      · rw [ended]
        exact ⟨_, rfl, by rintro _ ⟨⟩⟩

theorem documented_iff : Documented env path (loadFile env path r).2 ↔ ¬ Escapes env path := by
  constructor
  · intro documented escapes
    obtain ⟨failure, failed, other⟩ := escapes.endsOtherwise r
    rw [failed] at documented
    cases documented with
    | @failed e names reason => exact other e rfl
  · exact (loadFile_cases env path r).resolve_right

theorem reviewable_iff : Reviewable env path ↔ ¬ Escapes env path := by
  constructor
  · intro reviewable escapes
    obtain ⟨failure, failed, other⟩ := escapes.endsOtherwise .empty
    rcases reviewable with ⟨count, loads⟩ | ⟨e, ended⟩
    · cases failed.symm.trans loads
    · cases failed.symm.trans ended
      exact other e rfl
  · intro keeps
    have documented : Documented env path (loadFile env path .empty).2 := documented_iff.2 keeps
    generalize ended : (loadFile env path .empty).2 = outcome at documented
    cases documented with
    | loaded => exact .inl ⟨_, ended⟩
    | @failed e => exact .inr ⟨e, ended⟩

/-- Validation answers exactly if nothing at its paths is too long to be looked up and no fault leaves the load
of a file. -/
theorem validate_answers_iff {paths : List Path} :
    (∃ problems, (validate env paths).2 = .ok problems) ↔
      (∀ path ∈ paths, ∀ other, ¬ env.files.MeetsTooLong path other) ∧
        ∀ path ∈ paths.flatMap (standsFor env.files), ¬ Escapes env path := by
  simp only [exists_validate_iff_forall, reviewable_iff]

/-- Whatever a file holds and whatever is registered, its load ends as documented unless a fault without
a code leaves it, and validation answers unless something at a path is too long to be looked up or such a
fault leaves one of the files that the paths stand for. -/
theorem loadFile_documented (env : Environment) :
    (∀ path r, Documented env path (loadFile env path r).2 ↔ ¬ Escapes env path) ∧
      ∀ paths, (∃ problems, (validate env paths).2 = .ok problems) ↔
        (∀ path ∈ paths, ∀ other, ¬ env.files.MeetsTooLong path other) ∧
          ∀ path ∈ paths.flatMap (standsFor env.files), ¬ Escapes env path :=
  ⟨fun _ _ => documented_iff, fun _ => validate_answers_iff⟩

/-- The text of a file with a day that its month does not have. -/
def badDayText : String := "version: 2001-02-30\nrules: []\n"

/-- Surroundings with that file only. -/
def badDaySurroundings : Environment :=
  { files := ⟨.directory [("rules.yaml", .file badDayText.toUTF8.toList)], ⟨.root, []⟩⟩
    catalog := ⟨[]⟩
    bundled := ⟨.root, []⟩
    home := "/"
    users := [] }

/-- The path of that file. -/
def badDayPath : Path := ⟨.relative, ["rules.yaml"]⟩

/-- The fault of the day has no code: it leaves the load, and no problem is reported. -/
theorem escapes_badDay :
    ¬ Documented badDaySurroundings badDayPath (loadFile badDaySurroundings badDayPath .empty).2 ∧
      ¬ ∃ problems, (validate badDaySurroundings [badDayPath]).2 = .ok problems := by
  have noNull : badDayPath.hasNull = false := by simp [Path.hasNull, badDayPath]
  have read : badDaySurroundings.files.read badDayPath = .ok badDayText := by
    simp only [Files.read, noNull, Bool.false_eq_true, if_false]
    decide +kernel
  have parsed : Yaml.read true badDayText = .error (.scalar (.calendar .day)) :=
    faultOf?_eq_some.1 (by decide +kernel)
  have escapes : Escapes badDaySurroundings badDayPath := .scalar read parsed
  refine ⟨fun documented => documented_iff.1 documented escapes, fun answered => ?_⟩
  have only : [badDayPath].flatMap (standsFor badDaySurroundings.files) = [badDayPath] := rfl
  obtain ⟨-, each⟩ := validate_answers_iff.1 answered
  rw [only] at each
  exact each badDayPath (List.mem_singleton_self _) escapes

end CookbookRules.RuleFile
