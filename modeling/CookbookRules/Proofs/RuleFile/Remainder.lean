import CookbookRules.Proofs.RuleFile.Entries
import CookbookRules.Proofs.RuleFile.Failure

/-!
# What a failed load leaves behind

A load that fails before anything is declared leaves the registry as it was. One that fails at an entry
does so only if the entry is the first of its file: the rules of the entries in front of it stay. An exit
moves the current rule besides.
-/

namespace CookbookRules.RuleFile

open Outcome Registry

/-- The entries that are declared by the load of a file before it fails: those in front of the one that
stops, if the file holds a document of the schema, and else none. -/
inductive DeclaredBefore (env : Environment) (path : Path) : List Value → Prop
  | refused (none : ∀ document entries, readDocument env.files path = .ok document →
      checkDocument document ≠ .ok entries) : DeclaredBefore env path []
  | stopped {document entry description : Value} {done behind : List Value} {kind : Kind}
      {why : DescriptionFault} (read : readDocument env.files path = .ok document)
      (checked : checkDocument document = .ok (done ++ entry :: behind))
      (stops : StopsAt env.catalog entry kind description why) : DeclaredBefore env path done

/-- What a failed load leaves: some rules that are declared whole, and after an exit a rule that has begun
besides, as the current one. -/
inductive Leaves (r : Registry) (new : List Rule) : FileFailure → Registry → Prop
  | declared {failure : FileFailure} {after : Registry} (adds : r.Adds new after)
      (other : ∀ what, failure ≠ .exit what) : Leaves r new failure after
  | begun {before : Registry} {rule : Rule} {what : Raised} (adds : r.Adds new before) :
      Leaves r new (.exit what) (before.begin rule).2

/-- The load of a file fails at an entry: what the entry describes cannot be built, or raises something. -/
inductive IsOfEntry : FileFailure → Prop
  | unbuildable {e : LoadError} (code : e.cause.code = "RULE005") : IsOfEntry (.error e)
  | raised {what : Raised} : IsOfEntry (.raised what)
  | exit {what : Raised} : IsOfEntry (.exit what)

variable {env : Environment} {path : Path} {r after : Registry} {document : Value} {failure : FileFailure}
  {new : List Rule}

/-- A file whose entries fail is left as they leave it. -/
theorem loadFile_of_failing {entries : List Value} {fault : EntryFault}
    (read : readDocument env.files path = .ok document) (checked : checkDocument document = .ok entries)
    (failed : declareEntries env.catalog path.toString entries r = (after, .error fault)) :
    loadFile env path r = (after, .error ((DocumentFault.entry fault).failure path.toString)) := by
  simp only [loadFile, read, compileDocument, checked, failed]

/-- What an entry that stops leaves is left by its file. -/
theorem Halts.leaves {label : Label} {kind : Kind} {line : Option Int} {why : DescriptionFault}
    {fault : EntryFault} (h : Halts r new label kind line why after fault) (source : String) :
    Leaves r new ((DocumentFault.entry fault).failure source) after ∧
      IsOfEntry ((DocumentFault.entry fault).failure source) := by
  cases h with
  | strategy adds => exact ⟨.declared adds fun _ => nofun, .unbuildable rfl⟩
  | raised adds => exact ⟨.declared adds fun _ => nofun, .raised⟩
  | exit adds _ => exact ⟨.begun adds, .exit⟩

/-- Without an exit a registry is as it was exactly if no rule is declared. -/
theorem Leaves.same_iff (h : Leaves r new failure after) (sound : r.Sound)
    (other : ∀ what, failure ≠ .exit what) :
    after.rules = r.rules ∧ after.current = r.current ↔ new = [] := by
  cases h with
  | declared adds _ => exact adds.same_iff sound
  | begun adds => exact absurd rfl (other _)

theorem Leaves.rules (h : Leaves r new failure after) (sound : r.Sound) :
    after.rules = r.rules ++ new := by
  cases h with
  | declared adds _ => exact adds.rules sound
  | begun adds => rw [(adds.sound sound).begin_rules, adds.rules sound]

/-- A load that fails before its document is accepted changes nothing. -/
theorem loadFile_refused (none : ∀ document entries, readDocument env.files path = .ok document →
    checkDocument document ≠ .ok entries) : (loadFile env path r).1 = r := by
  unfold loadFile
  cases read : readDocument env.files path with
  | error failure => rfl
  | ok document =>
      cases checked : checkDocument document with
      | ok entries => exact absurd checked (none document entries read)
      | error violation => simp only [compileDocument, checked]

/-- A load that fails at no entry ends without an exit. -/
theorem loadFile_refused_ne_exit (none : ∀ document entries, readDocument env.files path = .ok document →
    checkDocument document ≠ .ok entries) (failed : (loadFile env path r).2 = .error failure)
    (what : Raised) : failure ≠ .exit what := by
  rintro rfl
  cases read : readDocument env.files path with
  | error fault =>
      simp only [loadFile, read, Except.error.injEq] at failed
      subst failed
      simp only [readDocument] at read
      split at read
      · cases read
      · cases read
      · split at read <;> cases read
  | ok document =>
      cases checked : checkDocument document with
      | ok entries => exact none document entries read checked
      | error violation =>
          rw [loadFile_of_read read] at failed
          simp only [compileDocument, checked, DocumentFault.ofViolation] at failed
          split at failed <;> cases failed

/-- A load that fails leaves the rules of the entries in front of the one that stops. So without an exit it
leaves the registry as it was exactly if there are none, and only what cannot be built or raises something
leaves any. -/
theorem loadFile_failing (sound : r.Sound) (failed : (loadFile env path r).2 = .error failure) :
    let after := (loadFile env path r).1
    ∃ done new, DeclaredBefore env path done ∧
      List.Forall₂ (IsRuleOf env.catalog path.toString) done new ∧ Leaves r new failure after ∧
      after.rules = r.rules ++ new ∧
      ((∀ what, failure ≠ .exit what) →
        (after.rules = r.rules ∧ after.current = r.current ↔ done = [])) ∧
      (done ≠ [] → IsOfEntry failure) := by
  by_cases accepted : ∃ document entries, readDocument env.files path = .ok document ∧
      checkDocument document = .ok entries
  · obtain ⟨document, entries, read, checked⟩ := accepted
    have each := (checkDocument_eq_ok_iff.1 checked).isEntry
    obtain ⟨done, new, rules, ends⟩ := declareEntries_ends env.catalog path.toString each r
    cases run : declareEntries env.catalog path.toString entries r with
    | mk after outcome =>
        rw [run] at ends
        cases ends with
        | complete _ _ =>
            rw [loadFile_of_read read, compileDocument_outcome checked, run] at failed
            cases failed
        | stopped cut code stops halts =>
            rw [loadFile_of_failing read checked run] at failed ⊢
            cases failed
            obtain ⟨leaves, isOfEntry⟩ := halts.leaves path.toString
            have nothing : new = [] ↔ done = [] := by
              rw [← List.length_eq_zero_iff, ← List.length_eq_zero_iff, rules.length_eq]
            exact ⟨done, new, .stopped read (cut ▸ checked) stops, rules, leaves, leaves.rules sound,
              fun other => (leaves.same_iff sound other).trans nothing, fun _ => isOfEntry⟩
  · have refused : ∀ document entries, readDocument env.files path = .ok document →
        checkDocument document ≠ .ok entries := by
      intro document entries read checked
      exact accepted ⟨document, entries, read, checked⟩
    have same : (loadFile env path r).1 = r := loadFile_refused refused
    rw [same]
    refine ⟨[], [], .refused refused, .nil, .declared (.nothing r) (loadFile_refused_ne_exit refused failed),
      (List.append_nil _).symm, fun _ => ?_, fun some => absurd rfl some⟩
    exact ⟨fun _ => rfl, fun _ => ⟨rfl, rfl⟩⟩

/-- The text of a file with a rule and a second one that looks outside the cookbook. -/
def mixedText : String :=
  "rules:\n- code: A\n  name: a\n- code: B\n  name: b\n  cookbook:\n    strategy: glob\n    pattern: ../x\n"

/-- Surroundings with that file only. -/
def mixedSurroundings : Environment :=
  { files := ⟨.directory [("rules.yaml", .file mixedText.toUTF8.toList)], ⟨.root, []⟩⟩
    catalog := ⟨[]⟩
    bundled := ⟨.root, []⟩
    home := "/"
    users := [] }

/-- The path of that file. -/
def mixedPath : Path := ⟨.relative, ["rules.yaml"]⟩

/-- The code of a failure that is a load error. -/
def errorCode? : FileFailure → Option String
  | .error e => some e.cause.code
  | _ => none

/-- The load of the file fails, and its first rule is the current one. -/
theorem loadFile_mixedPath :
    (∃ e, (loadFile mixedSurroundings mixedPath heldRegistry).2 = .error (.error e)) ∧
      (loadFile mixedSurroundings mixedPath heldRegistry).1.current = some 1 := by
  have noNull : mixedPath.hasNull = false := by simp [Path.hasNull, mixedPath]
  have read : mixedSurroundings.files.read mixedPath = .ok mixedText := by
    simp only [Files.read, noNull, Bool.false_eq_true, if_false]
    decide +kernel
  have compiles : (Yaml.read true mixedText).toOption.map (fun document =>
      let compiled := compileDocument mixedSurroundings.catalog document mixedPath.toString heldRegistry
      ((faultOf? compiled.2).map fun fault => errorCode? (fault.failure mixedPath.toString),
        compiled.1.current)) = some (some (some "RULE005"), some 1) := by decide +kernel
  obtain ⟨document, parsed, told⟩ := Option.map_eq_some_iff.1 compiles
  obtain ⟨failed, current⟩ := Prod.mk.inj told
  obtain ⟨fault, stopped, told⟩ := Option.map_eq_some_iff.1 failed
  have found : readDocument mixedSurroundings.files mixedPath = .ok document :=
    readDocument_of_parsed read (toOption_eq_some.1 parsed)
  constructor
  · rw [loadFile_of_read found, faultOf?_eq_some.1 stopped]
    cases failure : fault.failure mixedPath.toString with
    | error e => exact ⟨e, congrArg Except.error failure⟩
    | _ =>
        rw [failure] at told
        cases told
  · exact loadFile_leaves (P := fun after => after.current = some 1) found current fun _ _ => current

/-- Behind the rule that was there before, the first rule of the file stays. -/
theorem rules_loadFile_mixedPath :
    let after := (loadFile mixedSurroundings mixedPath heldRegistry).1
    ∃ done new, done ≠ [] ∧ List.Forall₂ (IsRuleOf ⟨[]⟩ "rules.yaml") done new ∧
      after.rules = heldRegistry.rules ++ new := by
  obtain ⟨⟨e, failed⟩, current⟩ := loadFile_mixedPath
  have sound : heldRegistry.Sound := (Sound.empty []).declare _
  obtain ⟨done, new, -, rules, -, behind, same, -⟩ := loadFile_failing sound failed
  refine ⟨done, new, fun none => ?_, rules, behind⟩
  have held := ((same nofun).2 none).2
  rw [current] at held
  exact absurd held (by decide)

/-- So a load that fails does not leave every registry as it was. -/
theorem registry_ne_of_failed :
    ¬ ∀ env path r, r.Sound → ∀ e, (loadFile env path r).2 = .error (.error e) →
      (loadFile env path r).1.rules = r.rules ∧ (loadFile env path r).1.current = r.current := by
  intro untouched
  obtain ⟨⟨e, failed⟩, current⟩ := loadFile_mixedPath
  have sound : heldRegistry.Sound := (Sound.empty []).declare _
  have held := (untouched mixedSurroundings mixedPath heldRegistry sound e failed).2
  rw [current] at held
  exact absurd held (by decide)

end CookbookRules.RuleFile
