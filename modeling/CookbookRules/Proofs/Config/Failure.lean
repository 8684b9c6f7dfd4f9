import CookbookRules.Config
import CookbookRules.Proofs.Files.Lookup
import CookbookRules.Proofs.Value.Keys

/-!
# How the load of a configuration fails

A configuration is loaded, or is wrong in a way that has a wording of its own; or a failure leaves the load as
it is. `Escapes` says when the last happens, and with which failure: the file cannot be read, a scalar in it
has no value, or an entry of it names no home directory.
-/

namespace CookbookRules.Config

open Outcome

variable {env : Environment} {path root base : Path} {asked : Option Path} {document : Value}
  {failure : Failure} {entry : String}

/-! ## Entries -/

/-- Why an entry has no home directory that it is seen from: it begins with a tilde, and what follows is no
user, or cannot be one. -/
inductive Homeless (env : Environment) (entry : String) : Failure → Prop
  | unknown {first : String} {rest : List String} (parts : Path.ofString entry = ⟨.relative, first :: rest⟩)
      (tilde : first.startsWith "~" = true) (whole : first.contains '\x00' = false)
      (nobody : homeOf env first = none) : Homeless env entry .noHome
  | null {first : String} {rest : List String} (parts : Path.ofString entry = ⟨.relative, first :: rest⟩)
      (tilde : first.startsWith "~" = true) (null : first.contains '\x00' = true) :
      Homeless env entry (.read .nullInPath)

theorem resolveEntry_eq_error_iff (base : Path) :
    resolveEntry env base entry = .error failure ↔ Homeless env entry failure := by
  rw [resolveEntry, map_eq_error]
  constructor
  · intro fails
    unfold expandHome at fails
    split at fails
    · next first rest anchor parts =>
      have whole : Path.ofString entry = ⟨.relative, first :: rest⟩ := by rw [← anchor, ← parts]
      split at fails
      · cases fails
      · next tilde =>
        have tilde : first.startsWith "~" = true := by simpa using tilde
        split at fails
        · next null =>
          cases fails
          exact .null whole tilde null
        · next clean =>
          split at fails
          · cases fails
          · next nobody =>
            cases fails
            exact .unknown whole tilde (by simpa using clean) nobody
    · cases fails
  · rintro (⟨parts, tilde, whole, nobody⟩ | ⟨parts, tilde, null⟩)
    · simp [expandHome, parts, tilde, whole, nobody]
    · simp [expandHome, parts, tilde, null]

/-! ## Documents -/

/-- How a document fails without a fault: the message on a key that it must not have cannot be written, or all
is well up to an entry without a home directory. -/
inductive Astray (env : Environment) (document : Value) : Failure → Prop
  | notWritable {key : Value} (mapping : document.isMap = true)
      (outside : key ∈ document.keysOutside allowedKeys) (huge : key.isWritable = false) :
      Astray env document .notWritable
  | homeless {entries before after : List String} {entry : String} {failure : Failure}
      (keys : document.KeysWithin allowedKeys) (switch : ∃ b, bundledSwitch document = .ok b)
      (listed : texts document "rule_paths" = .ok entries) (cut : entries = before ++ entry :: after)
      (earlier : ∀ other ∈ before, ∀ failure, ¬ Homeless env other failure)
      (homeless : Homeless env entry failure) : Astray env document failure

theorem Homeless.not_invalid (h : Homeless env entry failure) (fault : Fault) : failure ≠ .invalid fault := by
  cases h <;> nofun

theorem Astray.not_invalid (h : Astray env document failure) (fault : Fault) : failure ≠ .invalid fault := by
  cases h with
  | notWritable => nofun
  | homeless _ _ _ _ _ homeless => exact homeless.not_invalid fault

/-- An entry is seen from a directory unless it has no home directory. -/
theorem exists_resolveEntry_iff (base : Path) :
    (∃ found, resolveEntry env base entry = .ok found) ↔ ∀ failure, ¬ Homeless env entry failure := by
  simp only [← resolveEntry_eq_error_iff base]
  cases resolveEntry env base entry <;> simp

/-- What is read of a mapping with the keys of a configuration. -/
def readEntries (env : Environment) (base : Path) (document : Value) : Except Failure Config := do
  let includeBundled ← (bundledSwitch document).mapError .invalid
  let entries ← (texts document "rule_paths").mapError .invalid
  let rulePaths ← entries.mapM (resolveEntry env base)
  let tags ← (texts document "tags").mapError .invalid
  pure ⟨rulePaths, tags, includeBundled⟩

/-- Of a mapping the keys are looked at first; what it holds is read only if there is none that it must not
have. -/
theorem ofDocument_of_isMap (mapping : document.isMap = true) : ofDocument env path document =
    if (document.keysOutside allowedKeys).isEmpty then readEntries env path.parent document
    else
      .error (if (document.keysOutside allowedKeys).all Value.isWritable
        then .invalid (.unknownKeys path.toString (document.keysOutside allowedKeys)) else .notWritable) := by
  obtain ⟨origin, held, rfl⟩ := Value.isMap_iff.1 mapping
  unfold ofDocument
  dsimp only [Bool.false_eq_true, if_false]
  simp only [Bool.false_eq_true, if_false, mapping, Bool.not_true]
  cases (Value.keysOutside allowedKeys (.map origin held)).isEmpty <;> rfl

/-- Where a document is no mapping, it has a fault or stands for the defaults. -/
theorem ofDocument_of_not_isMap (mapping : document.isMap = false) :
    (∃ config, ofDocument env path document = .ok config) ∨
      ∃ fault, ofDocument env path document = .error (.invalid fault) := by
  cases document with
  | none => exact .inl ⟨_, rfl⟩
  | map origin entries => cases mapping
  | _ => exact .inr ⟨_, rfl⟩

theorem Astray.isMap (h : Astray env document failure) : document.isMap = true := by
  cases h with
  | notWritable mapping _ _ => exact mapping
  | homeless keys _ _ _ _ _ => exact (Value.keysWithin_iff.1 keys).1

/-- Where the keys are those of a configuration, only an entry without a home directory leads astray. -/
theorem readEntries_eq_error_iff (keys : document.KeysWithin allowedKeys)
    (other : ∀ fault, failure ≠ .invalid fault) :
    readEntries env base document = .error failure ↔ Astray env document failure := by
  have none := (Value.keysWithin_iff.1 keys).2
  constructor
  · intro fails
    rcases bind_eq_error.1 fails with faulty | ⟨b, switch, fails⟩
    · obtain ⟨fault, -, refused⟩ := mapError_eq_error.1 faulty
      exact absurd refused.symm (other fault)
    rcases bind_eq_error.1 fails with faulty | ⟨entries, listed, fails⟩
    · obtain ⟨fault, -, refused⟩ := mapError_eq_error.1 faulty
      exact absurd refused.symm (other fault)
    rcases bind_eq_error.1 fails with astray | ⟨paths, -, fails⟩
    · obtain ⟨before, entry, after, cut, front, stops⟩ := mapM_eq_error_iff.1 astray
      exact .homeless keys ⟨b, mapError_eq_ok.1 switch⟩ (mapError_eq_ok.1 listed) cut
        (fun earlier member => (exists_resolveEntry_iff base).1 (front earlier member))
        ((resolveEntry_eq_error_iff base).1 stops)
    rcases bind_eq_error.1 fails with faulty | ⟨tags, -, ended⟩
    · obtain ⟨fault, -, refused⟩ := mapError_eq_error.1 faulty
      exact absurd refused.symm (other fault)
    · cases ended
  · rintro (⟨-, outside, -⟩ | ⟨-, ⟨b, switch⟩, listed, cut, earlier, homeless⟩)
    · rw [none] at outside
      cases outside
    · have stops := mapM_eq_error_iff.2 ⟨_, _, _, cut,
        fun other member => (exists_resolveEntry_iff base).2 (earlier other member),
        (resolveEntry_eq_error_iff base).2 homeless⟩
      rw [readEntries, switch, listed, mapError_ok, mapError_ok, ok_bind, ok_bind, stops]
      rfl

theorem ofDocument_eq_error_iff (other : ∀ fault, failure ≠ .invalid fault) :
    ofDocument env path document = .error failure ↔ Astray env document failure := by
  cases mapping : document.isMap with
  | false =>
      refine iff_of_false (fun fails => ?_) fun astray => ?_
      · rcases ofDocument_of_not_isMap mapping with ⟨config, loads⟩ | ⟨fault, refused⟩
        · cases loads.symm.trans fails
        · cases refused.symm.trans fails
          exact other fault rfl
      · cases mapping.symm.trans astray.isMap
  | true =>
      rw [ofDocument_of_isMap mapping]
      split
      · next inside =>
        exact readEntries_eq_error_iff (Value.keysWithin_iff.2 ⟨mapping, List.isEmpty_iff.1 inside⟩) other
      · next outside =>
        rw [Except.error.injEq]
        constructor
        · intro same
          split at same
          · exact absurd same.symm (other _)
          · next huge =>
            obtain ⟨key, stray, unwritable⟩ := by simpa using huge
            exact same ▸ .notWritable mapping stray unwritable
        · rintro (⟨-, stray, huge⟩ | ⟨keys, -, -, -, -, -⟩)
          · rw [if_neg]
            intro all
            cases huge.symm.trans (List.all_eq_true.1 all _ stray)
          · exact absurd (List.isEmpty_iff.2 (Value.keysWithin_iff.1 keys).2) outside

/-! ## Files -/

/-- How the load of a file fails without a fault: the file cannot be looked up or read, a scalar in it has no
value, or its document leads astray. -/
inductive Unusable (env : Environment) (path : Path) : Failure → Prop
  | tooLong (long : env.files.IsTooLong path) : Unusable env path (.read (.nameTooLong path.toString))
  | directory {entries : List (String × FileTree)}
      (there : env.files.look path = .ok (some (.directory entries))) :
      Unusable env path (.read (.isDirectory path.toString))
  | notText {bytes : List UInt8} {fault : Text.Utf8.Fault}
      (there : env.files.look path = .ok (some (.file bytes)))
      (unreadable : Text.Utf8.decode bytes = .error fault) : Unusable env path (.read (.notText fault))
  | scalar {text : String} {fault : Yaml.ScalarFault} (read : env.files.read path = .ok text)
      (stops : Yaml.read false text = .error (.scalar fault)) : Unusable env path (.scalar fault)
  | astray {text : String} {document : Value} {failure : Failure} (read : env.files.read path = .ok text)
      (parsed : Yaml.read false text = .ok document) (astray : Astray env document failure) :
      Unusable env path failure

/-- How the load of a configuration fails without a fault: one of the paths that it is given has a null
character, or the file is unusable. -/
inductive Escapes (env : Environment) (root : Path) (asked : Option Path) : Failure → Prop
  | null {path : Path} (given : path ∈ root :: asked.toList) (null : path.hasNull = true) :
      Escapes env root asked (.read .nullInPath)
  | file {failure : Failure} (whole : ∀ path ∈ root :: asked.toList, path.hasNull = false)
      (unusable : Unusable env (pathOf env root asked) failure) : Escapes env root asked failure

theorem Unusable.not_invalid (h : Unusable env path failure) (fault : Fault) : failure ≠ .invalid fault := by
  cases h with
  | astray _ _ astray => exact astray.not_invalid fault
  | _ => nofun

theorem Escapes.not_invalid (h : Escapes env root asked failure) (fault : Fault) :
    failure ≠ .invalid fault := by
  cases h with
  | null => nofun
  | file _ unusable => exact unusable.not_invalid fault

/-- A text is loaded as its document is, and fails as the reader of texts does. -/
theorem loadText_eq_error_iff {text : String} (read : env.files.read path = .ok text)
    (other : ∀ fault, failure ≠ .invalid fault) :
    (readDocument env path >>= ofDocument env path) = .error failure ↔ Unusable env path failure := by
  obtain ⟨bytes, there⟩ := Files.look_of_read read
  have unusable : Unusable env path failure ↔
      (∃ fault, Yaml.read false text = .error (.scalar fault) ∧ failure = .scalar fault) ∨
        ∃ document, Yaml.read false text = .ok document ∧ Astray env document failure := by
    constructor
    · intro h
      cases h with
      | tooLong long => cases there.symm.trans (Files.look_of_isTooLong long)
      | directory elsewhere => cases there.symm.trans elsewhere
      | notText there' unreadable =>
          cases there.symm.trans there'
          rw [Files.read_of_file there, unreadable] at read
          cases read
      | scalar read' stops =>
          cases read.symm.trans read'
          exact .inl ⟨_, stops, rfl⟩
      | astray read' parsed astray =>
          cases read.symm.trans read'
          exact .inr ⟨_, parsed, astray⟩
    · rintro (⟨fault, stops, rfl⟩ | ⟨document, parsed, astray⟩)
      · exact .scalar read stops
      · exact .astray read parsed astray
  rw [unusable, readDocument, read, mapError_ok, ok_bind]
  cases parsed : Yaml.read false text with
  | ok document => simp [ofDocument_eq_error_iff other]
  | error fault =>
      cases fault with
      | scalar fault =>
          change (Except.error (.scalar fault) : Except Failure Config) = .error failure ↔ _
          simp [eq_comm]
      | _ =>
          change (Except.error (.invalid _) : Except Failure Config) = .error failure ↔ _
          simp [(other _).symm]

/-- What cannot be read as a text fails as it is read. -/
theorem loadThere_eq_error_iff {tree : FileTree} (there : env.files.look path = .ok (some tree))
    (other : ∀ fault, failure ≠ .invalid fault) :
    (readDocument env path >>= ofDocument env path) = .error failure ↔ Unusable env path failure := by
  cases read : env.files.read path with
  | ok text => exact loadText_eq_error_iff read other
  | error fault =>
      rw [readDocument, read, mapError_error, error_bind, error_bind, Except.error.injEq]
      constructor
      · rintro rfl
        cases tree with
        | directory entries =>
            cases read.symm.trans (Files.read_of_directory there)
            exact .directory there
        | file bytes =>
            rw [Files.read_of_file there] at read
            split at read
            · cases read
            · next unreadable =>
              cases read
              exact .notText there unreadable
      · intro h
        cases h with
        | tooLong long => cases there.symm.trans (Files.look_of_isTooLong long)
        | directory there' => cases read.symm.trans (Files.read_of_directory there'); rfl
        | notText there' unreadable =>
            rw [Files.read_of_file there', unreadable] at read
            cases read
            rfl
        | scalar read' _ => cases read.symm.trans read'
        | astray read' _ _ => cases read.symm.trans read'

/-- Only a path that is too long makes the file of a configuration unusable before it is looked up. -/
theorem Unusable.isTooLong_or_there (h : Unusable env path failure) :
    (env.files.IsTooLong path ∧ failure = .read (.nameTooLong path.toString)) ∨
      ∃ tree, env.files.look path = .ok (some tree) := by
  cases h with
  | tooLong long => exact .inl ⟨long, rfl⟩
  | directory there => exact .inr ⟨_, there⟩
  | notText there _ => exact .inr ⟨_, there⟩
  | scalar read _ =>
      obtain ⟨bytes, there⟩ := Files.look_of_read read
      exact .inr ⟨_, there⟩
  | astray read _ _ =>
      obtain ⟨bytes, there⟩ := Files.look_of_read read
      exact .inr ⟨_, there⟩

theorem not_unusable_of_absent (absent : env.files.look path = .ok none) : ¬ Unusable env path failure := by
  intro h
  rcases h.isTooLong_or_there with ⟨long, -⟩ | ⟨tree, there⟩
  · cases absent.symm.trans (Files.look_of_isTooLong long)
  · cases absent.symm.trans there

theorem unusable_iff_of_isTooLong (long : env.files.IsTooLong path) :
    Unusable env path failure ↔ failure = .read (.nameTooLong path.toString) := by
  constructor
  · intro h
    rcases h.isTooLong_or_there with ⟨-, same⟩ | ⟨tree, there⟩
    · exact same
    · cases there.symm.trans (Files.look_of_isTooLong long)
  · rintro rfl
    exact .tooLong long

/-- Where no path that is given has a null character, the file is read if it is there. -/
theorem load_of_whole (whole : ∀ path ∈ root :: asked.toList, path.hasNull = false)
    (isPath : pathOf env root asked = path) : load env root asked =
      (env.files.exists? path).mapError .read >>= fun there =>
        if there then
          (fun config => (config, [Note.configLoaded path.toString])) <$>
            (readDocument env path >>= ofDocument env path)
        else if asked.isSome then .error (.invalid (.notFound path.toString))
        else .ok (default, []) := by
  have clean : (root :: asked.toList).any Path.hasNull = false := by simpa using whole
  simp only [load, clean, isPath, Bool.false_eq_true, if_false]
  refine congrArg ((env.files.exists? path).mapError Failure.read >>= ·) (funext fun there => ?_)
  cases there with
  | false => rfl
  | true => cases readDocument env path <;> rfl

/-- The load of a configuration fails without a fault exactly in these ways. -/
theorem load_eq_error_iff (other : ∀ fault, failure ≠ .invalid fault) :
    load env root asked = .error failure ↔ Escapes env root asked failure := by
  cases null : (root :: asked.toList).any Path.hasNull with
  | true =>
      obtain ⟨path, given, holds⟩ := List.any_eq_true.1 null
      have fails : load env root asked = .error (.read .nullInPath) := by
        rw [load, null]
        rfl
      rw [fails, Except.error.injEq]
      constructor
      · rintro rfl
        exact .null given holds
      · rintro (⟨-, -⟩ | ⟨whole, -⟩)
        · rfl
        · cases (whole path given).symm.trans holds
  | false =>
      have whole : ∀ path ∈ root :: asked.toList, path.hasNull = false := by simpa using null
      have file : Escapes env root asked failure ↔ Unusable env (pathOf env root asked) failure := by
        constructor
        · rintro (⟨given, holds⟩ | ⟨-, unusable⟩)
          · cases (whole _ given).symm.trans holds
          · exact unusable
        · exact .file whole
      rw [file, load_of_whole whole rfl]
      generalize pathOf env root asked = path
      rcases env.files.look_cases path with ⟨⟨there, found⟩, -⟩ | ⟨lost, long⟩
      · cases there with
        | none =>
            have absent : env.files.exists? path = .ok false := by
              rw [Files.exists?, found]
              rfl
            refine iff_of_false ?_ (not_unusable_of_absent found)
            rw [absent, mapError_ok, ok_bind, if_neg Bool.false_ne_true]
            split
            · simp [(other _).symm]
            · nofun
        | some tree =>
            have exists' : env.files.exists? path = .ok true := by
              rw [Files.exists?, found]
              rfl
            rw [exists', mapError_ok, ok_bind, if_pos rfl, map_eq_error, loadThere_eq_error_iff found other]
      · have fails : env.files.exists? path = .error (.nameTooLong path.toString) := by
          rw [Files.exists?, lost]
          rfl
        rw [unusable_iff_of_isTooLong long, fails, mapError_error, error_bind, Except.error.injEq]
        exact eq_comm

/-- Else the configuration is loaded, or it has a fault. -/
theorem load_settled_iff : ((∃ result, load env root asked = .ok result) ∨
    ∃ fault, load env root asked = .error (.invalid fault)) ↔ ∀ failure, ¬ Escapes env root asked failure := by
  constructor
  · rintro (⟨result, loads⟩ | ⟨fault, refused⟩) failure escapes
    · cases loads.symm.trans ((load_eq_error_iff escapes.not_invalid).2 escapes)
    · cases refused.symm.trans ((load_eq_error_iff escapes.not_invalid).2 escapes)
      exact escapes.not_invalid fault rfl
  · intro none
    cases loads : load env root asked with
    | ok result => exact .inl ⟨result, rfl⟩
    | error failure =>
        by_cases faulty : ∃ fault, failure = .invalid fault
        · obtain ⟨fault, rfl⟩ := faulty
          exact .inr ⟨fault, rfl⟩
        · exact absurd ((load_eq_error_iff fun fault same => faulty ⟨fault, same⟩).1 loads) (none failure)

end CookbookRules.Config
