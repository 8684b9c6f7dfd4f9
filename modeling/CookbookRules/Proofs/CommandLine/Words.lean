import CookbookRules.CommandLine.Arguments
import CookbookRules.Proofs.Outcome

/-!
# Command lines with further words

A command line that is read can be read on: words at its end that its command understands do there what they
would do on their own. This is seen from the words that a reading uses up, level by level. A command without
paths uses up flags with their values and nothing else, so there is no divider among its words, behind which
everything would be an argument.
-/

namespace CookbookRules.CommandLine

open Outcome

variable {level : Level} {given : String} {words front back extra : List String}
  {seen more rest : List Word} {settings between after : Settings} {command : Command}

/-! ## Words as a level sees them -/

/-- How a level sees a word that is not a divider. -/
def classifyWord (level : Level) (given : String) : Except Stop Word :=
  if given.startsWith "-" && given != "-" then classifyHyphen level given else .ok (.argument given)

theorem classify_cons (h : given ≠ "--") : classify level (given :: words) =
    classifyWord level given >>= fun word => (word :: ·) <$> classify level words := by
  rw [classify, if_neg h, classifyWord]
  split
  · cases classifyHyphen level given with
    | error stop => rfl
    | ok word =>
        cases classify level words with
        | error stop => rfl
        | ok seen => rfl
  · rfl

theorem classify_append (undivided : "--" ∉ front) (first : classify level front = .ok seen)
    (second : classify level back = .ok more) : classify level (front ++ back) = .ok (seen ++ more) := by
  induction front generalizing seen with
  | nil =>
      cases first
      exact second
  | cons given words ih =>
      rw [List.mem_cons, not_or] at undivided
      rw [classify_cons (Ne.symm undivided.1)] at first
      obtain ⟨word, own, first⟩ := bind_eq_ok.1 first
      obtain ⟨others, later, rfl⟩ := map_eq_ok.1 first
      rw [List.cons_append, classify_cons (Ne.symm undivided.1), own, ok_bind, ih undivided.2 later]
      rfl

theorem given_classifyHyphen {word : Word} (h : classifyHyphen level given = .ok word) :
    word.given = given := by
  unfold classifyHyphen at h
  split at h
  · cases h
    rfl
  · dsimp only at h
    split at h
    · cases h
      rfl
    · cases h
      split <;> rfl
    · cases h

/-- A level sees the words as they are given. -/
theorem map_given_classify (h : classify level words = .ok seen) : seen.map Word.given = words := by
  induction words generalizing seen with
  | nil =>
      cases h
      rfl
  | cons given words ih =>
      by_cases divides : given = "--"
      · rw [classify, if_pos divides] at h
        cases h
        simp [divides, Word.given, Function.comp_def]
      · rw [classify_cons divides] at h
        obtain ⟨word, own, h⟩ := bind_eq_ok.1 h
        obtain ⟨others, later, rfl⟩ := map_eq_ok.1 h
        have same : word.given = given := by
          unfold classifyWord at own
          split at own
          · exact given_classifyHyphen own
          · cases own
            rfl
        rw [List.map_cons, same, ih later]

/-- Where there are two hyphens alone, a level sees a divider. -/
theorem divider_mem_of_classify (h : classify level words = .ok seen) (member : "--" ∈ words) :
    .divider ∈ seen := by
  induction words generalizing seen with
  | nil => cases member
  | cons given words ih =>
      by_cases divides : given = "--"
      · rw [classify, if_pos divides] at h
        cases h
        exact List.mem_cons_self
      · rw [classify_cons divides] at h
        obtain ⟨word, -, h⟩ := bind_eq_ok.1 h
        obtain ⟨others, later, rfl⟩ := map_eq_ok.1 h
        have behind := (List.mem_cons.1 member).resolve_left (Ne.symm divides)
        exact List.mem_cons_of_mem _ (ih later behind)

/-! ## Words that a command uses up -/

/-- A command that takes no paths uses up words: flags, each with the value that it takes. -/
inductive Takes (level : Level) : Settings → List Word → Settings → Prop
  | nothing {settings : Settings} : Takes level settings [] settings
  | flag {settings next after : Settings} {given name : String} {flag : Flag} {attached : Option String}
      {raised : Raised} {rest : List Word} (raises : raise level flag name attached = .ok raised)
      (whole : raised.pending = none) (sets : setFlags level settings raised.settled = .ok next)
      (later : Takes level next rest after) :
      Takes level settings (.flag given flag name attached :: rest) after
  | valued {settings next after : Settings} {given name value : String} {flag last : Flag}
      {attached : Option String} {raised : Raised} {rest : List Word}
      (raises : raise level flag name attached = .ok raised) (waits : raised.pending = some last)
      (sets : setFlags level settings (raised.settled ++ [(last, some value)]) = .ok next)
      (later : Takes level next rest after) :
      Takes level settings (.flag given flag name attached :: .argument value :: rest) after

theorem Takes.append (first : Takes level settings seen between) (second : Takes level between more after) :
    Takes level settings (seen ++ more) after := by
  induction first with
  | nothing => exact second
  | flag raises whole sets _ ih => exact .flag raises whole sets (ih second)
  | valued raises waits sets _ ih => exact .valued raises waits sets (ih second)

/-- Words that are used up have no divider among them. -/
theorem Takes.not_divider (h : Takes level settings seen after) : .divider ∉ seen := by
  induction h with
  | nothing => simp
  | flag _ _ _ _ ih => simpa using ih
  | valued _ _ _ _ ih => simpa using ih

theorem Takes.readUnder (h : Takes level settings seen after) :
    readUnder level .done settings seen = .ok (after, []) := by
  induction h with
  | nothing => rfl
  | flag raises whole sets _ ih =>
      rw [CommandLine.readUnder, raises, mapError_ok, ok_bind, whole]
      simp only [sets, ok_bind]
      exact ih
  | valued raises waits sets _ ih =>
      rw [CommandLine.readUnder, raises, mapError_ok, ok_bind, waits]
      simp only [sets, ok_bind]
      exact ih

/-- Where no word is left over, they are all used up. -/
theorem takes_of_readUnder {seen : List Word} {settings : Settings}
    (h : readUnder level .done settings seen = .ok (after, [])) : Takes level settings seen after := by
  match seen with
  | [] =>
      cases h
      exact .nothing
  | .unknown given :: rest =>
      obtain ⟨_, -, ended⟩ := bind_eq_ok.1 h
      cases ended
  | .divider :: rest =>
      obtain ⟨_, -, ended⟩ := bind_eq_ok.1 h
      cases ended
  | .argument given :: rest =>
      obtain ⟨_, -, ended⟩ := bind_eq_ok.1 h
      cases ended
  | .flag given flag name attached :: rest =>
      rw [readUnder] at h
      obtain ⟨raised, raises, h⟩ := bind_eq_ok.1 h
      have raises := mapError_eq_ok.1 raises
      cases waits : raised.pending with
      | none =>
          rw [waits] at h
          obtain ⟨next, sets, later⟩ := bind_eq_ok.1 h
          exact .flag raises waits sets (takes_of_readUnder later)
      | some last =>
          rw [waits] at h
          dsimp only at h
          split at h
          · obtain ⟨next, sets, later⟩ := bind_eq_ok.1 h
            exact .valued raises waits sets (takes_of_readUnder later)
          · cases h

theorem readCommand_eq_ok (other : command ≠ .validateRules) :
    readCommand command settings words = .ok (after, []) ↔
      ∃ seen, classify (.under command) words = .ok seen ∧ Takes (.under command) settings seen after := by
  rw [readCommand, if_neg other, bind_eq_ok]
  exact exists_congr fun seen => and_congr_right fun _ => ⟨takes_of_readUnder, Takes.readUnder⟩

/-! ## Words up to the command -/

/-- The words in front of a command set something and lead to it; what stands behind is left. -/
inductive Leads (command : Command) : Settings → List Word → Settings → List Word → Prop
  | command {settings : Settings} {given : String} {rest : List Word}
      (named : Command.ofName? given = some command) :
      Leads command settings (.argument given :: rest) settings rest
  | flag {settings next between : Settings} {given name : String} {flag : Flag} {attached : Option String}
      {raised : Raised} {others rest : List Word} (raises : raise .top flag name attached = .ok raised)
      (sets : setFlags .top settings raised.settled = .ok next)
      (later : Leads command next others between rest) :
      Leads command settings (.flag given flag name attached :: others) between rest

theorem Leads.append (h : Leads command settings seen between rest) (more : List Word) :
    Leads command settings (seen ++ more) between (rest ++ more) := by
  induction h with
  | command named => exact .command named
  | flag raises sets _ ih => exact .flag raises sets ih

/-- A divider can only stand behind the command. -/
theorem Leads.divider_mem (h : Leads command settings seen between rest) (member : .divider ∈ seen) :
    .divider ∈ rest := by
  induction h with
  | command _ => simpa using member
  | flag _ _ _ ih => exact ih (by simpa using member)

theorem Leads.readTop (h : Leads command settings seen between rest)
    (reads : readCommand command between (rest.map Word.given) = .ok (after, [])) :
    readTop settings [] seen = .ok ⟨command, after⟩ := by
  induction h with
  | command named =>
      rw [CommandLine.readTop, named]
      simp only [reads, ok_bind]
      rfl
  | flag raises sets _ ih =>
      rw [CommandLine.readTop, raises, mapError_ok, ok_bind, sets, ok_bind]
      exact ih reads

theorem exists_leads_of_readTop {extras : List String}
    (h : readTop settings extras seen = .ok ⟨command, after⟩) :
    extras = [] ∧ ∃ between rest, Leads command settings seen between rest ∧
      readCommand command between (rest.map Word.given) = .ok (after, []) := by
  induction seen generalizing settings extras with
  | nil => cases h
  | cons word others ih =>
      cases word with
      | divider => cases others <;> cases h
      | unknown given => simpa using (ih h).1
      | flag given flag name attached =>
          rw [readTop] at h
          obtain ⟨raised, raises, h⟩ := bind_eq_ok.1 h
          obtain ⟨next, sets, h⟩ := bind_eq_ok.1 h
          obtain ⟨none, between, rest, leads, reads⟩ := ih h
          exact ⟨none, between, rest, .flag (mapError_eq_ok.1 raises) sets leads, reads⟩
      | argument given =>
          rw [readTop] at h
          split at h
          · cases h
          · next named =>
            obtain ⟨⟨reached, unused⟩, reads, h⟩ := bind_eq_ok.1 h
            dsimp only at h
            split at h
            · next nothing =>
              cases h
              obtain ⟨none, used⟩ := List.append_eq_nil_iff.1 (List.isEmpty_iff.1 nothing)
              exact ⟨none, settings, others, .command named, used ▸ reads⟩
            · cases h

/-! ## Command lines -/

/-- A command line is read if its words lead to a command that uses up those behind it. -/
theorem readArguments_eq_ok (other : command ≠ .validateRules) :
    readArguments words = .ok ⟨command, after⟩ ↔
      ∃ seen between rest used, classify .top words = .ok seen ∧
        Leads command .initial seen between rest ∧
        classify (.under command) (rest.map Word.given) = .ok used ∧
        Takes (.under command) between used after := by
  rw [readArguments, bind_eq_ok]
  constructor
  · rintro ⟨seen, sees, h⟩
    obtain ⟨-, between, rest, leads, reads⟩ := exists_leads_of_readTop h
    obtain ⟨used, behind, takes⟩ := (readCommand_eq_ok other).1 reads
    exact ⟨seen, between, rest, used, sees, leads, behind, takes⟩
  · rintro ⟨seen, between, rest, used, sees, leads, behind, takes⟩
    exact ⟨seen, sees, leads.readTop ((readCommand_eq_ok other).2 ⟨used, behind, takes⟩)⟩

/-- Words that the command of a command line uses up can be added to its end. -/
theorem readArguments_append (other : command ≠ .validateRules)
    (accepted : readArguments words = .ok ⟨command, settings⟩) (above : classify .top extra = .ok more)
    (below : classify (.under command) extra = .ok seen)
    (takes : Takes (.under command) settings seen after) :
    readArguments (words ++ extra) = .ok ⟨command, after⟩ := by
  obtain ⟨front, between, rest, used, sees, leads, behind, first⟩ := (readArguments_eq_ok other).1 accepted
  have undivided : "--" ∉ rest.map Word.given := fun member =>
    first.not_divider (divider_mem_of_classify behind member)
  have whole : "--" ∉ words := by
    intro member
    have behind := leads.divider_mem (divider_mem_of_classify sees member)
    exact undivided (List.mem_map_of_mem (f := Word.given) behind)
  refine (readArguments_eq_ok other).2 ⟨front ++ more, between, rest ++ more, used ++ seen,
    classify_append whole sees above, leads.append more, ?_, first.append takes⟩
  rw [List.map_append, map_given_classify above]
  exact classify_append undivided behind below

/-! ## Flags with values -/

/-- A word that stands for the value of a flag in front of it. -/
structure IsValue (value : String) : Prop where
  whole : value ≠ "--"
  above : ∃ word, classifyWord .top value = .ok word
  below : classifyWord (.under .rules) value = .ok (.argument value)

theorem classifyWord_plain (plain : given.startsWith "-" = false) :
    classifyWord level given = .ok (.argument given) := by
  rw [classifyWord, plain]
  rfl

/-- A command line of one word names its command. -/
theorem readArguments_rules : readArguments ["rules"] = .ok ⟨.rules, .initial⟩ := by
  have plain : "rules".startsWith "-" = false := by decide +kernel
  have sees : classify .top ["rules"] = .ok [.argument "rules"] := by
    rw [classify_cons (by decide), classifyWord_plain plain]
    rfl
  exact (readArguments_eq_ok (by decide : Command.rules ≠ .validateRules)).2
    ⟨_, _, [], [], sees, .command rfl, rfl, .nothing⟩

theorem isValue_of_plain {value : String} (plain : value.startsWith "-" = false) : IsValue value := by
  refine ⟨?_, ⟨_, classifyWord_plain plain⟩, classifyWord_plain plain⟩
  rintro rfl
  revert plain
  decide +kernel

/-- The words that give a value to a flag: a spelling and the value behind it, or a long spelling with the
value attached. -/
inductive Spells (flag : Flag) (value : String) : List String → Prop
  | apart {name : String} (named : name ∈ flag.names) (isValue : IsValue value) :
      Spells flag value [name, value]
  | attached {name : String} (named : name ∈ flag.names) (long : name.startsWith "--" = true) :
      Spells flag value [name ++ "=" ++ value]

variable {flag : Flag} {name value : String}

/-- A word that no flag can be meant by is seen as something. -/
theorem exists_classifyWord (unspelled : spelledFlag? level given = none)
    (strange : (if given.startsWith "--" then longCandidates level given
      else shortCandidates level given) = []) : ∃ word, classifyWord level given = .ok word := by
  unfold classifyWord
  split
  · simp only [classifyHyphen, unspelled, strange]
    exact ⟨_, rfl⟩
  · exact ⟨_, rfl⟩

theorem classifyWord_of_spelled {attached : Option String} (hyphen : given.startsWith "-" = true)
    (more : given ≠ "-") (spelled : spelledFlag? level given = some (flag, name, attached)) :
    classifyWord level given = .ok (.flag given flag name attached) := by
  simp only [classifyWord, hyphen, bne_iff_ne.2 more, Bool.and_self, if_true, classifyHyphen, spelled]

/-! ### Values behind flags -/

/-- The flags for values are none that the top level knows. -/
theorem exists_classifyWord_name (takes : flag.takesValue = true) (named : name ∈ flag.names) :
    ∃ word, classifyWord .top name = .ok word := by
  have strange : ∀ name ∈ flag.names, spelledFlag? .top name = none ∧
      (if name.startsWith "--" then longCandidates .top name else shortCandidates .top name) = [] := by
    cases flag with
    | help | version | verbose | noBundled => cases takes
    | root | config | included | tags | format => decide +kernel
  exact exists_classifyWord (strange name named).1 (strange name named).2

theorem classifyWord_name (takes : flag.takesValue = true) (named : name ∈ flag.names) :
    classifyWord (.under .rules) name = .ok (.flag name flag name none) := by
  have spelled : ∀ name ∈ flag.names, name.startsWith "-" = true ∧ name ≠ "-" ∧
      spelledFlag? (.under .rules) name = some (flag, name, none) := by
    cases flag with
    | help | version | verbose | noBundled => cases takes
    | root | config | included | tags | format => decide +kernel
  obtain ⟨hyphen, more, spells⟩ := spelled name named
  exact classifyWord_of_spelled hyphen more spells

/-! ### Values in the same word -/

theorem toList_attached :
    (name ++ "=" ++ value).toList = name.toList ++ '=' :: value.toList := by
  rw [String.toList_append, String.toList_append, List.append_assoc]
  rfl

theorem splitValue?_attached (h : '=' ∉ name.toList) :
    splitValue? (name ++ "=" ++ value) = some (name, value) := by
  have inside : ∀ c ∈ name.toList, (c != '=') = true := by
    intro c member
    rw [bne_iff_ne]
    rintro rfl
    exact h member
  simp only [splitValue?, toList_attached, List.dropWhile_append_of_pos inside,
    List.takeWhile_append_of_pos inside]
  simp

/-- No flag has an equals sign in its spellings. -/
theorem lookup_attached (level : Level) : level.spellings.lookup (name ++ "=" ++ value) = none := by
  have spelled : ∀ spelling ∈ level.spellings, '=' ∉ spelling.1.toList := by
    cases level with
    | top => decide +kernel
    | under command => cases command <;> decide +kernel
  rw [List.lookup_eq_none_iff]
  intro spelling member
  rw [bne_iff_ne]
  intro same
  apply spelled spelling member
  rw [← same]
  simp

theorem spelledFlag?_attached (h : '=' ∉ name.toList) : spelledFlag? level (name ++ "=" ++ value) =
    (level.spellings.lookup name).map fun flag => (flag, name, some value) := by
  rw [spelledFlag?, lookup_attached, splitValue?_attached h]
  cases known : level.spellings.lookup name with
  | none => simp [known]
  | some flag => simp [known]

theorem startsWith_attached {start : String} (h : name.startsWith start = true) :
    (name ++ "=" ++ value).startsWith start = true := by
  rw [String.startsWith_string_iff] at h ⊢
  rw [toList_attached]
  exact h.trans (List.prefix_append _ _)

theorem exists_classifyWord_attached (takes : flag.takesValue = true) (named : name ∈ flag.names)
    (long : name.startsWith "--" = true) : ∃ word, classifyWord .top (name ++ "=" ++ value) = .ok word := by
  have strange : ∀ name ∈ flag.names, '=' ∉ name.toList ∧ Level.top.spellings.lookup name = none ∧
      (name.startsWith "--" = true → ∀ spelling ∈ Level.top.spellings, ¬ spelling.1.startsWith name) := by
    cases flag with
    | help | version | verbose | noBundled => cases takes
    | root | config | included | tags | format => decide +kernel
  obtain ⟨bare, unknown, none⟩ := strange name named
  apply exists_classifyWord
  · rw [spelledFlag?_attached bare, unknown]
    rfl
  · rw [if_pos (startsWith_attached long), longCandidates, splitValue?_attached bare]
    exact List.map_eq_nil_iff.2 (List.filter_eq_nil_iff.2 (none long))

theorem classifyWord_attached (takes : flag.takesValue = true) (named : name ∈ flag.names)
    (long : name.startsWith "--" = true) : classifyWord (.under .rules) (name ++ "=" ++ value) =
      .ok (.flag (name ++ "=" ++ value) flag name (some value)) := by
  have spelled : ∀ name ∈ flag.names, '=' ∉ name.toList ∧ name.startsWith "-" = true ∧
      (Level.under .rules).spellings.lookup name = some flag := by
    cases flag with
    | help | version | verbose | noBundled => cases takes
    | root | config | included | tags | format => decide +kernel
  obtain ⟨bare, hyphen, known⟩ := spelled name named
  apply classifyWord_of_spelled (startsWith_attached hyphen)
  · intro alone
    have last := congrArg String.toList alone
    rw [toList_attached] at last
    rw [String.startsWith_string_iff] at long
    have short := congrArg List.length last
    have least := long.length_le
    simp at short least
    omega
  · rw [spelledFlag?_attached bare, known]
    rfl

theorem raise_attached (takes : flag.takesValue = true) :
    raise level flag name (some value) = .ok ⟨[(flag, some value)], none⟩ := by
  rw [raise]
  cases cs : value.toList with
  | nil =>
      rw [raiseWith, takes, String.toList_eq_nil_iff.1 cs]
      rfl
  | cons c rest =>
      rw [raiseWith, takes, ← cs, String.ofList_toList]
      rfl

/-! ### Further flags -/

/-- A flag with its value at the end of a command line is carried out behind all others. -/
theorem readArguments_spelled (accepted : readArguments words = .ok ⟨.rules, settings⟩)
    (takes : flag.takesValue = true) (spells : Spells flag value extra)
    (sets : setFlag (.under .rules) settings (flag, some value) = .ok after) :
    readArguments (words ++ extra) = .ok ⟨.rules, after⟩ := by
  have one : setFlags (.under .rules) settings [(flag, some value)] = .ok after := by
    rw [setFlags, List.foldlM_cons, sets]
    rfl
  cases spells with
  | @apart name named isValue =>
      obtain ⟨first, isFirst⟩ := exists_classifyWord_name takes named
      obtain ⟨second, isSecond⟩ := isValue.above
      have plain : name ≠ "--" := by
        have all : ∀ name ∈ flag.names, name ≠ "--" := by cases flag <;> decide
        exact all name named
      have above : classify .top [name, value] = .ok [first, second] := by
        rw [classify_cons plain, isFirst, ok_bind, classify_cons isValue.whole, isSecond]
        rfl
      have below : classify (.under .rules) [name, value] =
          .ok [.flag name flag name none, .argument value] := by
        rw [classify_cons plain, classifyWord_name takes named, ok_bind, classify_cons isValue.whole,
          isValue.below]
        rfl
      have raises : raise (.under .rules) flag name none = .ok ⟨[], some flag⟩ := by
        simp [raise, raiseAlone, takes]
      exact readArguments_append nofun accepted above below (.valued raises rfl one .nothing)
  | @attached name named long =>
      obtain ⟨first, isFirst⟩ : ∃ word, classifyWord .top (name ++ "=" ++ value) = .ok word :=
        exists_classifyWord_attached takes named long
      have plain : name ++ "=" ++ value ≠ "--" := by
        intro divides
        have last := congrArg ('=' ∈ String.toList ·) divides
        rw [toList_attached] at last
        simp at last
      have above : classify .top [name ++ "=" ++ value] = .ok [first] := by
        rw [classify_cons plain, isFirst]
        rfl
      have below : classify (.under .rules) [name ++ "=" ++ value] =
          .ok [.flag (name ++ "=" ++ value) flag name (some value)] := by
        rw [classify_cons plain, classifyWord_attached takes named long]
        rfl
      exact readArguments_append nofun accepted above below (.flag (raise_attached takes) rfl one .nothing)

/-- So is the flag that leaves the bundled rules out. -/
theorem readArguments_noBundled (accepted : readArguments words = .ok ⟨.rules, settings⟩) :
    readArguments (words ++ ["--no-bundled"]) = .ok ⟨.rules, { settings with noBundled := true }⟩ := by
  have plain : "--no-bundled" ≠ "--" := by decide
  obtain ⟨first, isFirst⟩ : ∃ word, classifyWord .top "--no-bundled" = .ok word :=
    exists_classifyWord (by decide +kernel) (by decide +kernel)
  have above : classify .top ["--no-bundled"] = .ok [first] := by
    rw [classify_cons plain, isFirst]
    rfl
  have below : classify (.under .rules) ["--no-bundled"] =
      .ok [.flag "--no-bundled" .noBundled "--no-bundled" none] := by
    have spelled : spelledFlag? (.under .rules) "--no-bundled" = some (.noBundled, "--no-bundled", none) := by
      decide +kernel
    rw [classify_cons plain, classifyWord_of_spelled (by decide +kernel) (by decide) spelled]
    rfl
  exact readArguments_append nofun accepted above below (.flag rfl rfl rfl .nothing)

end CookbookRules.CommandLine
