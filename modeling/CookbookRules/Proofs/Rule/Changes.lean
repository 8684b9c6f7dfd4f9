import CookbookRules.Proofs.Outcome
import CookbookRules.Proofs.Value.Keys
import CookbookRules.Rule.Basic
import Mathlib.Data.List.Induction

/-!
# Changes of a rule

A rule is changed in place by calls that may fail. All that a call is given is checked before the rule is
touched, so that a call which fails leaves it as it was, and what a rule has become is told by the calls that
succeeded: its tags are those that they gave, and the matcher of a kind is the callback of the last one that
set it, whether it named the kind by itself or by its name.
-/

namespace CookbookRules.Rule

open Outcome

/-! ## Calls -/

/-- A call that is to change a rule, with the values that it is given. -/
inductive Call
  | addTags (tags : Value)
  | setMatcher (kind callback : Value)

/-- A change in place: what has been done to the rule stays, also where the rest fails. -/
abbrev InPlace := ExceptT Fault (StateM Rule)

/-- Adds one tag after the other. -/
def insertEach (tags : List String) : InPlace Unit :=
  tags.forM fun tag => modify fun rule => { rule with tags := rule.tags.insert tag }

/-- Adds tags in place, one after the other, when all of them have been checked. -/
def addInPlace (tags : Value) : InPlace Unit := do
  let code := (← get).label.shown
  insertEach (← ExceptT.mk (pure (givenTags code tags)))

/-- Gives the named kind a callback in place. -/
def setInPlace (kind callback : Value) : InPlace Unit := do
  let kind ← ExceptT.mk (pure (kindOf kind))
  match Matcher.ofValue? callback with
  | some matcher => modify (withMatcher kind matcher)
  | none => throw (.notCallable (← get).label.shown kind)

/-- What a call does in place. -/
def Call.inPlace : Call → InPlace Unit
  | addTags tags => addInPlace tags
  | setMatcher kind callback => setInPlace kind callback

/-- What a call answers, and the rule after it. -/
def Call.run (call : Call) (rule : Rule) : Except Fault Unit × Rule :=
  StateT.run (ExceptT.run call.inPlace) rule

/-- Calls with what they answered. -/
abbrev Past := List (Call × Except Fault Unit)

/-- Makes calls one after the other, also behind one that failed. -/
def carryOut (rule : Rule) (calls : List Call) : Past × Rule :=
  calls.foldl
    (fun (past, rule) call =>
      let (answer, after) := call.run rule
      (past ++ [(call, answer)], after))
    ([], rule)

/-! ## What calls mean -/

/-- The items that a value yields, which is no text: a mapping yields its keys, bytes yield numbers. -/
inductive Yields : Value → List Value → Prop
  | list (items : List Value) : Yields (.list items) items
  | tuple (items : List Value) : Yields (.tuple items) items
  | set (items : List Value) : Yields (.set items) items
  | iterator (items : List Value) : Yields (.iterator items) items
  | map (origin : Origin) (entries : List (Value × Value)) :
      Yields (.map origin entries) (entries.map (·.1))
  | bytes (bs : List UInt8) : Yields (.bytes bs) (bs.map fun b => .int b.toNat)

/-- A value gives a tag: it is the text, or no text and yields it. -/
inductive GivesTag (tags : Value) (tag : String) : Prop
  | text (own : tags.IsText tag) : GivesTag tags tag
  | item {items : List Value} {item : Value} (yields : Yields tags items) (member : item ∈ items)
      (text : item.IsText tag) : GivesTag tags tag

/-- A kind or its name. -/
def Denotes (given : Value) (kind : Kind) : Prop :=
  given.IsText kind.name

/-- When a call fails, of whatever rule it is made. -/
inductive Call.Fails : Call → Prop
  | notIterable {tags : Value} (apart : ∀ s, ¬ tags.IsText s) (none : ∀ items, ¬ Yields tags items) :
      Fails (.addTags tags)
  | stray {tags : Value} {items : List Value} {item : Value} (yields : Yields tags items)
      (member : item ∈ items) (other : ∀ s, ¬ item.IsText s) : Fails (.addTags tags)
  | unknownKind {kind callback : Value} (none : ∀ known, ¬ Denotes kind known) :
      Fails (.setMatcher kind callback)
  | notCallable {kind callback : Value} (other : ∀ id reply, callback ≠ .function id reply) :
      Fails (.setMatcher kind callback)

/-- The callback that a succeeded call has set for a kind at last, if any has. -/
inductive LastSet (past : Past) (kind : Kind) : Option Matcher → Prop
  | never
      (unset : ∀ given callback, (.setMatcher given callback, .ok ()) ∈ past → ¬ Denotes given kind) :
      LastSet past kind none
  | last {before after : Past} {given : Value} {id : String} {reply : Reply Value}
      (whole : past = before ++ (.setMatcher given (.function id reply), .ok ()) :: after)
      (denotes : Denotes given kind)
      (unset : ∀ other callback, (.setMatcher other callback, .ok ()) ∈ after → ¬ Denotes other kind) :
      LastSet past kind (some (.callback id reply))

/-- What a rule has become through calls. -/
structure Tracks (first : Rule) (past : Past) (rule : Rule) : Prop where
  label : rule.label = first.label
  title : rule.title = first.title
  tags : ∀ tag, tag ∈ rule.tags ↔
    tag ∈ first.tags ∨ ∃ given, (.addTags given, .ok ()) ∈ past ∧ GivesTag given tag
  matchers : ∀ kind, LastSet past kind (rule.matchers.get? kind)

variable {rule after : Rule} {given kind callback item : Value} {items : List Value} {known : Kind}
  {call : Call} {fault : Fault} {code : String} {tags : List String}

/-! ## In place and as a whole -/

/-- What a call does to a rule as a whole. -/
def Call.change : Call → Rule → Except Fault Rule
  | addTags tags => Rule.addTags tags
  | setMatcher kind callback => Rule.setMatcher kind callback

theorem run_insertEach (tags : List String) (rule : Rule) :
    StateT.run (ExceptT.run (insertEach tags)) rule =
      (.ok (), { rule with tags := rule.tags.insertAll tags }) := by
  induction tags generalizing rule with
  | nil => rfl
  | cons tag rest ih => exact ih _

/-- A call changes the rule as a whole or not at all. -/
theorem Call.run_eq (call : Call) (rule : Rule) :
    call.run rule =
      match call.change rule with
      | .ok after => (.ok (), after)
      | .error fault => (.error fault, rule) := by
  cases call with
  | addTags tags =>
      have checked : (addTags tags).run rule =
          StateT.run (ExceptT.run (ExceptT.mk (pure (givenTags rule.label.shown tags)) >>= insertEach))
            rule := rfl
      rw [checked, change, Rule.addTags]
      cases givenTags rule.label.shown tags with
      | error fault => rfl
      | ok new => exact run_insertEach new rule
  | setMatcher kind callback =>
      simp only [run, inPlace, setInPlace, change, Rule.setMatcher]
      cases kindOf kind with
      | error fault => rfl
      | ok known => cases Matcher.ofValue? callback <;> rfl

/-! ## When calls fail -/

theorem yields_iff (apart : ∀ s, ¬ given.IsText s) : Yields given items ↔ given.items? = some items := by
  constructor
  · intro h
    cases h <;> rfl
  · intro h
    cases given with
    | list _ => cases h; exact .list _
    | tuple _ => cases h; exact .tuple _
    | set _ => cases h; exact .set _
    | iterator _ => cases h; exact .iterator _
    | map _ _ => cases h; exact .map _ _
    | bytes _ => cases h; exact .bytes _
    | text s => exact absurd (.text s) (apart s)
    | brokenText codes => exact absurd (.broken codes) (apart _)
    | kind k => exact absurd (.kind k) (apart _)
    | _ => cases h

theorem Yields.not_isText {s : String} (h : Yields given items) : ¬ given.IsText s := by
  intro text
  cases h <;> cases text

theorem Yields.unique {others : List Value} (h : Yields given items) (h' : Yields given others) :
    items = others := by
  have apart : ∀ s, ¬ given.IsText s := fun s => h.not_isText
  exact Option.some.inj (((yields_iff apart).1 h).symm.trans ((yields_iff apart).1 h'))

theorem givesTag_list_iff {tag : String} : GivesTag (.list items) tag ↔ ∃ item ∈ items, item.IsText tag := by
  constructor
  · rintro (⟨⟨⟩⟩ | ⟨yields, member, text⟩)
    cases yields
    exact ⟨_, member, text⟩
  · rintro ⟨item, member, text⟩
    exact .item (.list items) member text

theorem givenTags_of_text {s : String} (own : given.IsText s) : givenTags code given = .ok [s] := by
  have read := Value.asText?_eq_some_iff.2 own
  simp only [givenTags, read, pure_bind]
  rw [List.mapM_cons, read]
  rfl

theorem givenTags_of_yields (yields : Yields given items) :
    givenTags code given = items.mapM fun item =>
      match item.asText? with
      | some tag => .ok tag
      | none => .error (.tagNotText code item.form) := by
  have apart : ∀ s, ¬ given.IsText s := fun s => yields.not_isText
  simp only [givenTags, Value.asText?_eq_none_iff.2 apart, (yields_iff apart).1 yields]
  rfl

theorem givenTags_of_notIterable (apart : ∀ s, ¬ given.IsText s)
    (none : ∀ items, ¬ Yields given items) :
    givenTags code given = .error (.tagsNotIterable given.longTypeName) := by
  have nothing : given.items? = Option.none := by
    rw [Option.eq_none_iff_forall_ne_some]
    exact fun items found => none items ((yields_iff apart).2 found)
  simp only [givenTags, Value.asText?_eq_none_iff.2 apart, nothing]
  rfl

theorem eq_ok_iff_isText {other : Fault} {tag : String} :
    (match item.asText? with
      | some tag => Except.ok tag
      | none => .error other) = .ok tag ↔ item.IsText tag := by
  rw [← Value.asText?_eq_some_iff]
  cases item.asText? <;> simp

/-- A value that yields texts gives just these. -/
theorem exists_givenTags_of_texts (yields : Yields given items)
    (each : ∀ item ∈ items, ∃ s, item.IsText s) :
    ∃ tags, givenTags code given = .ok tags ∧ ∀ tag, tag ∈ tags ↔ GivesTag given tag := by
  rw [givenTags_of_yields yields]
  obtain ⟨tags, read⟩ := exists_mapM_eq_ok_iff.2 fun item member =>
    (each item member).imp fun s text => eq_ok_iff_isText.2 text
  refine ⟨tags, read, fun tag => ?_⟩
  rw [mem_of_mapM_eq_ok read]
  simp only [eq_ok_iff_isText]
  constructor
  · rintro ⟨item, member, text⟩
    exact .item yields member text
  · rintro (own | ⟨yields', member, text⟩)
    · exact absurd own yields.not_isText
    · cases yields.unique yields'
      exact ⟨_, member, text⟩

/-- A value that yields anything but texts gives no tag. -/
theorem exists_fault_of_stray (yields : Yields given items) (member : item ∈ items)
    (other : ∀ s, ¬ item.IsText s) : ∃ fault, givenTags code given = .error fault := by
  rw [givenTags_of_yields yields, ← not_exists_ok_iff, exists_mapM_eq_ok_iff]
  intro each
  obtain ⟨tag, read⟩ := each item member
  exact other tag (eq_ok_iff_isText.1 read)

/-- A value gives tags unless a call with it fails. -/
theorem givenTags_cases (code : String) (given : Value) :
    (∃ tags, givenTags code given = .ok tags ∧ ∀ tag, tag ∈ tags ↔ GivesTag given tag) ∧
        ¬ (Call.addTags given).Fails ∨
      (∃ fault, givenTags code given = .error fault) ∧ (Call.addTags given).Fails := by
  by_cases text : ∃ s, given.IsText s
  · obtain ⟨s, own⟩ := text
    refine .inl ⟨⟨[s], givenTags_of_text own, fun tag => ?_⟩, ?_⟩
    · rw [List.mem_singleton]
      constructor
      · rintro rfl
        exact .text own
      · rintro (other | ⟨yields, -, -⟩)
        · exact other.unique own
        · exact absurd own yields.not_isText
    · rintro (⟨apart, -⟩ | ⟨yields, -, -⟩)
      · exact apart s own
      · exact yields.not_isText own
  by_cases walked : ∃ items, Yields given items
  · obtain ⟨items, yields⟩ := walked
    by_cases strays : ∃ item ∈ items, ∀ s, ¬ item.IsText s
    · obtain ⟨item, member, other⟩ := strays
      exact .inr ⟨exists_fault_of_stray yields member other, .stray yields member other⟩
    · have each : ∀ item ∈ items, ∃ s, item.IsText s := by
        simpa only [not_exists, not_and, not_forall, not_not] using strays
      refine .inl ⟨exists_givenTags_of_texts yields each, ?_⟩
      rintro (⟨-, none⟩ | ⟨yields', member, other⟩)
      · exact none items yields
      · cases yields.unique yields'
        obtain ⟨s, text⟩ := each _ member
        exact other s text
  · have apart : ∀ s, ¬ given.IsText s := fun s own => text ⟨s, own⟩
    have none : ∀ items, ¬ Yields given items := fun items yields => walked ⟨items, yields⟩
    exact .inr ⟨⟨_, givenTags_of_notIterable apart none⟩, .notIterable apart none⟩

/-- A value names the kind that it denotes, and no other. -/
theorem kindOf_eq_ok_iff : kindOf given = .ok known ↔ Denotes given known := by
  have read : kindOf given = .ok known ↔ given.asText?.bind Kind.ofName? = some known := by
    unfold kindOf
    split
    · simp [Value.asText?]
    · split
      · next found => simp [found]
      · next missing => simp [missing]
  rw [read, Option.bind_eq_some_iff]
  constructor
  · rintro ⟨s, text, named⟩
    rw [Denotes, Kind.name_of_ofName? named]
    exact Value.asText?_eq_some_iff.1 text
  · intro denotes
    exact ⟨known.name, Value.asText?_eq_some_iff.2 denotes, Kind.ofName?_name known⟩

theorem Denotes.unique {other : Kind} (h : Denotes given known) (h' : Denotes given other) :
    known = other :=
  Except.ok.inj ((kindOf_eq_ok_iff.2 h).symm.trans (kindOf_eq_ok_iff.2 h'))

/-! ## What a call does -/

/-- Tags are added if the call does not fail. -/
theorem addTags_eq_ok (h : rule.addTags given = .ok after) :
    ∃ new, after = { rule with tags := rule.tags.insertAll new } ∧
      ∀ tag, tag ∈ new ↔ GivesTag given tag := by
  obtain ⟨new, read, ended⟩ := bind_eq_ok.1 h
  cases ended
  rcases givenTags_cases rule.label.shown given with ⟨⟨_, read', each⟩, -⟩ | ⟨⟨_, failed⟩, -⟩
  · cases read.symm.trans read'
    exact ⟨new, rfl, each⟩
  · cases read.symm.trans failed

/-- A callback is set for the kind that is denoted. -/
theorem setMatcher_eq_ok_iff : rule.setMatcher kind callback = .ok after ↔
    ∃ known id reply, Denotes kind known ∧ callback = .function id reply ∧
      after = rule.withMatcher known (.callback id reply) := by
  rw [Rule.setMatcher, bind_eq_ok]
  simp only [kindOf_eq_ok_iff]
  refine exists_congr fun known => ?_
  constructor
  · rintro ⟨denotes, ended⟩
    cases callback with
    | function id reply => exact ⟨id, reply, denotes, rfl, (Except.ok.inj ended).symm⟩
    | _ => cases ended
  · rintro ⟨id, reply, denotes, rfl, rfl⟩
    exact ⟨denotes, rfl⟩

/-- A call changes a rule unless it fails, whatever the rule is. -/
theorem Call.exists_change_iff (call : Call) (rule : Rule) :
    (∃ after, call.change rule = .ok after) ↔ ¬ call.Fails := by
  cases call with
  | addTags tags =>
      simp only [change, Rule.addTags, bind_eq_ok]
      rcases givenTags_cases rule.label.shown tags with ⟨⟨_, read, -⟩, fine⟩ | ⟨⟨_, failed⟩, fails⟩
      · exact iff_of_true ⟨_, _, read, rfl⟩ fine
      · simp [failed, fails]
  | setMatcher kind callback =>
      simp only [change, setMatcher_eq_ok_iff]
      constructor
      · rintro ⟨after, known, id, reply, denotes, rfl, -⟩ (_ | _ | unknown | other)
        · exact unknown known denotes
        · exact other id reply rfl
      · intro fine
        obtain ⟨known, denotes⟩ : ∃ known, Denotes kind known := by
          by_contra none
          exact fine (.unknownKind (not_exists.1 none))
        obtain ⟨id, reply, rfl⟩ : ∃ id reply, callback = .function id reply := by
          by_contra other
          simp only [not_exists] at other
          exact fine (.notCallable other)
        exact ⟨_, known, id, reply, denotes, rfl, rfl⟩

/-- A call fails exactly then, of whatever rule it is made. -/
theorem Call.exists_fault_iff (call : Call) (rule : Rule) :
    (∃ fault, (call.run rule).1 = .error fault) ↔ call.Fails := by
  rw [← not_iff_not, ← exists_change_iff call rule, run_eq]
  cases call.change rule <;> simp

/-- A call that fails leaves the rule as it was. -/
theorem Call.run_of_error (failed : (call.run rule).1 = .error fault) : (call.run rule).2 = rule := by
  rw [run_eq] at failed ⊢
  cases changed : call.change rule with
  | ok after =>
      rw [changed] at failed
      cases failed
  | error fault => rfl

/-! ## Calls one after the other -/

theorem LastSet.skip {past : Past} {entry : Call × Except Fault Unit} {matcher : Option Matcher}
    (h : LastSet past known matcher)
    (other : ∀ given callback, entry = (.setMatcher given callback, .ok ()) → ¬ Denotes given known) :
    LastSet (past ++ [entry]) known matcher := by
  cases h with
  | never unset =>
      refine .never fun given callback member => ?_
      rcases List.mem_append.1 member with old | new
      · exact unset given callback old
      · exact other given callback (List.mem_singleton.1 new).symm
  | @last before after given id reply whole denotes unset =>
      refine .last (by rw [whole, List.append_assoc, List.cons_append]) denotes ?_
      intro given callback member
      rcases List.mem_append.1 member with old | new
      · exact unset given callback old
      · exact other given callback (List.mem_singleton.1 new).symm

/-- One more call is tracked. -/
theorem Tracks.step {first : Rule} {past : Past} (h : Tracks first past rule) (call : Call) :
    Tracks first (past ++ [(call, (call.run rule).1)]) (call.run rule).2 := by
  rw [call.run_eq]
  cases changed : call.change rule with
  | error fault =>
      refine ⟨h.label, h.title, fun tag => ?_, fun kind => (h.matchers kind).skip nofun⟩
      simp [h.tags tag]
  | ok after =>
      dsimp only
      cases call with
      | addTags given =>
          obtain ⟨new, rfl, each⟩ := addTags_eq_ok changed
          refine ⟨h.label, h.title, fun tag => ?_, fun kind => (h.matchers kind).skip nofun⟩
          rw [TextSet.mem_insertAll, each, h.tags]
          simp only [List.mem_append, List.mem_singleton, Prod.mk.injEq, Call.addTags.injEq, and_true]
          constructor
          · rintro (own | old | ⟨other, member, gives⟩)
            · exact .inr ⟨given, .inr rfl, own⟩
            · exact .inl old
            · exact .inr ⟨other, .inl member, gives⟩
          · rintro (old | ⟨other, member | rfl, gives⟩)
            · exact .inr (.inl old)
            · exact .inr (.inr ⟨other, member, gives⟩)
            · exact .inl gives
      | setMatcher kind callback =>
          obtain ⟨known, id, reply, denotes, rfl, rfl⟩ := setMatcher_eq_ok_iff.1 changed
          refine ⟨h.label, h.title, fun tag => ?_, fun other => ?_⟩
          · simp [withMatcher, h.tags tag]
          · rw [withMatcher, Matchers.get?_set]
            by_cases same : other = known
            · rw [if_pos same]
              exact .last rfl (same ▸ denotes) fun _ _ member => nomatch member
            · rw [if_neg same]
              refine (h.matchers other).skip fun given callback own denotes' => same ?_
              cases own
              exact denotes'.unique denotes

/-- A rule without matchers is tracked through all calls that are made. -/
theorem tracks_carryOut {first : Rule} (bare : first.matchers = .empty) (calls : List Call) :
    (first.carryOut calls).1.map (·.1) = calls ∧
      Tracks first (first.carryOut calls).1 (first.carryOut calls).2 := by
  induction calls using List.reverseRecOn with
  | nil =>
      refine ⟨rfl, rfl, rfl, fun tag => ?_, fun kind => ?_⟩
      · simp [carryOut]
      · have unset : (first.carryOut []).2.matchers.get? kind = none := by
          rw [carryOut, List.foldl_nil, bare, Matchers.get?_empty]
        rw [unset]
        exact .never fun _ _ member => nomatch member
  | append_singleton calls call ih =>
      have one : first.carryOut (calls ++ [call]) =
          ((first.carryOut calls).1 ++ [(call, (call.run (first.carryOut calls).2).1)],
            (call.run (first.carryOut calls).2).2) := by
        simp only [carryOut, List.foldl_append]
        rfl
      rw [one]
      refine ⟨?_, ih.2.step call⟩
      rw [List.map_append, ih.1, List.map_singleton]

theorem matcher_of_denotes (denotes : Denotes given known) (rule : Rule) :
    rule.matcher given = .ok (rule.matchers.get? known) := by
  rw [matcher, kindOf_eq_ok_iff.2 denotes]
  rfl

/-- The kinds of a rule are those with a matcher, in their order. -/
theorem kinds_sublist (rule : Rule) : rule.kinds.Sublist Kind.all ∧
    ∀ kind, kind ∈ rule.kinds ↔ ∃ matcher, rule.matchers.get? kind = some matcher := by
  refine ⟨List.filter_sublist, fun kind => ?_⟩
  rw [kinds, Matchers.kinds, List.mem_filter, Option.isSome_iff_exists]
  exact and_iff_right (Kind.mem_all kind)

theorem value_of_ofValue? {label : Label} (h : Label.ofValue? given = some label) :
    label.value = given := by
  cases given with
  | text s => cases h; rfl
  | brokenText codes => cases h; rfl
  | kind k => cases h; rfl
  | _ => cases h

/-- A rule that is created has what it is given and nothing else yet. -/
theorem create_eq_ok {code name : Value} {source : Option String} {line : Option Int}
    (h : create code name source line = .ok rule) :
    rule.label.value = code ∧ rule.title.value = name ∧
      rule = ⟨rule.label, rule.title, .empty, source, line, .empty⟩ := by
  unfold create at h
  split at h
  · cases h
  · next label found =>
    split at h
    · cases h
    · split at h
      · cases h
      · next title found' =>
        cases h
        exact ⟨value_of_ofValue? found, value_of_ofValue? found', rfl⟩

/-- A new rule, with whatever tags, keeps its code and its name through all calls, also where some of them
fail. Its tags are those that it had and those of the calls that succeeded; the matcher of a kind is what the
last such call set for it, in whichever way the kind is asked for; and its kinds are those with a matcher, in
their order. A call fails exactly if it is given what `Call.Fails` says, and then the rule is as it was. -/
theorem carryOut_new {code name : Value} {source : Option String} {line : Option Int} {bare : Rule}
    (created : create code name source line = .ok bare) (own : TextSet) (calls : List Call) :
    let past := ({ bare with tags := own }.carryOut calls).1
    let rule := ({ bare with tags := own }.carryOut calls).2
    past.map (·.1) = calls ∧
      (rule.label.value = code ∧ rule.title.value = name) ∧
      (∀ tag, tag ∈ rule.tags ↔
        tag ∈ own ∨ ∃ given, (.addTags given, .ok ()) ∈ past ∧ GivesTag given tag) ∧
      (∀ kind, ∃ matcher, LastSet past kind matcher ∧
        ∀ given, Denotes given kind → rule.matcher given = .ok matcher) ∧
      (rule.kinds.Sublist Kind.all ∧
        ∀ kind, kind ∈ rule.kinds ↔ ∃ matcher, rule.matcher (.kind kind) = .ok (some matcher)) ∧
      ∀ (call : Call) (rule : Rule), ((∃ fault, (call.run rule).1 = .error fault) ↔ call.Fails) ∧
        ∀ fault, (call.run rule).1 = .error fault → (call.run rule).2 = rule := by
  obtain ⟨isCode, isName, whole⟩ := create_eq_ok created
  have empty : bare.matchers = .empty := congrArg matchers whole
  obtain ⟨made, tracked⟩ := @tracks_carryOut { bare with tags := own } empty calls
  have label := (congrArg Label.value tracked.label).trans isCode
  have title := (congrArg Label.value tracked.title).trans isName
  refine ⟨made, ⟨label, title⟩, tracked.tags, fun kind => ?_, ?_,
    fun call rule => ⟨call.exists_fault_iff rule, fun fault => call.run_of_error⟩⟩
  · exact ⟨_, tracked.matchers kind, fun given denotes => matcher_of_denotes denotes _⟩
  · obtain ⟨ordered, each⟩ := kinds_sublist ({ bare with tags := own }.carryOut calls).2
    refine ⟨ordered, fun kind => ?_⟩
    rw [each, matcher_of_denotes (.kind kind)]
    simp only [Except.ok.injEq]

/-- Calls on a rule: a tag that is a number makes the first fail, and the last is given no function. -/
def mixedCalls : List Call :=
  [.addTags (.list [.text "x", .int 3]), .addTags (.text "y"),
    .setMatcher (.text "recipe") (.function "f" .echo), .setMatcher (.kind .recipe) (.function "g" .echo),
    .setMatcher (.text "recipe") (.text "h")]

/-- Only the tag of the second call is added, and the fourth has set the matcher, however one asks for it. -/
theorem carryOut_mixedCalls :
    ∃ bare, create (.text "A") (.text "a") none none = .ok bare ∧
      let rule := ({ bare with tags := .ofList ["w"] }.carryOut mixedCalls).2
      rule.tags.toList = ["w", "y"] ∧
        ∀ given, Denotes given .recipe → rule.matcher given = .ok (some (.callback "g" .echo)) := by
  refine ⟨_, rfl, by decide +kernel, fun given denotes => ?_⟩
  obtain ⟨-, -, -, matchers, -, -⟩ :=
    @carryOut_new (.text "A") (.text "a") none none _ rfl (.ofList ["w"]) mixedCalls
  obtain ⟨matcher, -, answers⟩ := matchers .recipe
  rw [answers given denotes, ← answers (.text "recipe") (.text _)]
  rfl

end CookbookRules.Rule
