import CookbookRules.Finding
import CookbookRules.Proofs.Outcome
import CookbookRules.Proofs.Value.Keys

/-!
# The meaning of returned values

A value that a matcher returns is refused, or it has a meaning as a finding. `Refuses` says which values are
refused and how; `Means` says what is found otherwise: something exactly if the value counts as true, with the
mappings of a sequence one by one, and a finding that is read again stays what it is.
-/

namespace CookbookRules.Finding

open Outcome

/-- A list or a tuple, with its items. -/
inductive IsSequence : Value → List Value → Prop
  | list (items : List Value) : IsSequence (.list items) items
  | tuple (items : List Value) : IsSequence (.tuple items) items

/-- The values that can have a meaning: findings, nothing, booleans, mappings and sequences. -/
inductive IsSupported : Value → Prop
  | found (metadata : Value) : IsSupported (.found metadata)
  | nothingFound : IsSupported .nothingFound
  | none : IsSupported .none
  | bool (b : Bool) : IsSupported (.bool b)
  | map (origin : Origin) (entries : List (Value × Value)) : IsSupported (.map origin entries)
  | sequence {v : Value} {items : List Value} (row : IsSequence v items) : IsSupported v

/-- How a value is refused: it is none of these, or a sequence with an item that is no mapping. -/
inductive Refuses (v : Value) : Fault → Prop
  | unsupported (other : ¬ IsSupported v) : Refuses v (.unsupported v.typeName)
  | stray {items : List Value} {item : Value} (row : IsSequence v items) (member : item ∈ items)
      (other : item.isMap = false) : Refuses v .itemNotMapping

/-- The same mapping, but without a line. -/
def IsCopy (v copy : Value) : Prop :=
  ∃ origin entries, v = .map origin entries ∧ copy = .map .plain entries

/-- Mappings are found under one key, each by its copy. -/
def FindsAll (items : List Value) (finding : Finding) : Prop :=
  ∃ copies, finding = .found (.map .plain [(.text "matches", .list copies)]) ∧
    List.Forall₂ IsCopy items copies

/-- What a value means: something is found exactly if the value counts as true. The entries of a mapping are
the metadata, the mappings of a sequence are found under one key, and the finding read again is the same. -/
structure Means (v : Value) (finding : Finding) : Prop where
  isFound_iff : finding.isFound = true ↔ v.isTruthy = true
  mapping : ∀ origin entries, v = .map origin entries → entries ≠ [] →
    finding = .found (.map .plain entries)
  sequence : ∀ items, IsSequence v items → items ≠ [] → FindsAll items finding
  again : ofValue finding.toValue = .ok finding

variable {v item : Value} {items : List Value} {finding : Finding} {fault : Fault}

/-! ## Sequences -/

theorem IsSequence.ofValue_eq (h : IsSequence v items) : ofValue v = ofItems items := by
  cases h <;> rfl

theorem IsSequence.unique {others : List Value} (h : IsSequence v items) (h' : IsSequence v others) :
    others = items := by
  cases h <;> cases h' <;> rfl

theorem IsSequence.isTruthy_iff (h : IsSequence v items) : v.isTruthy = true ↔ items ≠ [] := by
  cases h <;> simp [Value.isTruthy]

theorem exists_entries?_iff : (∃ entries, item.entries? = some entries) ↔ item.isMap = true := by
  rw [Value.isMap, Option.isSome_iff_exists]

theorem isCopy_withoutLine {entries : List (Value × Value)} (h : item.entries? = some entries) :
    IsCopy item (withoutLine entries) := by
  obtain ⟨origin, held, rfl⟩ := Value.isMap_iff.1 (exists_entries?_iff.1 ⟨entries, h⟩)
  have same : held = entries := Option.some.inj h
  exact ⟨origin, entries, by rw [same], rfl⟩

/-- Items that are mappings are found, unless there are none. -/
theorem ofItems_of_mappings (each : ∀ item ∈ items, item.isMap = true) :
    ∃ finding, ofItems items = .ok finding ∧ (finding.isFound = true ↔ items ≠ []) ∧
      (items ≠ [] → FindsAll items finding) := by
  obtain ⟨all, read⟩ := exists_mapM_eq_some_iff.2 fun item member => exists_entries?_iff.2 (each item member)
  unfold ofItems
  by_cases none : items = []
  · subst none
    exact ⟨.nothing, rfl, by simp [isFound]⟩
  · have filled : items.isEmpty = false := by simpa using none
    refine ⟨.found (withoutLine [(.text "matches", .list (all.map withoutLine))]), ?_, ?_, fun _ => ?_⟩
    · simp only [filled, read, Bool.false_eq_true, if_false]
    · simp [isFound, none]
    · refine ⟨_, rfl, ?_⟩
      rw [List.forall₂_map_right_iff]
      exact (mapM_eq_some_iff_forall₂.1 read).imp fun _ _ => isCopy_withoutLine

/-- Among other items one is no mapping, and they are refused. -/
theorem ofItems_of_stray (member : item ∈ items) (other : item.isMap = false) :
    ofItems items = .error .itemNotMapping := by
  have filled : items.isEmpty = false := List.isEmpty_eq_false_iff.2 (List.ne_nil_of_mem member)
  have unread : items.mapM Value.entries? = none := by
    rw [Option.eq_none_iff_forall_ne_some]
    intro all read
    have mapping := exists_entries?_iff.1 (exists_mapM_eq_some_iff.1 ⟨all, read⟩ item member)
    rw [other] at mapping
    cases mapping
  simp only [ofItems, filled, unread, Bool.false_eq_true, if_false]

/-! ## Values -/

theorem ofValue_of_unsupported (other : ¬ IsSupported v) : ofValue v = .error (.unsupported v.typeName) := by
  cases v with
  | found metadata => exact absurd (.found metadata) other
  | nothingFound => exact absurd .nothingFound other
  | none => exact absurd .none other
  | bool b => exact absurd (.bool b) other
  | map origin entries => exact absurd (.map origin entries) other
  | list items => exact absurd (.sequence (.list items)) other
  | tuple items => exact absurd (.sequence (.tuple items)) other
  | _ => rfl

/-- What is found of a value that is no sequence is told by whether the value counts as true. -/
theorem Means.single (apart : ∀ items, ¬ IsSequence v items) (counts : finding.isFound = v.isTruthy)
    (mapping : ∀ origin entries, v = .map origin entries → entries ≠ [] →
      finding = .found (.map .plain entries)) : Means v finding where
  isFound_iff := by rw [counts]
  mapping := mapping
  sequence := fun items row => absurd row (apart items)
  again := ofValue_toValue finding

/-- A supported value has a meaning unless it is a sequence with an item that is no mapping. -/
theorem IsSupported.ofValue_eq_ok (h : IsSupported v)
    (each : ∀ items, IsSequence v items → ∀ item ∈ items, item.isMap = true) :
    ∃ finding, ofValue v = .ok finding ∧ Means v finding := by
  cases h with
  | found metadata => exact ⟨.found metadata, rfl, .single nofun rfl nofun⟩
  | nothingFound => exact ⟨.nothing, rfl, .single nofun rfl nofun⟩
  | none => exact ⟨.nothing, rfl, .single nofun rfl nofun⟩
  | bool b =>
      cases b with
      | false => exact ⟨.nothing, rfl, .single nofun rfl nofun⟩
      | true => exact ⟨.found (withoutLine []), rfl, .single nofun rfl nofun⟩
  | map origin entries =>
      refine ⟨if entries.isEmpty then .nothing else .found (withoutLine entries), rfl, .single nofun ?_ ?_⟩
      · cases entries <;> rfl
      · rintro _ _ ⟨⟩ filled
        rw [if_neg (by simpa using filled)]
        rfl
  | @sequence _ items row =>
      obtain ⟨finding, read, counts, finds⟩ := ofItems_of_mappings (each items row)
      refine ⟨finding, row.ofValue_eq.trans read, counts.trans row.isTruthy_iff.symm, ?_, ?_,
        ofValue_toValue finding⟩
      · rintro origin entries rfl
        cases row
      · intro others row' filled
        cases row.unique row'
        exact finds filled

/-- Every value has a meaning or is refused. -/
theorem ofValue_cases (v : Value) :
    (∃ finding, ofValue v = .ok finding ∧ Means v finding) ∧ (∀ fault, ¬ Refuses v fault) ∨
      ∃ fault, ofValue v = .error fault ∧ ∀ other, Refuses v other ↔ other = fault := by
  by_cases supported : IsSupported v
  · by_cases strays : ∃ items, IsSequence v items ∧ ∃ item ∈ items, item.isMap = false
    · obtain ⟨items, row, item, member, other⟩ := strays
      refine .inr ⟨.itemNotMapping, row.ofValue_eq.trans (ofItems_of_stray member other), fun fault => ?_⟩
      constructor
      · rintro (unsupported | -)
        · exact absurd supported unsupported
        · rfl
      · rintro rfl
        exact .stray row member other
    · have each : ∀ items, IsSequence v items → ∀ item ∈ items, item.isMap = true := by
        intro items row item member
        by_contra other
        exact strays ⟨items, row, item, member, by simpa using other⟩
      refine .inl ⟨supported.ofValue_eq_ok each, fun fault refused => ?_⟩
      rcases refused with unsupported | ⟨row, member, other⟩
      · exact unsupported supported
      · exact absurd (each _ row _ member) (by simp [other])
  · refine .inr ⟨_, ofValue_of_unsupported supported, fun fault => ?_⟩
    constructor
    · rintro (- | ⟨row, -, -⟩)
      · rfl
      · exact absurd (.sequence row) supported
    · rintro rfl
      exact .unsupported supported

/-- A value is refused exactly in these ways. -/
theorem ofValue_eq_error_iff : ofValue v = .error fault ↔ Refuses v fault := by
  rcases ofValue_cases v with ⟨⟨finding, read, -⟩, none⟩ | ⟨own, refused, only⟩
  · rw [read]
    exact iff_of_false nofun (none fault)
  · rw [refused, only, Except.error.injEq, eq_comm]

/-- What is read of a value is what the value means. -/
theorem means_of_ofValue (h : ofValue v = .ok finding) : Means v finding := by
  rcases ofValue_cases v with ⟨⟨other, read, means⟩, -⟩ | ⟨fault, refused, -⟩
  · cases h.symm.trans read
    exact means
  · cases h.symm.trans refused

end CookbookRules.Finding
