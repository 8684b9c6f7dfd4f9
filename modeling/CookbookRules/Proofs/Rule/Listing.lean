import CookbookRules.Proofs.Json.Schema
import CookbookRules.Rule.Listing

/-!
# Listings and their schema

What the schema of listings asks of the document of a list of rules. Most of it holds of all rules, since the
tags are a set in order and the kinds are some of those that there are. What is left depends on the rule: its
code is not empty, and its line is a line.
-/

namespace CookbookRules.Listing

open Json

variable {rule : Rule} {rules : List Rule} {items : List Json} {inner v : Json} {name : String}
  {fields given : List (String × Json)}

/-! ## Kinds of schemas -/

theorem namedFields_closedObject : namedFields (closedObject fields) = fields.map (·.1) := by
  simp [namedFields, closedObject, List.lookup_cons]

/-- An object with the very fields of a closed schema conforms exactly if they do. -/
theorem accepts_closedObject (same : given.map (·.1) = fields.map (·.1))
    (distinct : (fields.map (·.1)).Nodup) :
    Accepts (.object (closedObject fields)) (.object given) ↔
      List.Forall₂ (fun schema field => Accepts schema.2 field.2) fields given := by
  rw [Accepts, namedFields_closedObject, ← eachAccepts_iff_forall₂ same distinct]
  have closed : ∀ field ∈ given, field.1 ∉ fields.map (·.1) → Accepts (.bool false) field.2 := by
    intro field member stray
    rw [← same] at stray
    exact absurd (List.mem_map_of_mem member) stray
  have required : ∀ others, Json.object given = .object others → ∀ name,
      Json.text name ∈ (fields.map fun field => Json.text field.1) → ∃ inner, (name, inner) ∈ others := by
    rintro _ ⟨⟩ name asked
    obtain ⟨field, member, ⟨⟩⟩ := List.mem_map.1 asked
    have there : field.1 ∈ given.map (·.1) := same ▸ List.mem_map_of_mem member
    obtain ⟨⟨_, inner⟩, held, rfl⟩ := List.mem_map.1 there
    exact ⟨inner, held⟩
  simp only [closedObject, MeetsAll, Meets, typeNames, Json.fields, FieldsAccept, List.mem_singleton,
    true_and, and_true]
  exact ⟨fun h => h.2.2, fun h => ⟨closed, required, h⟩⟩

/-- A list conforms to a schema without repetitions exactly if its items conform and are all different. -/
theorem accepts_distinctList : Accepts (distinctList inner) (.list items) ↔
    (∀ item ∈ items, Accepts inner item) ∧ items.Pairwise (· ≠ ·) := by
  simp [distinctList, typed, Accepts, MeetsAll, Meets, typeNames]

/-- What is only said about a schema asks nothing. -/
theorem accepts_annotated {reference title : Json} {keywords : List (String × Json)} :
    Accepts (.object ([("$schema", reference), ("title", title)] ++ keywords)) v ↔
      Accepts (.object keywords) v := by
  simp [Accepts, MeetsAll, Meets, namedFields, List.lookup_cons]

theorem accepts_typed : Accepts (typed name []) v ↔ name ∈ v.typeNames := by
  simp [typed, Accepts, MeetsAll, Meets]

theorem accepts_orNull : Accepts (orNull name []) v ↔ name ∈ v.typeNames ∨ "null" ∈ v.typeNames := by
  simp [orNull, Accepts, MeetsAll, Meets, and_or_left, exists_or]

/-! ## Rules -/

theorem typeNames_labelText (label : Label) : (labelText label).typeNames = ["string"] := by
  cases label <;> rfl

theorem textLength?_labelText (label : Label) : (labelText label).textLength? = some label.length := by
  cases label <;> rfl

theorem accepts_code {label : Label} :
    Accepts (typed "string" [("minLength", .int 1)]) (labelText label) ↔ 1 ≤ label.length := by
  simp only [typed, Accepts, MeetsAll, Meets, typeNames_labelText,
    textLength?_labelText, List.mem_singleton, Option.some.injEq, forall_eq', true_and, and_true]
  exact Int.ofNat_le

theorem accepts_line {line : Option Int} :
    Accepts (orNull "integer" [("minimum", .int 1)]) ((line.map Json.int).getD .null) ↔
      ∀ n, line = some n → 1 ≤ n := by
  cases line <;> simp [orNull, Accepts, MeetsAll, Meets, typeNames]

theorem accepts_source (source : Option String) :
    Accepts (orNull "string" []) ((source.map Json.text).getD .null) := by
  cases source <;> simp [accepts_orNull, typeNames]

theorem accepts_tags (tags : TextSet) :
    Accepts (distinctList (typed "string" [])) (.list (tags.toList.map .text)) := by
  rw [accepts_distinctList]
  constructor
  · intro item member
    obtain ⟨tag, -, rfl⟩ := List.mem_map.1 member
    simp [accepts_typed, typeNames]
  · refine List.pairwise_map.2 (tags.ascending.imp fun less same => ?_)
    cases same
    exact String.lt_irrefl _ less

theorem nodup_kinds (rule : Rule) : rule.kinds.Nodup :=
  List.Pairwise.filter _ (by decide)

theorem accepts_kinds (rule : Rule) :
    Accepts (distinctList (.object [("enum", .list (Kind.all.map fun kind => .text kind.name))]))
      (.list (rule.kinds.map fun kind => .text kind.name)) := by
  rw [accepts_distinctList]
  constructor
  · intro item member
    obtain ⟨kind, -, rfl⟩ := List.mem_map.1 member
    simp only [Accepts, MeetsAll, Meets, and_true]
    exact List.mem_map_of_mem (Kind.mem_all kind)
  · refine List.pairwise_map.2 ((nodup_kinds rule).imp fun different same => different ?_)
    have names := congrArg Kind.ofName? (Json.text.inj same)
    simpa using names

/-- A rule is listed as the schema asks exactly if its code is not empty and its line is a line. -/
theorem accepts_entry : Accepts entrySchema (entry rule) ↔
    1 ≤ rule.label.length ∧ ∀ n, rule.line = some n → 1 ≤ n := by
  refine (accepts_closedObject (by rfl) (by decide)).trans ?_
  simp [accepts_code, accepts_line, accepts_source, accepts_tags, accepts_kinds, accepts_typed,
    typeNames_labelText]

/-- The document of some rules conforms to the schema exactly if each of them is listed as it asks. -/
theorem accepts_document : Accepts schema (document rules) ↔
    ∀ rule ∈ rules, 1 ≤ rule.label.length ∧ ∀ n, rule.line = some n → 1 ≤ n := by
  refine accepts_annotated.trans ?_
  refine (accepts_closedObject (by rfl) (by decide)).trans ?_
  have listed : Accepts (typed "array" [("items", entrySchema)]) (.list (rules.map entry)) ↔
      ∀ rule ∈ rules, Accepts entrySchema (entry rule) := by
    simp [typed, Accepts, MeetsAll, Meets, typeNames]
  have version : Accepts (.object [("const", .text schemaVersion)]) (.text schemaVersion) := by
    simp [Accepts, MeetsAll, Meets]
  simp only [List.forall₂_cons, List.Forall₂.nil, listed, version, accepts_entry, true_and, and_true]

/-! ## The form of a listing -/

/-- What a rule is listed as: an object of its code, its name, its tags in order and each once, the kinds
that it has matchers for in the order of the kinds, the file and the line. -/
inductive IsListed (rule : Rule) : Json → Prop
  | object {tags : List String} {kinds : List Kind} {source line : Json}
      (code : ∃ length, (labelText rule.label).textLength? = some length ∧ 1 ≤ length)
      (title : (labelText rule.title).typeNames = ["string"])
      (ascending : tags.Pairwise (· < ·)) (own : ∀ tag, tag ∈ tags ↔ tag ∈ rule.tags)
      (ordered : kinds.Sublist Kind.all)
      (matched : ∀ kind, kind ∈ kinds ↔ ∃ matcher, rule.matchers.get? kind = some matcher)
      (file : rule.source = none ∧ source = .null ∨ ∃ path, rule.source = some path ∧ source = .text path)
      (place : rule.line = none ∧ line = .null ∨ ∃ n, rule.line = some n ∧ line = .int n ∧ 1 ≤ n) :
      IsListed rule (.object
        [("code", labelText rule.label), ("name", labelText rule.title), ("tags", .list (tags.map .text)),
          ("kinds", .list (kinds.map fun kind => .text kind.name)), ("source", source), ("line", line)])

theorem isListed_entry (code : 1 ≤ rule.label.length) (place : ∀ n, rule.line = some n → 1 ≤ n) :
    IsListed rule (entry rule) := by
  refine .object ⟨_, textLength?_labelText rule.label, code⟩ (typeNames_labelText rule.title)
    rule.tags.ascending (fun _ => Iff.rfl) List.filter_sublist (fun kind => ?_) ?_ ?_
  · rw [Rule.kinds, Matchers.kinds, List.mem_filter, and_iff_right (Kind.mem_all kind),
      Option.isSome_iff_exists]
  · cases rule.source with
    | none => exact .inl ⟨rfl, rfl⟩
    | some path => exact .inr ⟨path, rfl, rfl⟩
  · cases known : rule.line with
    | none => exact .inl ⟨rfl, rfl⟩
    | some n => exact .inr ⟨n, rfl, rfl, place n known⟩

end CookbookRules.Listing
