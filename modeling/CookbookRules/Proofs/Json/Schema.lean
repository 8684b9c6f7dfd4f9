import CookbookRules.Json
import Mathlib.Data.List.Forall2

/-!
# Documents that conform to schemas

A schema is a document itself: an object of keywords, each of which asks something of the documents that
conform. `Accepts` gives a meaning to the keywords of the schema of listings, each on its own as the language
of schemas defines them: what a keyword asks only concerns documents of the type that it is for. A keyword
without a meaning here is met by nothing.
-/

namespace CookbookRules.Json

/-! ## Parts of documents -/

/-- The names of the types that a document is of. -/
def typeNames : Json → List String
  | null => ["null"]
  | bool _ => ["boolean"]
  | int _ => ["integer", "number"]
  | text _ | brokenText _ => ["string"]
  | list _ => ["array"]
  | object _ => ["object"]

/-- The number of characters of a text, where a half of a surrogate pair counts as one. -/
def textLength? : Json → Option Nat
  | text s => some s.length
  | brokenText codes => some codes.length
  | _ => none

/-- The fields of an object; another document has none. -/
def fields : Json → List (String × Json)
  | object fields => fields
  | _ => []

/-- The fields that the keywords of a schema name. -/
def namedFields (keywords : List (String × Json)) : List String :=
  match keywords.lookup "properties" with
  | some (object fields) => fields.map (·.1)
  | _ => []

/-! ## Keywords -/

/-- What a keyword asks of a document. Beside the value of the keyword it depends on the fields that its
neighbours name, on what conforms to the value as a schema, and on whose fields conform to the value as an
object of schemas. -/
def Meets (named : List String) (conforms fieldsConform : Json → Prop) (v : Json) :
    String → Json → Prop
  | "$schema", _ | "title", _ => True
  | "type", text name => name ∈ v.typeNames
  | "type", list names => ∃ name ∈ v.typeNames, text name ∈ names
  | "const", constant => v = constant
  | "enum", list values => v ∈ values
  | "required", list names =>
      ∀ fields, v = object fields → ∀ name, text name ∈ names → ∃ inner, (name, inner) ∈ fields
  | "properties", _ => fieldsConform v
  | "additionalProperties", _ => ∀ field ∈ v.fields, field.1 ∉ named → conforms field.2
  | "items", _ => ∀ items, v = list items → ∀ item ∈ items, conforms item
  | "uniqueItems", bool asked => asked = true → ∀ items, v = list items → items.Pairwise (· ≠ ·)
  | "minLength", int least => ∀ length, v.textLength? = some length → least ≤ length
  | "minimum", int least => ∀ n, v = int n → least ≤ n
  | _, _ => False

mutual

/-- A document conforms to a schema. A truth value as a schema takes everything or nothing. -/
def Accepts : Json → Json → Prop
  | bool b, _ => b = true
  | object keywords, v => MeetsAll (namedFields keywords) keywords v
  | _, _ => False

/-- A document meets keywords. -/
def MeetsAll (named : List String) : List (String × Json) → Json → Prop
  | [], _ => True
  | (keyword, value) :: rest, v =>
    Meets named (Accepts value) (FieldsAccept value) v keyword value ∧ MeetsAll named rest v

/-- The fields of a document conform to the schemas for them in an object. -/
def FieldsAccept : Json → Json → Prop
  | object schemas, v => EachAccepts schemas v
  | _, _ => False

/-- The fields of a document conform to schemas by their names. -/
def EachAccepts : List (String × Json) → Json → Prop
  | [], _ => True
  | (name, schema) :: rest, v =>
    (∀ field ∈ v.fields, field.1 = name → Accepts schema field.2) ∧ EachAccepts rest v

end

variable {schemas given : List (String × Json)} {v : Json}

theorem eachAccepts_iff : EachAccepts schemas v ↔
    ∀ schema ∈ schemas, ∀ field ∈ v.fields, field.1 = schema.1 → Accepts schema.2 field.2 := by
  induction schemas with
  | nil => simp [EachAccepts]
  | cons schema rest ih => rw [EachAccepts, ih, List.forall_mem_cons]

/-- The fields of an object with the very names of some schemas conform to them one by one. -/
theorem eachAccepts_iff_forall₂ (same : given.map (·.1) = schemas.map (·.1))
    (distinct : (schemas.map (·.1)).Nodup) :
    EachAccepts schemas (object given) ↔
      List.Forall₂ (fun schema field => Accepts schema.2 field.2) schemas given := by
  induction schemas generalizing given with
  | nil =>
      rw [List.map_eq_nil_iff.1 same]
      simp [EachAccepts]
  | cons schema rest ih =>
      obtain ⟨field, others, rfl, isName, same⟩ := List.map_eq_cons_iff.1 same
      dsimp only at isName
      rw [List.map_cons, List.nodup_cons] at distinct
      -- The first field is for none of the schemas behind the first, and no other field is for that one.
      have unnamed : ∀ other ∈ others, other.1 ≠ schema.1 := by
        intro other member again
        rw [← again, ← same] at distinct
        exact distinct.1 (List.mem_map_of_mem member)
      have elsewhere : EachAccepts rest (object (field :: others)) ↔ EachAccepts rest (object others) := by
        simp only [eachAccepts_iff, Json.fields, List.forall_mem_cons]
        refine forall₂_congr fun later member => and_iff_right fun again => ?_
        exact absurd (isName.symm.trans again ▸ List.mem_map_of_mem member) distinct.1
      rw [EachAccepts, List.forall₂_cons, elsewhere, ih same distinct.2]
      refine and_congr_left fun _ => ?_
      simp only [Json.fields, List.forall_mem_cons, isName, forall_const]
      exact and_iff_left fun other member again => absurd again (unnamed other member)

end CookbookRules.Json
