import CookbookRules.Value.Mapping

/-!
# Mappings read by name

What a name finds in a mapping, said about the entries themselves: which values are the key of a name,
which value a mapping holds under it, and when no key lies outside some names.
-/

namespace CookbookRules.Value

/-- The values that are the key of a name: the text itself, and a kind of that name. -/
inductive IsKey : Value → String → Prop
  | text (s : String) : IsKey (.text s) s
  | kind (k : Kind) : IsKey (.kind k) k.name

/-- The values that count as a text: a text, a broken one by the text nearest to it, a kind by its
name. -/
inductive IsText : Value → String → Prop
  | text (s : String) : IsText (.text s) s
  | broken (codes : List Nat) : IsText (.brokenText codes) (String.ofList (Text.mend codes))
  | kind (k : Kind) : IsText (.kind k) k.name

/-- A mapping holds a value under a name: that of the first entry whose key is the name. -/
def Holds (v : Value) (name : String) (held : Value) : Prop :=
  ∃ origin before key after, v = map origin (before ++ (key, held) :: after) ∧
    IsKey key name ∧ ∀ entry ∈ before, ¬ IsKey entry.1 name

/-- A mapping of which each key is one of some names. -/
def KeysWithin (v : Value) (names : List String) : Prop :=
  ∃ origin entries, v = map origin entries ∧ ∀ entry ∈ entries, ∃ name ∈ names, IsKey entry.1 name

variable {v key held : Value} {name s : String}

theorem same_text_iff : key.same (text name) = true ↔ IsKey key name := by
  constructor
  · intro h
    cases key with
    | text s =>
        have same : s = name := by simpa [same, asText?] using h
        exact same ▸ .text s
    | kind k =>
        have same : k.name = name := by simpa [same, asText?] using h
        exact same ▸ .kind k
    | brokenText codes => simp [same] at h
    | float x => cases x <;> simp [same, asText?, asInt?] at h
    | strayNan make => cases make <;> simp [same, asText?, asInt?] at h
    | _ => simp [same, asText?, asInt?] at h
  · intro h
    cases h with
    | text s => simp [same, asText?]
    | kind k => simp [same, asText?]

theorem asText?_eq_some_iff : v.asText? = some s ↔ IsText v s := by
  constructor
  · intro h
    cases v with
    | text given => cases h; exact .text _
    | brokenText codes => cases h; exact .broken _
    | kind k => cases h; exact .kind _
    | _ => cases h
  · intro h
    cases h <;> rfl

theorem asText?_eq_none_iff : v.asText? = Option.none ↔ ∀ s, ¬ IsText v s := by
  simp only [Option.eq_none_iff_forall_ne_some, ne_eq, asText?_eq_some_iff]

/-- A value counts as at most one text. -/
theorem IsText.unique {s' : String} (h : IsText v s) (h' : IsText v s') : s = s' :=
  Option.some.inj ((asText?_eq_some_iff.2 h).symm.trans (asText?_eq_some_iff.2 h'))

theorem asText?_isSome_iff : v.asText?.isSome = true ↔ ∃ s, IsText v s := by
  rw [Option.isSome_iff_exists]
  exact exists_congr fun s => asText?_eq_some_iff

theorem isMap_iff : v.isMap = true ↔ ∃ origin entries, v = map origin entries := by
  constructor
  · intro h
    cases v with
    | map origin entries => exact ⟨origin, entries, rfl⟩
    | _ => cases h
  · rintro ⟨origin, entries, rfl⟩
    rfl

theorem lookup_text_eq_some_iff {entries : List (Value × Value)} :
    lookup (text name) entries = some held ↔
      ∃ before key after, entries = before ++ (key, held) :: after ∧
        IsKey key name ∧ ∀ entry ∈ before, ¬ IsKey entry.1 name := by
  simp only [lookup, Option.map_eq_some_iff, List.find?_eq_some_iff_append, same_text_iff,
    Bool.not_eq_true', ← Bool.not_eq_true]
  constructor
  · rintro ⟨⟨key, _⟩, ⟨isKey, before, after, rfl, first⟩, rfl⟩
    exact ⟨before, key, after, rfl, isKey, first⟩
  · rintro ⟨before, key, after, rfl, isKey, first⟩
    exact ⟨(key, held), ⟨isKey, before, after, rfl, first⟩, rfl⟩

/-- Looking up a name in a mapping finds what the mapping holds under it. -/
theorem get?_eq_some_iff : v.get? name = some held ↔ Holds v name held := by
  constructor
  · intro h
    cases v with
    | map origin entries =>
        obtain ⟨before, key, after, rfl, isKey, first⟩ := lookup_text_eq_some_iff.1 h
        exact ⟨origin, before, key, after, rfl, isKey, first⟩
    | _ => cases h
  · rintro ⟨origin, before, key, after, rfl, isKey, first⟩
    exact lookup_text_eq_some_iff.2 ⟨before, key, after, rfl, isKey, first⟩

theorem get?_isSome_iff : (v.get? name).isSome = true ↔ ∃ held, Holds v name held := by
  rw [Option.isSome_iff_exists]
  exact exists_congr fun held => get?_eq_some_iff

theorem get?_eq_none_iff : v.get? name = Option.none ↔ ∀ held, ¬ Holds v name held := by
  simp only [Option.eq_none_iff_forall_ne_some, ne_eq, get?_eq_some_iff]

/-- A name finds at most one value. -/
theorem Holds.unique {other : Value} (h : Holds v name held) (h' : Holds v name other) :
    held = other :=
  Option.some.inj ((get?_eq_some_iff.2 h).symm.trans (get?_eq_some_iff.2 h'))

theorem keysOutside_eq_nil_iff {origin : Origin} {entries : List (Value × Value)}
    {names : List String} :
    (map origin entries).keysOutside names = [] ↔
      ∀ entry ∈ entries, ∃ name ∈ names, IsKey entry.1 name := by
  simp only [keysOutside, entries?, Option.getD_some, List.filter_eq_nil_iff, List.mem_map,
    Bool.not_eq_true', Bool.not_eq_false, List.any_eq_true, same_text_iff]
  constructor
  · intro h entry member
    exact h entry.1 ⟨entry, member, rfl⟩
  · rintro h _ ⟨entry, member, rfl⟩
    exact h entry member

/-- A mapping without keys outside some names is one whose keys are all within them. -/
theorem keysWithin_iff {names : List String} :
    KeysWithin v names ↔ v.isMap = true ∧ v.keysOutside names = [] := by
  constructor
  · rintro ⟨origin, entries, rfl, within⟩
    exact ⟨rfl, keysOutside_eq_nil_iff.2 within⟩
  · rintro ⟨mapping, none⟩
    obtain ⟨origin, entries, rfl⟩ := isMap_iff.1 mapping
    exact ⟨origin, entries, rfl, keysOutside_eq_nil_iff.1 none⟩

end CookbookRules.Value
