import CookbookRules.Proofs.Value.Keys
import CookbookRules.Value.SetOrder

/-!
# Values whose mappings know their lines

A document that was read from a text is made of mappings that all know on which of its lines they start.
`IsLocated` says so of a value at every depth; what a mapping holds and what a list has as its items is
located as the whole is. The keys of such a mapping and the items of a set are atoms, so putting entries
and items in order leaves them what they are. `IsData` says of a value that nothing of a program is in it.
-/

namespace CookbookRules.Value

/-- Whether a value has no other values in it. -/
def isAtom : Value → Bool
  | list _ | tuple _ | set _ | iterator _ | map .. | function .. | found _ => false
  | _ => true

/-- Each mapping in a value, the value itself included, knows its line, which is one of the first `last`
lines. -/
inductive IsLocated (last : Nat) : Value → Prop
  | atom {v : Value} (bare : v.isAtom = true) : IsLocated last v
  | list {items : List Value} (each : ∀ item ∈ items, IsLocated last item) :
      IsLocated last (list items)
  | tuple {items : List Value} (each : ∀ item ∈ items, IsLocated last item) :
      IsLocated last (tuple items)
  | set {items : List Value} (each : ∀ item ∈ items, IsLocated last item) :
      IsLocated last (set items)
  | map {line : Nat} {entries : List (Value × Value)} (first : 1 ≤ line) (within : line ≤ last)
      (keys : ∀ entry ∈ entries, IsLocated last entry.1)
      (values : ∀ entry ∈ entries, IsLocated last entry.2) :
      IsLocated last (map (.located (some line)) entries)

variable {last : Nat} {v inner : Value} {name : String} {items : List Value}

/-- A located mapping knows its line. -/
theorem IsLocated.exists_line (h : IsLocated last v) (mapping : v.isMap = true) :
    ∃ line : Nat, v.line? = some (line : Int) ∧ 1 ≤ line ∧ line ≤ last := by
  cases h with
  | atom bare =>
      obtain ⟨origin, entries, rfl⟩ := isMap_iff.1 mapping
      cases bare
  | @map line entries first within keys values => exact ⟨line, rfl, first, within⟩
  | _ => cases mapping

/-- What a located mapping holds is located. -/
theorem IsLocated.of_holds (h : IsLocated last v) (holds : v.Holds name inner) :
    IsLocated last inner := by
  obtain ⟨origin, before, key, after, rfl, -⟩ := holds
  cases h with
  | atom bare => cases bare
  | map first within keys values => exact values (key, inner) (by simp)

/-- The items of a located list are located. -/
theorem IsLocated.of_mem (h : IsLocated last (.list items)) (member : inner ∈ items) :
    IsLocated last inner := by
  cases h with
  | atom bare => cases bare
  | list each => exact each inner member

/-! ## Data -/

/-- Whether a value is one that a text can stand for alone: an atom that is no part of a program. -/
def isScalar : Value → Bool
  | kind _ | nothingFound => false
  | v => v.isAtom

theorem isAtom_of_isScalar (h : v.isScalar = true) : v.isAtom = true := by
  cases v with
  | kind k => cases h
  | nothingFound => cases h
  | _ => exact h

/-- A value that is made of such values alone. -/
inductive IsData : Value → Prop
  | scalar {v : Value} (bare : v.isScalar = true) : IsData v
  | list {items : List Value} (each : ∀ item ∈ items, IsData item) : IsData (list items)
  | tuple {items : List Value} (each : ∀ item ∈ items, IsData item) : IsData (tuple items)
  | set {items : List Value} (each : ∀ item ∈ items, IsData item) : IsData (set items)
  | map {origin : Origin} {entries : List (Value × Value)} (keys : ∀ entry ∈ entries, IsData entry.1)
      (values : ∀ entry ∈ entries, IsData entry.2) : IsData (map origin entries)

theorem IsData.of_holds (h : IsData v) (holds : v.Holds name inner) : IsData inner := by
  obtain ⟨origin, before, key, after, rfl, -⟩ := holds
  cases h with
  | scalar bare => cases bare
  | map keys values => exact values (key, inner) (by simp)

theorem IsData.of_mem (h : IsData (.list items)) (member : inner ∈ items) : IsData inner := by
  cases h with
  | scalar bare => cases bare
  | list each => exact each inner member

/-! ## Entries and items in order -/

variable {α : Type} {key item : Value} {value : α} {entries : List (Value × α)} {P : Value → Prop}
  {Q : α → Prop}

/-- Keys and values of two kinds stay of these kinds when one more entry is put among them. -/
theorem forall_mem_insert (isKey : P key) (isValue : Q value)
    (each : ∀ entry ∈ entries, P entry.1 ∧ Q entry.2) :
    ∀ entry ∈ insert key value entries, P entry.1 ∧ Q entry.2 := by
  induction entries with
  | nil => exact List.forall_mem_singleton.2 ⟨isKey, isValue⟩
  | cons entry rest ih =>
      rw [List.forall_mem_cons] at each
      rw [insert]
      split
      · exact List.forall_mem_cons.2 ⟨⟨each.1.1, isValue⟩, each.2⟩
      · exact List.forall_mem_cons.2 ⟨each.1, ih each.2⟩

theorem forall_mem_ofEntries (each : ∀ entry ∈ entries, P entry.1 ∧ Q entry.2) :
    ∀ entry ∈ ofEntries entries, P entry.1 ∧ Q entry.2 := by
  refine List.foldlRecOn (motive := fun built : List (Value × α) => ∀ entry ∈ built, P entry.1 ∧ Q entry.2)
    entries _ (List.forall_mem_nil _) ?_
  intro built kept entry member
  exact forall_mem_insert (each entry member).1 (each entry member).2 kept

theorem forall_mem_ofItems (each : ∀ item ∈ items, P item) : ∀ item ∈ ofItems items, P item := by
  refine List.foldlRecOn (motive := fun built => ∀ item ∈ built, P item) items _
    (List.forall_mem_nil _) ?_
  intro built kept item member
  split
  · exact kept
  · exact List.forall_mem_append.2 ⟨kept, List.forall_mem_singleton.2 (each item member)⟩

/-- The items that have a seat are of a kind. -/
def SeatTable.Seats (P : Value → Prop) (table : SeatTable) : Prop :=
  ∀ entry ∈ table.seated, P entry.2

namespace SeatTable

variable {table : SeatTable}

theorem seats_empty (needed : Nat) : (empty needed).Seats P :=
  List.forall_mem_nil _

theorem Seats.seat (h : table.Seats P) (new : P item) : (table.seat item).Seats P :=
  List.forall_mem_cons.2 ⟨new, h⟩

theorem Seats.of_mem (h : table.Seats P) (member : item ∈ table.items) : P item := by
  obtain ⟨entry, seated, rfl⟩ := List.mem_map.1 member
  exact h entry (List.mem_mergeSort.1 seated)

theorem Seats.add (h : table.Seats P) (new : P item) : (table.add item).Seats P := by
  have next := h.seat new
  unfold SeatTable.add
  dsimp only
  split
  · exact next
  · apply List.foldlRecOn (table.seat item).items
    · exact seats_empty _
    · intro wider seats other member
      exact seats.seat (next.of_mem member)

end SeatTable

theorem forall_mem_setItems (expected : Nat) (each : ∀ item ∈ items, P item) :
    ∀ item ∈ setItems expected items, P item := by
  have distinct := forall_mem_ofItems each
  unfold setItems
  dsimp only
  split
  · have seats : ((ofItems items).foldl SeatTable.add
        (SeatTable.empty (if expected < 5 then 0 else 2 * expected))).Seats P := by
      apply List.foldlRecOn (ofItems items)
      · exact SeatTable.seats_empty _
      · intro table seats item member
        exact seats.add (distinct item member)
    exact fun item => seats.of_mem
  · exact distinct

end CookbookRules.Value
