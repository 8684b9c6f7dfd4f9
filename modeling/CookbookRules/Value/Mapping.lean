import CookbookRules.Value.Basic

/-!
# Equality of keys, and mappings

Keys of a mapping are equal across number types: one, true and 1.0 are the same key, and a kind is the
text of its name. `insert` keeps the place of the first of two equal keys and the value of the last.
-/

namespace CookbookRules.Value

/-- A number's value where a boolean counts as zero or one. -/
def asInt? : Value → Option Int
  | bool b => some (if b then 1 else 0)
  | int n => some n
  | _ => Option.none

mutual

/-- Whether two values are the same key. Values that no mapping can have as a key are never the same. -/
def same : Value → Value → Bool
  | none, none => true
  | bytes a, bytes b => a == b
  | date a, date b => a == b
  | moment a, moment b => a.same b
  | float .nan, float .nan => true
  | strayNan (some m), strayNan (some n) => m == n
  | float a, float b => a.numEq b
  | tuple a, tuple b => sameAll a b
  | brokenText a, brokenText b => a == b
  | brokenText _, _ => false
  | _, brokenText _ => false
  | a, b =>
    match a.asText?, b.asText?, a.asInt?, b.asInt?, a, b with
    | some s, some t, _, _, _, _ => s == t
    | _, _, some m, some n, _, _ => m == n
    | _, _, some m, _, _, float x => x.isInt m
    | _, _, _, some n, float x, _ => x.isInt n
    | _, _, _, _, _, _ => false

/-- Whether two rows of values are the same, item by item. -/
def sameAll : List Value → List Value → Bool
  | [], [] => true
  | a :: as, b :: bs => same a b && sameAll as bs
  | _, _ => false

end

/-- The value of a key. -/
def lookup {α : Type} (key : Value) (entries : List (Value × α)) : Option α :=
  (entries.find? fun entry => entry.1.same key).map (·.2)

/-- The value of a text key in a mapping; other values have no keys. -/
def get? (name : String) (v : Value) : Option Value :=
  v.entries?.bind (lookup (text name))

/-- Gives a key a value: in its place if the key is there, else at the end. -/
def insert {α : Type} (key : Value) (value : α) : List (Value × α) → List (Value × α)
  | [] => [(key, value)]
  | entry :: rest =>
    if entry.1.same key then (entry.1, value) :: rest else entry :: insert key value rest

/-- The entries of a mapping that is given key by key. -/
def ofEntries {α : Type} (entries : List (Value × α)) : List (Value × α) :=
  entries.foldl (fun built entry => insert entry.1 entry.2 built) []

/-- The items of a set that is given item by item. -/
def ofItems (items : List Value) : List Value :=
  items.foldl (fun built item => if built.any (·.same item) then built else built ++ [item]) []

/-- The values of a mapping's keys that no name of a list equals, in order. -/
def keysOutside (names : List String) (v : Value) : List Value :=
  ((v.entries?.getD []).map (·.1)).filter fun key => !names.any fun name => key.same (text name)

/-- Whether a value is one: the integer or the floating point number, not the boolean. -/
def isOne : Value → Bool
  | int n => n == 1
  | float x => x.isInt 1
  | _ => false

mutual

/-- The first part of a value that keeps it from being a key or an item of a set: a list, a set or a
mapping. -/
def unhashable? : Value → Option Value
  | list items => some (list items)
  | set items => some (set items)
  | map origin entries => some (map origin entries)
  | tuple items => unhashableIn? items
  | found metadata => unhashable? metadata
  | _ => Option.none

/-- The first such part of some items. -/
def unhashableIn? : List Value → Option Value
  | [] => Option.none
  | item :: rest => (unhashable? item).or (unhashableIn? rest)

end

/-- Whether a value can be a key or an item of a set. -/
def isHashable (v : Value) : Bool :=
  v.unhashable?.isNone

end CookbookRules.Value
