import CookbookRules.Value.Mapping

/-!
# The order of a set

A set of numbers lists them by their seats in a table. A number asks for the seat that its remainder
points to; where that is taken it tries the seats behind it and then moves on through the table. The
table has a power of two of seats and is laid out anew, four times as wide as needed, when three fifths
of it are taken. Of other items the order of a set says nothing; here it is the one in which they came.
-/

namespace CookbookRules.Value

/-- Every number is reduced by this prime, 2^61 - 1. -/
def seatModulus : Nat := 0x1FFFFFFFFFFFFFFF

/-- A reduced number with its sign as an unsigned number of 64 bits; minus one counts as minus two. -/
def signedSeat (negative : Bool) (reduced : Nat) : Nat :=
  if !negative || reduced = 0 then reduced else 0x10000000000000000 - max reduced 2

/-- The number that a value's seat is found by; equal numbers have equal ones. Two to the 61st is one, so
only the remainder of an exponent counts. -/
def seatNumber? : Value → Option Nat
  | bool b => some (if b then 1 else 0)
  | int n => some (signedSeat (n < 0) (n.natAbs % seatModulus))
  | float (.infinite negative) => some (signedSeat negative 314159)
  | float (.finite negative significand exponent) =>
    let scaled := significand * Nat.pow 2 (exponent % 61).toNat
    some (signedSeat negative (scaled % seatModulus))
  | _ => Option.none

/-- Seats and who has taken them. -/
structure SeatTable where
  size : Nat
  seated : List (Nat × Value)

namespace SeatTable

/-- The least power of two from `size` on that is greater than `needed`; the bound counts doublings. -/
def sizeAbove (needed : Nat) : (bound : Nat) → (size : Nat) → Nat
  | 0, size => size
  | bound + 1, size => if needed < size then size else sizeAbove needed bound (2 * size)

/-- An empty table with more seats than a number, and at least eight. -/
def empty (needed : Nat) : SeatTable :=
  ⟨sizeAbove needed needed 8, []⟩

/-- The seat that a number gets: the one it points to, or one of the nine behind it if they are all in
the table, or else the same from the seat that the rest of the number leads to. -/
def freeSeat (table : SeatTable) : (bound : Nat) → (seat number : Nat) → Nat
  | 0, seat, _ => seat
  | bound + 1, seat, number =>
    let tried := List.range' seat (if seat + 9 < table.size then 10 else 1)
    match tried.find? fun s => !table.seated.any (·.1 == s) with
    | some free => free
    | Option.none =>
      let rest := number / 32
      freeSeat table bound ((5 * seat + 1 + rest) % table.size) rest

/-- Seats an item. After thirteen moves nothing is left of its number, and from there on the moves lead
through the whole table. -/
def seat (table : SeatTable) (item : Value) : SeatTable :=
  let number := item.seatNumber?.getD 0
  let place := table.freeSeat (table.size + 13) (number % table.size) number
  { table with seated := (place, item) :: table.seated }

/-- The items in the order of their seats. -/
def items (table : SeatTable) : List Value :=
  (table.seated.mergeSort fun a b => a.1 ≤ b.1).map (·.2)

/-- Seats an item, and lays the table out anew where it has become too full. -/
def add (table : SeatTable) (item : Value) : SeatTable :=
  let next := table.seat item
  let taken := next.seated.length
  if 5 * taken < 3 * (next.size - 1) then next
  else next.items.foldl seat (empty (4 * taken))

end SeatTable

/-- The items of a set that is given item by item, in the order of the set. A set that knows beforehand
how many items come makes room for twice as many, if they are at least five. -/
def setItems (expected : Nat) (items : List Value) : List Value :=
  let distinct := ofItems items
  if distinct.all fun item => item.seatNumber?.isSome then
    let start := SeatTable.empty (if expected < 5 then 0 else 2 * expected)
    (distinct.foldl SeatTable.add start).items
  else distinct

end CookbookRules.Value
