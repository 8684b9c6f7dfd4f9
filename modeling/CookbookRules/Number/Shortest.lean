import CookbookRules.Number.Binary64

/-!
# The shortest decimal of a binary number

A finite number is written with the fewest decimal digits that read back as the same number, and among
those with the digits nearest to it. `shortestDigits` tries one digit, then two, and so on: on each grid
only the two neighbours of the number can be near enough. `render` lays the digits out.
-/

namespace CookbookRules.Number

/-- The place of the first digit of a positive ratio: the `k` with `10^k ≤ n / d < 10^(k + 1)`. -/
def decimalMagnitude (n d : Nat) : Int :=
  if d ≤ n then (Nat.toDigits 10 (n / d)).length - 1
  else -((Nat.toDigits 10 ((d + n - 1) / n - 1)).length : Int)

/-- Whether `digits · 10^place` lies in the interval of reals that round to `m · 2^e`. The interval ends
half way to the neighbouring numbers, and its ends belong to it when `m` is even. -/
def readsBackAs (m : Nat) (e : Int) (digits : Nat) (place : Int) : Bool :=
  let (n, d) := Binary64.ratio m e
  let (a, b) :=
    if 0 ≤ place then (digits * Nat.pow 10 place.toNat, 1)
    else (digits, Nat.pow 10 (-place).toNat)
  let (u, v) := Binary64.ratio 1 (e - 2)
  let lower := if m = Binary64.leastNormal && Binary64.leastExponent < e then u else 2 * u
  let distance : Int := (a * d : Int) - (n * b : Int)
  let reach := if distance < 0 then lower else 2 * u
  let gap := distance.natAbs * v
  let limit := reach * (b * d)
  gap < limit || (gap = limit && m % 2 = 0)

/-- The neighbour of a number on the grid of step `10^place`, if one reads back; of two, the nearer. -/
def nearestOnGrid (m : Nat) (e : Int) (place : Int) : Option Nat :=
  let (n, d) := Binary64.ratio m e
  let (x, y) :=
    if 0 ≤ place then (n, d * Nat.pow 10 place.toNat) else (n * Nat.pow 10 (-place).toNat, d)
  let nearer := nearestEven x y
  let other := if nearer = x / y then x / y + 1 else x / y
  if readsBackAs m e nearer place then some nearer
  else if readsBackAs m e other place then some other
  else none

/-- Tries grids of more and more digits; seventeen always suffice. -/
def searchGrids (m : Nat) (e : Int) (top : Int) : (count tried : Nat) → Nat × Int
  | 0, tried => (m, top - tried)
  | count + 1, tried =>
    let place := top - tried
    match nearestOnGrid m e place with
    | some digits => (digits, place)
    | none => searchGrids m e top count (tried + 1)

/-- The shortest digits of `m · 2^e` and the place of the last of them. -/
def shortestDigits (m : Nat) (e : Int) : Nat × Int :=
  let (n, d) := Binary64.ratio m e
  searchGrids m e (decimalMagnitude n d) 17 0

/-- How a number is laid out: positional while the decimal point stands between the two bounds, else
with an exponent of at least two digits; a whole number keeps one zero after its point. -/
structure Layout where
  leastPoint : Int
  greatestPoint : Int
  exponentDigits : Nat

/-- Positional from 0.0001 up to below 10^16. -/
def plainLayout : Layout := ⟨-3, 16, 2⟩

/-- Digits with a decimal point after the first `point` of them. -/
def Layout.positional (digits : List Char) (point : Int) : List Char :=
  if point ≤ 0 then '0' :: '.' :: List.replicate (-point).toNat '0' ++ digits
  else
    let whole := digits.take point.toNat
    let zeros := List.replicate (point.toNat - whole.length) '0'
    let rest := digits.drop point.toNat
    whole ++ zeros ++ '.' :: (if rest.isEmpty then ['0'] else rest)

/-- Digits with a point after the first and an exponent. -/
def Layout.scientific (layout : Layout) (digits : List Char) (point : Int) : List Char :=
  let exponent := point - 1
  let text := Nat.toDigits 10 exponent.natAbs
  let padded := List.replicate (layout.exponentDigits - text.length) '0' ++ text
  let fraction := digits.drop 1
  digits.take 1 ++ (if fraction.isEmpty then [] else '.' :: fraction) ++
    'e' :: (if exponent < 0 then '-' else '+') :: padded

/-- Digits without the zeros at their end. -/
def dropTrailingZeros (digits : List Char) : List Char :=
  (digits.reverse.dropWhile (· == '0')).reverse

/-- The text of a number. -/
def Layout.render (layout : Layout) : Binary64 → String
  | .nan => "nan"
  | .infinite negative => if negative then "-inf" else "inf"
  | .finite negative m e =>
    let body :=
      if m = 0 then ['0', '.', '0']
      else
        let (digits, place) := shortestDigits m e
        let all := Nat.toDigits 10 digits
        let point := all.length + place
        let kept := dropTrailingZeros all
        if layout.leastPoint ≤ point && point ≤ layout.greatestPoint then Layout.positional kept point
        else layout.scientific kept point
    String.ofList (if negative then '-' :: body else body)

end CookbookRules.Number
