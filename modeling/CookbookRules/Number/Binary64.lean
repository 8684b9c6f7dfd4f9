/-!
# Binary floating point numbers

The numbers of the IEEE 754 format of 64 bits as exact data: a finite number is a sign, a significand
below 2^53 and a power of two. Arithmetic rounds the exact result to the nearest number, a tie to the
even significand, so every operation is one exact computation followed by `ofRatio`.
-/

namespace CookbookRules.Number

/-- A number of the format. The significand of a finite number is at least 2^52 unless its exponent is
the least one, so that equal numbers other than the two zeros are equal data. -/
inductive Binary64
  | nan
  | infinite (negative : Bool)
  | finite (negative : Bool) (significand : Nat) (exponent : Int)
  deriving DecidableEq, Repr

/-- The quotient nearest to `n / d`; of two equally near, the even one. -/
def nearestEven (n d : Nat) : Nat :=
  let q := n / d
  let r := n % d
  if 2 * r < d then q else if d < 2 * r then q + 1 else if q % 2 = 0 then q else q + 1

/-- A positive ratio divided by a power of two, as a ratio again. -/
def scaleRatio (n d : Nat) (e : Int) : Nat × Nat :=
  if 0 ≤ e then (n, d * Nat.pow 2 e.toNat) else (n * Nat.pow 2 (-e).toNat, d)

namespace Binary64

/-- The exponent of the smallest numbers. -/
def leastExponent : Int := -1074

/-- The exponent of the largest numbers. -/
def greatestExponent : Int := 971

/-- 2^53: every significand is below it. -/
def significandEnd : Nat := 0x20000000000000

/-- 2^52: below it are only the significands of the least exponent. -/
def leastNormal : Nat := 0x10000000000000

/-- Zero with a sign. -/
def zero (negative : Bool) : Binary64 := .finite negative 0 leastExponent

/-- The number nearest to `n / d`, where `d` is not zero. -/
def ofRatio (negative : Bool) (n d : Nat) : Binary64 :=
  if n = 0 then zero negative
  else
    let first : Int := max leastExponent ((n.log2 : Int) - d.log2 - 53)
    let (n₁, d₁) := scaleRatio n d first
    let e := if significandEnd ≤ n₁ / d₁ then first + 1 else first
    let (n₂, d₂) := scaleRatio n d e
    let m := nearestEven n₂ d₂
    let (m, e) := if m = significandEnd then (leastNormal, e + 1) else (m, e)
    if greatestExponent < e then .infinite negative else .finite negative m e

/-- The number nearest to `digits · 10^exponent`. Powers far outside the format are answered at once. -/
def ofDecimal (negative : Bool) (digits : Nat) (exponent : Int) : Binary64 :=
  if digits = 0 then zero negative
  else
    let magnitude : Int := exponent + (Nat.toDigits 10 digits).length
    if 400 < magnitude then .infinite negative
    else if magnitude < -400 then zero negative
    else if 0 ≤ exponent then ofRatio negative (digits * Nat.pow 10 exponent.toNat) 1
    else ofRatio negative digits (Nat.pow 10 (-exponent).toNat)

/-- The number nearest to an integer. -/
def ofInt (n : Int) : Binary64 :=
  ofDecimal (n < 0) n.natAbs 0

/-- The sign of a number; NaN has none. -/
def negative : Binary64 → Bool
  | nan => false
  | infinite s | finite s _ _ => s

/-- The number with the opposite sign. -/
def neg : Binary64 → Binary64
  | nan => nan
  | infinite s => infinite (!s)
  | finite s m e => finite (!s) m e

/-- The magnitude of a finite number as a ratio. -/
def ratio (m : Nat) (e : Int) : Nat × Nat :=
  if 0 ≤ e then (m * Nat.pow 2 e.toNat, 1) else (m, Nat.pow 2 (-e).toNat)

/-- The integer that a ratio with a sign numerator rounds to, as a number. -/
def ofSignedRatio (signIfZero : Bool) (n : Int) (d : Nat) : Binary64 :=
  if n = 0 then zero signIfZero else ofRatio (n < 0) n.natAbs d

/-- The rounded product. -/
def mul : Binary64 → Binary64 → Binary64
  | nan, _ | _, nan => nan
  | infinite s, y =>
    match y with
    | finite _ 0 _ => nan
    | y => infinite (s != y.negative)
  | x, infinite t =>
    match x with
    | finite _ 0 _ => nan
    | x => infinite (x.negative != t)
  | finite s m e, finite t n f =>
    let (a, b) := ratio m e
    let (c, d) := ratio n f
    ofRatio (s != t) (a * c) (b * d)

/-- The rounded sum. Opposite zeros, and numbers that cancel, give the positive zero. -/
def add : Binary64 → Binary64 → Binary64
  | nan, _ | _, nan => nan
  | infinite s, infinite t => if s = t then infinite s else nan
  | infinite s, _ => infinite s
  | _, infinite t => infinite t
  | finite s m e, finite t n f =>
    let (a, b) := ratio m e
    let (c, d) := ratio n f
    let x : Int := (if s then -(a : Int) else a) * d
    let y : Int := (if t then -(c : Int) else c) * b
    ofSignedRatio (s && t) (x + y) (b * d)

/-- Numerical equality: the zeros are equal, NaN equals nothing. -/
def numEq : Binary64 → Binary64 → Bool
  | nan, _ | _, nan => false
  | finite _ 0 _, finite _ 0 _ => true
  | x, y => x = y

/-- Whether a number is exactly an integer. -/
def isInt (n : Int) : Binary64 → Bool
  | finite s m e =>
    let (a, b) := ratio m e
    (if s then -(a : Int) else a) == n * b
  | _ => false

/-- Whether a number is a zero. -/
def isZero : Binary64 → Bool
  | finite _ 0 _ => true
  | _ => false

end Binary64

end CookbookRules.Number
