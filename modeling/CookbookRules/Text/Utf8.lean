import CookbookRules.Text.Quoted

/-!
# Reading bytes as text

Strict UTF-8. A fault names the bytes it covers: a start byte that cannot begin a sequence stands alone,
a sequence broken by a wrong continuation or by the end of the data covers the bytes that were still
right. `normalizeBreaks` then reads every line end as one line feed.
-/

namespace CookbookRules.Text.Utf8

/-- Why a sequence of bytes is not a character. -/
inductive Reason
  | invalidStart
  | invalidContinuation
  | unexpectedEnd
  deriving DecidableEq, Repr

/-- Where decoding stops: the first byte, its offset, how many bytes the fault covers, and why. -/
structure Fault where
  byte : UInt8
  start : Nat
  length : Nat
  reason : Reason
  deriving DecidableEq, Repr

/-- The wording of a reason. -/
def Reason.message : Reason → String
  | .invalidStart => "invalid start byte"
  | .invalidContinuation => "invalid continuation byte"
  | .unexpectedEnd => "unexpected end of data"

/-- One byte is named by its value, several by their offsets only. -/
def Fault.message (fault : Fault) : String :=
  let place :=
    if fault.length = 1 then
      s!"byte 0x{String.ofList (hexDigits 2 fault.byte.toNat)} in position {fault.start}"
    else s!"bytes in position {fault.start}-{fault.start + fault.length - 1}"
  s!"'utf-8' codec can't decode {place}: {fault.reason.message}"

/-- Reads `need` continuation bytes, the first of them within the given bounds. The answer is the code
read and the number of bytes taken; a fault tells how many bytes, the start included, were still right. -/
def continuation : (need low high code taken : Nat) → List UInt8 → Except (Nat × Reason) (Nat × Nat)
  | 0, _, _, code, taken, _ => .ok (code, taken)
  | _ + 1, _, _, _, taken, [] => .error (taken + 1, .unexpectedEnd)
  | need + 1, low, high, code, taken, b :: rest =>
    if low ≤ b.toNat && b.toNat ≤ high then
      continuation need 0x80 0xBF (code * 64 + b.toNat % 64) (taken + 1) rest
    else .error (taken + 1, .invalidContinuation)

/-- Reads one sequence from its start byte. The bounds on the second byte exclude longer spellings of a
short code, the surrogates, and codes beyond U+10FFFF. -/
def sequence (start : UInt8) (rest : List UInt8) : Except (Nat × Reason) (Nat × Nat) :=
  let b := start.toNat
  if b < 0x80 then .ok (b, 0)
  else if b < 0xC2 || 0xF4 < b then .error (1, .invalidStart)
  else if b < 0xE0 then continuation 1 0x80 0xBF (b % 32) 0 rest
  else if b < 0xF0 then
    continuation 2 (if b = 0xE0 then 0xA0 else 0x80) (if b = 0xED then 0x9F else 0xBF) (b % 16) 0 rest
  else
    continuation 3 (if b = 0xF0 then 0x90 else 0x80) (if b = 0xF4 then 0x8F else 0xBF) (b % 8) 0 rest

/-- Decodes from an offset on. -/
def decodeFrom (offset : Nat) : List UInt8 → Except Fault (List Char)
  | [] => .ok []
  | b :: rest =>
    match sequence b rest with
    | .error (length, reason) => .error ⟨b, offset, length, reason⟩
    | .ok (code, taken) =>
      (Char.ofNat code :: ·) <$> decodeFrom (offset + taken + 1) (rest.drop taken)
termination_by bytes => bytes.length
decreasing_by simp only [List.length_drop, List.length_cons]; omega

/-- The text that bytes spell. -/
def decode (bytes : List UInt8) : Except Fault (List Char) :=
  decodeFrom 0 bytes

/-- Reads `\r\n` and a lone `\r` as a line feed. -/
def normalizeBreaks : List Char → List Char
  | '\r' :: '\n' :: rest => '\n' :: normalizeBreaks rest
  | c :: rest => (if c = '\r' then '\n' else c) :: normalizeBreaks rest
  | [] => []

end CookbookRules.Text.Utf8
