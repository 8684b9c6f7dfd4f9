/-!
# Dates and times of day

Days of the Gregorian calendar from year 1 to 9999, and moments of such days to the microsecond, with
or without a distance from universal time. The checks answer the first field out of range.
-/

namespace CookbookRules.Calendar

/-- A day. -/
structure Date where
  year : Nat
  month : Nat
  day : Nat
  deriving DecidableEq, Repr

/-- A moment; `offset` is the distance from universal time in seconds, where it is known. -/
structure Moment where
  date : Date
  hour : Nat
  minute : Nat
  second : Nat
  microsecond : Nat
  offset : Option Int
  deriving DecidableEq, Repr

/-- The field that is out of range. -/
inductive Fault
  | year (n : Nat)
  | month
  | day
  | hour
  | minute
  | second
  | offset (seconds : Int)
  deriving DecidableEq, Repr

/-- Every fourth year is a leap year, except three of four centuries. -/
def isLeap (year : Nat) : Bool :=
  year % 4 = 0 && (year % 100 ≠ 0 || year % 400 = 0)

/-- The number of days of a month. -/
def monthLength (year month : Nat) : Nat :=
  if month = 2 then (if isLeap year then 29 else 28)
  else if month = 4 || month = 6 || month = 9 || month = 11 then 30
  else 31

/-- A day within the calendar. -/
def Date.check (d : Date) : Except Fault Date :=
  if d.year = 0 || 9999 < d.year then .error (.year d.year)
  else if d.month = 0 || 12 < d.month then .error .month
  else if d.day = 0 || monthLength d.year d.month < d.day then .error .day
  else .ok d

/-- A moment within the calendar; its offset is checked before its fields. -/
def Moment.check (m : Moment) : Except Fault Moment := do
  if let some seconds := m.offset then
    if 86400 ≤ seconds.natAbs then throw (.offset seconds)
  let _ ← m.date.check
  if 23 < m.hour then throw .hour
  if 59 < m.minute then throw .minute
  if 59 < m.second then throw .second
  pure m

/-- A number in at least `width` digits. -/
def padded (width n : Nat) : String :=
  let digits := Nat.toDigits 10 n
  String.ofList (List.replicate (width - digits.length) '0' ++ digits)

/-- Year, month and day with hyphens. -/
def Date.iso (d : Date) : String :=
  s!"{padded 4 d.year}-{padded 2 d.month}-{padded 2 d.day}"

/-- An offset as hours and minutes, with seconds only where there are any. -/
def offsetText (seconds : Int) : String :=
  let n := seconds.natAbs
  let clock := s!"{padded 2 (n / 3600)}:{padded 2 (n / 60 % 60)}"
  let rest := if n % 60 = 0 then "" else s!":{padded 2 (n % 60)}"
  (if seconds < 0 then "-" else "+") ++ clock ++ rest

/-- Day and time of day, with `separator` between them; microseconds only where there are any. -/
def Moment.iso (separator : String) (m : Moment) : String :=
  let clock := s!"{padded 2 m.hour}:{padded 2 m.minute}:{padded 2 m.second}"
  let fraction := if m.microsecond = 0 then "" else s!".{padded 6 m.microsecond}"
  let zone := (m.offset.map offsetText).getD ""
  m.date.iso ++ separator ++ clock ++ fraction ++ zone

/-- The number of days before a date, counted from the first day of year 1. -/
def Date.ordinal (d : Date) : Nat :=
  let years := d.year - 1
  let months := (List.range' 1 (d.month - 1)).foldl (fun days m => days + monthLength d.year m) 0
  years * 365 + years / 4 - years / 100 + years / 400 + months + d.day - 1

/-- Seconds from the first moment of year 1, by universal time where the offset is known. -/
def Moment.seconds (m : Moment) : Int :=
  (m.date.ordinal : Int) * 86400 + m.hour * 3600 + m.minute * 60 + m.second - m.offset.getD 0

/-- Two moments are one if both offsets are known or both unknown, and the times agree. -/
def Moment.same (a b : Moment) : Bool :=
  a.offset.isSome == b.offset.isSome && a.seconds == b.seconds && a.microsecond == b.microsecond

/-- A length of time in days and seconds, the seconds never negative. -/
def durationText (seconds : Int) : String :=
  let days := seconds / 86400
  let rest := seconds % 86400
  let parts :=
    (if days = 0 then [] else [s!"days={days}"]) ++ (if rest = 0 then [] else [s!"seconds={rest}"])
  let inner := if parts.isEmpty then "0" else String.intercalate ", " parts
  s!"datetime.timedelta({inner})"

/-- The wording of a fault. -/
def Fault.message : Fault → String
  | .year n => s!"year {n} is out of range"
  | .month => "month must be in 1..12"
  | .day => "day is out of range for month"
  | .hour => "hour must be in 0..23"
  | .minute => "minute must be in 0..59"
  | .second => "second must be in 0..59"
  | .offset seconds =>
    "offset must be a timedelta strictly between -timedelta(hours=24) and timedelta(hours=24), not " ++
      durationText seconds ++ "."

/-- The constructor form of a date. -/
def Date.form (d : Date) : String :=
  s!"datetime.date({d.year}, {d.month}, {d.day})"

/-- The constructor form of a moment: seconds and microseconds only where needed, the zone by name. -/
def Moment.form (m : Moment) : String :=
  let fields := [m.date.year, m.date.month, m.date.day, m.hour, m.minute]
  let fine :=
    if m.microsecond = 0 then (if m.second = 0 then [] else [m.second])
    else [m.second, m.microsecond]
  let zone :=
    match m.offset with
    | none => []
    | some 0 => ["tzinfo=datetime.timezone.utc"]
    | some seconds => [s!"tzinfo=datetime.timezone({durationText seconds})"]
  let arguments := String.intercalate ", " ((fields ++ fine).map toString ++ zone)
  s!"datetime.datetime({arguments})"

end CookbookRules.Calendar
