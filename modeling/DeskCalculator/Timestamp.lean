import DeskCalculator.Text.Digits

namespace DeskCalculator

structure Timestamp where
  year : Nat
  month : Nat
  day : Nat
  hour : Nat
  minute : Nat
  second : Nat
  microsecond : Nat
  /-- Seconds east of UTC; nothing for a time without a zone. -/
  offset : Option Int
  deriving DecidableEq

namespace Timestamp

def dateText (t : Timestamp) : List Char :=
  Text.fixedDigits 10 4 t.year ++ '-' :: Text.fixedDigits 10 2 t.month ++
    '-' :: Text.fixedDigits 10 2 t.day

def timeText (t : Timestamp) : List Char :=
  Text.fixedDigits 10 2 t.hour ++ ':' :: Text.fixedDigits 10 2 t.minute ++
    ':' :: Text.fixedDigits 10 2 t.second

def fractionText (t : Timestamp) : List Char :=
  if t.microsecond = 0 then [] else '.' :: Text.fixedDigits 10 6 t.microsecond

/-- Hours and minutes, and the seconds only where there are some. -/
def offsetText (seconds : Int) : List Char :=
  let size := seconds.natAbs
  (if seconds < 0 then '-' else '+') :: Text.fixedDigits 10 2 (size / 3600) ++
    ':' :: Text.fixedDigits 10 2 (size / 60 % 60) ++
    (if size % 60 = 0 then [] else ':' :: Text.fixedDigits 10 2 (size % 60))

def text (t : Timestamp) : String :=
  String.ofList (t.dateText ++ 'T' :: t.timeText ++ t.fractionText ++
    (t.offset.map offsetText).getD [])

def isLeap (year : Nat) : Bool := (year % 4 == 0 && year % 100 != 0) || year % 400 == 0

def monthLengths (year : Nat) : List Nat :=
  [31, if isLeap year then 29 else 28, 31, 30, 31, 30, 31, 31, 30, 31, 30, 31]

/-- The days before a year, counted from the first of year 1. -/
def daysBeforeYear (year : Nat) : Nat :=
  let y := year - 1
  365 * y + y / 4 - y / 100 + y / 400

/-- The days from the first of year 1 to the date. -/
def dayNumber (t : Timestamp) : Nat :=
  daysBeforeYear t.year + ((monthLengths t.year).take (t.month - 1)).foldl (· + ·) 0 + (t.day - 1)

/-- The fields name a point in time of the years 1 to 9999. -/
structure Valid (t : Timestamp) : Prop where
  year : 1 ≤ t.year ∧ t.year ≤ 9999
  month : 1 ≤ t.month ∧ t.month ≤ 12
  day : 1 ≤ t.day ∧ t.day ≤ (monthLengths t.year).getD (t.month - 1) 0
  hour : t.hour < 24
  minute : t.minute < 60
  second : t.second < 60
  microsecond : t.microsecond < 1000000

/-- A time without a zone counts as UTC. -/
def instant (t : Timestamp) : Int :=
  let seconds : Int := ((t.dayNumber * 24 + t.hour) * 60 + t.minute) * 60 + t.second
  (seconds - t.offset.getD 0) * 1000000 + t.microsecond

/-- The year that holds a day, and the days before it in that year. The last year of each span
of four hundred or of four years may be a day longer than the others, hence the two bounds. -/
def yearOfDay (days : Nat) : Nat × Nat :=
  let cycle := days / 146097
  let inCycle := days % 146097
  let century := min (inCycle / 36524) 3
  let inCentury := inCycle - century * 36524
  let span := inCentury / 1461
  let inSpan := inCentury % 1461
  let year := min (inSpan / 365) 3
  (400 * cycle + 100 * century + 4 * span + year + 1, inSpan - year * 365)

/-- The month and the day of the month after so many days of a year. -/
def monthOfDay (month : Nat) : List Nat → Nat → Nat × Nat
  | [], days => (month, days + 1)
  | length :: rest, days =>
    if days < length then (month, days + 1) else monthOfDay (month + 1) rest (days - length)

/-- The fields of an instant in UTC. -/
def ofInstant (t : Nat) : Timestamp :=
  let seconds := t / 1000000
  let (year, days) := yearOfDay (seconds / 86400)
  let (month, day) := monthOfDay 1 (monthLengths year) days
  { year, month, day
    hour := seconds / 3600 % 24
    minute := seconds / 60 % 60
    second := seconds % 60
    microsecond := t % 1000000
    offset := some 0 }

end Timestamp

end DeskCalculator
