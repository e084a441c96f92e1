/-! Points in time as seen at an offset from UTC, and their text by RFC 3339. -/
namespace AccessBaseline

/-- `seconds` since the start of 1970 in UTC, `nanos` billionths of a second after that, seen
`offset` seconds ahead of UTC. -/
structure Moment where
  seconds : Int
  nanos : Nat
  offset : Int
  deriving DecidableEq

namespace Moment

inductive Fault where
  | year
  | offsetHour
  | offsetSecond
  deriving DecidableEq

def Fault.part : Fault → String
  | year => "year"
  | offsetHour => "offset_hour"
  | offsetSecond => "offset_second"

def Fault.message (f : Fault) : String :=
  "The " ++ f.part ++ " component cannot be formatted into the requested format."

/-- The days of March to January in years that start with March, counted from the year's start. -/
def monthStart (m : Nat) : Nat := (153 * m + 2) / 5

/-- Year, month and day of the day `days` after the start of 1970, by the Gregorian calendar. Years
are counted in spans of four hundred that start with March. -/
def dateOfDays (days : Int) : Int × Nat × Nat :=
  let fromMarch := days + 719468
  let era := fromMarch / 146097
  let dayOfEra := (fromMarch % 146097).toNat
  let yearOfEra := (dayOfEra - dayOfEra / 1460 + dayOfEra / 36524 - dayOfEra / 146096) / 365
  let dayOfYear := dayOfEra - (365 * yearOfEra + yearOfEra / 4 - yearOfEra / 100)
  let monthFromMarch := (5 * dayOfYear + 2) / 153
  let day := dayOfYear - monthStart monthFromMarch + 1
  let month := if monthFromMarch < 10 then monthFromMarch + 3 else monthFromMarch - 9
  (yearOfEra + era * 400 + (if month ≤ 2 then 1 else 0), month, day)

def padded (width n : Nat) : String :=
  let digits := Nat.toDigits 10 n
  String.ofList (List.replicate (width - digits.length) '0' ++ digits)

def fractionText (nanos : Nat) : String :=
  if nanos = 0 then ""
  else String.ofList ('.' :: ((padded 9 nanos).toList.reverse.dropWhile (· == '0')).reverse)

def offsetText (offset : Int) : String :=
  if offset = 0 then "Z"
  else
    let minutes := offset.natAbs / 60
    (if offset < 0 then "-" else "+") ++ padded 2 (minutes / 60) ++ ":" ++ padded 2 (minutes % 60)

def year (m : Moment) : Int := (dateOfDays ((m.seconds + m.offset) / 86400)).1

def clockText (m : Moment) : String :=
  let shown := m.seconds + m.offset
  let (year, month, day) := dateOfDays (shown / 86400)
  let second := (shown % 86400).toNat
  padded 4 year.toNat ++ "-" ++ padded 2 month ++ "-" ++ padded 2 day ++ "T" ++
    padded 2 (second / 3600) ++ ":" ++ padded 2 (second / 60 % 60) ++ ":" ++ padded 2 (second % 60)

/-- The text by RFC 3339, which has four digits for the year and no seconds in the offset. -/
def text (m : Moment) : Except Fault String :=
  if m.year < 0 || 9999 < m.year then .error .year
  else if 86400 ≤ m.offset.natAbs then .error .offsetHour
  else if m.offset.natAbs % 60 ≠ 0 then .error .offsetSecond
  else .ok (m.clockText ++ fractionText m.nanos ++ offsetText m.offset)

def preciseText (m : Moment) : String :=
  m.clockText ++ "." ++ padded 6 (m.nanos / 1000) ++ offsetText m.offset

end Moment

end AccessBaseline
