/-! # Calendar

Seconds since the epoch as a date and a time of day, in universal time and the
Gregorian calendar carried on in both directions.  Years are counted from one
era of 400 years to the next; a year starts in March, so that a leap day ends
it.  Times out of the calendar's range stand for the epoch.
-/
namespace OfflineChat

/-- A date and a time of day. -/
structure Moment where
  year : Int
  month : Nat
  day : Nat
  hour : Nat
  minute : Nat
  second : Nat
deriving DecidableEq, Repr

namespace Moment

/-- The days of four hundred years. -/
def daysOfEra : Nat := 146097

/-- The days from the first of March of the year zero to the epoch. -/
def daysToEpoch : Int := 719468

/-- Whole years, each starting in March, before a day of an era. -/
def yearOfEra (day : Nat) : Nat :=
  (day - day / 1460 + day / 36524 - day / 146096) / 365

/-- The first day of a year of an era. -/
def firstDayOf (year : Nat) : Nat := 365 * year + year / 4 - year / 100

/-- The year, month and day of a count of days since the epoch. -/
def dateOf (days : Int) : Int × Nat × Nat :=
  let d := days + daysToEpoch
  let era := d.fdiv daysOfEra
  let day := (d.fmod daysOfEra).toNat
  let year := yearOfEra day
  let inYear := day - firstDayOf year
  let march := (5 * inYear + 2) / 153
  let dayOfMonth := inYear - (153 * march + 2) / 5 + 1
  let month := if march < 10 then march + 3 else march - 9
  (era * 400 + year + (if month ≤ 2 then 1 else 0), month, dayOfMonth)

/-- The first and the last second of the calendar. -/
def range : Int × Int := (-8334601228800, 8210266876799)

/-- Seconds that the calendar holds; all others count as the epoch. -/
def clamp (seconds : Int) : Int :=
  if range.1 ≤ seconds ∧ seconds ≤ range.2 then seconds else 0

/-- The moment of a count of seconds since the epoch. -/
def ofSeconds (seconds : Int) : Moment :=
  let s := clamp seconds
  let (year, month, day) := dateOf (s.fdiv 86400)
  let ofDay := (s.fmod 86400).toNat
  ⟨year, month, day, ofDay / 3600, ofDay / 60 % 60, ofDay % 60⟩

/-- A number with zeros in front, up to a width. -/
def padded (width n : Nat) : String :=
  let ds := Nat.toDigits 10 n
  String.ofList (List.replicate (width - ds.length) '0' ++ ds)

/-- A year: four digits, with a sign if it needs more or lies before the year zero. -/
def yearText (year : Int) : String :=
  if 0 ≤ year ∧ year ≤ 9999 then padded 4 year.toNat
  else (if year < 0 then "-" else "+") ++ padded 4 year.natAbs

/-- Year, month and day. -/
def dateText (m : Moment) : String :=
  yearText m.year ++ "-" ++ padded 2 m.month ++ "-" ++ padded 2 m.day

/-- Hour and minute. -/
def clockText (m : Moment) : String := padded 2 m.hour ++ ":" ++ padded 2 m.minute

/-- The moment to the second, with its distance from universal time. -/
def fullText (m : Moment) : String :=
  m.dateText ++ "T" ++ m.clockText ++ ":" ++ padded 2 m.second ++ "+00:00"

/-- The moment to the minute, as people read it. -/
def shortText (m : Moment) : String := m.dateText ++ " " ++ m.clockText

end Moment
end OfflineChat
