import SortableId.Time

/-!
# Calendar dates

Instants are shown in the Gregorian calendar, in UTC and to the millisecond.
-/

namespace SortableId

/-- A day of the Gregorian calendar. -/
structure Date where
  year : Nat
  month : Nat
  day : Nat
  deriving DecidableEq, Repr

namespace Date

/-- The number of days from the first of March of year zero to the first of January 1970. -/
def daysBeforeUnix : Nat := 719468

/-- A day of the year that begins in March of the given one, so that the leap day comes last.  The
months from March on start `(153 * month + 2) / 5` days into that year, and its last two belong to the
next year of the calendar. -/
def ofMarch (year dayOfYear : Nat) : Date :=
  let monthFromMarch := (5 * dayOfYear + 2) / 153
  let month := if monthFromMarch < 10 then monthFromMarch + 3 else monthFromMarch - 9
  { year := year + (if month ≤ 2 then 1 else 0)
    month
    day := dayOfYear - (153 * monthFromMarch + 2) / 5 + 1 }

/-- The date that lies the given number of days after 1970-01-01.  An era of 400 years has 146097
days. -/
def ofUnixDay (unixDay : Nat) : Date :=
  let days := unixDay + daysBeforeUnix
  let dayOfEra := days % 146097
  let yearOfEra := (dayOfEra - dayOfEra / 1460 + dayOfEra / 36524 - dayOfEra / 146096) / 365
  ofMarch (days / 146097 * 400 + yearOfEra)
    (dayOfEra - (365 * yearOfEra + yearOfEra / 4 - yearOfEra / 100))

/-- The leap day of a century that has one. -/
example : ofUnixDay 11016 = ⟨2000, 2, 29⟩ := by decide

end Date

namespace Calendar

/-- A number in decimal, filled with zeros on the left up to the given width. -/
def padded (width value : Nat) : String :=
  String.ofList ((Nat.toDigits 10 value).leftpad width '0')

theorem toList_padded (width value : Nat) : (padded width value).toList =
    List.replicate (width - (Nat.toDigits 10 value).length) '0' ++ Nat.toDigits 10 value := by
  rw [padded, String.toList_ofList, List.leftpad]

/-- A year has four digits; beyond that it carries a plus sign. -/
def yearText (year : Nat) : String :=
  if year ≤ 9999 then padded 4 year else "+" ++ toString year

/-- A date and a time of day, to the millisecond and in UTC. -/
def instantText (date : Date) (hour minute second ms : Nat) : String :=
  yearText date.year ++ "-" ++ padded 2 date.month ++ "-" ++ padded 2 date.day ++ "T" ++
    padded 2 hour ++ ":" ++ padded 2 minute ++ ":" ++ padded 2 second ++ "." ++ padded 3 ms ++ "Z"

/-- An instant, in milliseconds since 1970, as a date and a time of day. -/
def timestamp (unixMs : Nat) : String :=
  let msOfDay := unixMs % 86400000
  instantText (Date.ofUnixDay (unixMs / 86400000)) (msOfDay / 3600000) (msOfDay / 60000 % 60)
    (msOfDay / 1000 % 60) (msOfDay % 1000)

end Calendar

end SortableId
