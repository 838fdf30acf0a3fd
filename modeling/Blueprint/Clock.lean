/-!
Instants and their text. An instant is counted in seconds from the beginning of the year 1970. Its
text gives the date of the calendar, the time of the day and as many digits of the fraction as are
needed, in groups of three.
-/

namespace Blueprint

/-- A day of the calendar. -/
structure Date where
  year : Nat
  month : Nat
  day : Nat
  deriving DecidableEq

namespace Date

/-- The number of days from the first of March in the year 0 to the beginning of 1970. -/
def epochDay : Nat := 719468

/-- The years since the beginning of a cycle of 400 years, from the days since then. A year of the
cycle begins in March, so that the day that is put in comes last. -/
def yearOfCycle (day : Nat) : Nat := (day - day / 1460 + day / 36524 - day / 146096) / 365

/-- The date of a day that is counted from the beginning of 1970. -/
def ofDay (n : Nat) : Date :=
  let day := n + epochDay
  let dayOfCycle := day % 146097
  let year := yearOfCycle dayOfCycle
  let dayOfYear := dayOfCycle - (365 * year + year / 4 - year / 100)
  let monthFromMarch := (5 * dayOfYear + 2) / 153
  { year := day / 146097 * 400 + year + (if monthFromMarch < 10 then 0 else 1)
    month := if monthFromMarch < 10 then monthFromMarch + 3 else monthFromMarch - 9
    day := dayOfYear - (153 * monthFromMarch + 2) / 5 + 1 }

example : ofDay 0 = ⟨1970, 1, 1⟩ ∧ ofDay 11016 = ⟨2000, 2, 29⟩ ∧ ofDay 11017 = ⟨2000, 3, 1⟩ ∧
    ofDay 20453 = ⟨2025, 12, 31⟩ ∧ ofDay 20454 = ⟨2026, 1, 1⟩ := by decide

end Date

/-- A point in time. -/
structure Instant where
  /-- The seconds since the beginning of 1970. -/
  seconds : Nat
  nanoseconds : Nat
  deriving DecidableEq

namespace Instant

/-- A number with zeros in front to a width. -/
def padded (width n : Nat) : String :=
  let digits := toString n
  String.ofList (List.replicate (width - digits.length) '0') ++ digits

/-- The date and the time of the day to the second. -/
def toSecond (t : Instant) : String :=
  let date := Date.ofDay (t.seconds / 86400)
  let clock := t.seconds % 86400
  padded 4 date.year ++ "-" ++ padded 2 date.month ++ "-" ++ padded 2 date.day ++ "T" ++
    padded 2 (clock / 3600) ++ ":" ++ padded 2 (clock / 60 % 60) ++ ":" ++ padded 2 (clock % 60)

/-- The fraction of a second, nothing if there is none. -/
def fraction (t : Instant) : String :=
  if t.nanoseconds = 0 then ""
  else if t.nanoseconds % 1000000 = 0 then "." ++ padded 3 (t.nanoseconds / 1000000)
  else if t.nanoseconds % 1000 = 0 then "." ++ padded 6 (t.nanoseconds / 1000)
  else "." ++ padded 9 t.nanoseconds

/-- The text of an instant with its distance from universal time. -/
def text (t : Instant) : String := t.toSecond ++ t.fraction ++ "+00:00"

/-- The text of an instant to the microsecond, with the mark of universal time. -/
def stamp (t : Instant) : String := t.toSecond ++ "." ++ padded 6 (t.nanoseconds / 1000) ++ "Z"

example : text ⟨1767225600, 0⟩ = "2026-01-01T00:00:00+00:00" := by decide +kernel

example : text ⟨951782399, 120000⟩ = "2000-02-28T23:59:59.000120+00:00" := by decide +kernel

end Instant

end Blueprint
