/-!
# Points in time

An `Instant` counts nanoseconds since the beginning of 1970 in universal time. Its text has the date of
the Gregorian calendar and as many groups of three decimals as it needs.
-/

namespace AerWatch

/-- A point in time, in nanoseconds since the beginning of 1970. -/
structure Instant where
  nanoseconds : Nat
deriving DecidableEq

/-- A day of the Gregorian calendar. -/
structure Date where
  year : Nat
  month : Nat
  day : Nat
deriving DecidableEq

/-- The date that is a number of days after the beginning of 1970. Years are counted from March on, so
that a leap day ends a year, in cycles of 400 years. -/
def Date.ofDays (days : Nat) : Date :=
  let n := days + 719468
  let inCycle := n % 146097
  let yearInCycle := (inCycle - inCycle / 1460 + inCycle / 36524 - inCycle / 146096) / 365
  let inYear := inCycle - (365 * yearInCycle + yearInCycle / 4 - yearInCycle / 100)
  let monthFromMarch := (5 * inYear + 2) / 153
  let day := inYear - (153 * monthFromMarch + 2) / 5 + 1
  let month := if monthFromMarch < 10 then monthFromMarch + 3 else monthFromMarch - 9
  let year := yearInCycle + n / 146097 * 400
  ⟨if month ≤ 2 then year + 1 else year, month, day⟩

namespace Instant

/-- A number with at least `width` digits. -/
def padded (width n : Nat) : String := String.ofList ((Nat.toDigits 10 n).leftpad width '0')

/-- The decimals of a second. -/
def fraction (nanoseconds : Nat) : String :=
  if nanoseconds = 0 then ""
  else if nanoseconds % 1000000 = 0 then "." ++ padded 3 (nanoseconds / 1000000)
  else if nanoseconds % 1000 = 0 then "." ++ padded 6 (nanoseconds / 1000)
  else "." ++ padded 9 nanoseconds

/-- The date and the time of day. -/
def text (t : Instant) : String :=
  let seconds := t.nanoseconds / 1000000000
  let date := Date.ofDays (seconds / 86400)
  let second := seconds % 86400
  padded 4 date.year ++ "-" ++ padded 2 date.month ++ "-" ++ padded 2 date.day ++ "T" ++
    padded 2 (second / 3600) ++ ":" ++ padded 2 (second / 60 % 60) ++ ":" ++
    padded 2 (second % 60) ++ fraction (t.nanoseconds % 1000000000) ++ "Z"

end Instant

end AerWatch
