import CSubset.Text.Decimal

/-!
# Points in time

Time is counted from the start of 1970, without leap seconds, and written as date and time of day in UTC. A leap second
shares its count with the second before it, and its nanoseconds go on from there.
-/

namespace CSubset

structure Instant where
  seconds : Int
  /-- A billion or more within a leap second. -/
  nanoseconds : Nat
  deriving DecidableEq, Repr

structure Date where
  year : Int
  month : Nat
  day : Nat
  deriving DecidableEq, Repr

/-- The date `days` days after 1 March of year 0 in the proleptic Gregorian calendar. Years are taken to start in
March, so that the leap day is the last one; four centuries have 146097 days. -/
def Date.ofMarchDays (days : Int) : Date :=
  let era := days.fdiv 146097
  let d := (days - era * 146097).toNat
  let year := (d - d / 1460 + d / 36524 - d / 146096) / 365
  let dayOfYear := d - (365 * year + year / 4 - year / 100)
  let m := (5 * dayOfYear + 2) / 153
  let month := if m < 10 then m + 3 else m - 9
  { year := era * 400 + year + (if month ≤ 2 then 1 else 0)
    month
    day := dayOfYear - (153 * m + 2) / 5 + 1 }

def Date.ofDays (days : Int) : Date := .ofMarchDays (days + 719468)

def padded (width n : Nat) : String :=
  let digits := toString n
  String.ofList (List.replicate (width - digits.length) '0') ++ digits

def yearText (year : Int) : String :=
  if year < 0 then "-" ++ padded 4 year.natAbs
  else if year ≤ 9999 then padded 4 year.toNat
  else "+" ++ padded 4 year.toNat

/-- As few of 0, 3, 6 and 9 digits as are exact. -/
def fractionText (nanoseconds : Nat) : String :=
  if nanoseconds = 0 then ""
  else if nanoseconds % 1000000 = 0 then "." ++ padded 3 (nanoseconds / 1000000)
  else if nanoseconds % 1000 = 0 then "." ++ padded 6 (nanoseconds / 1000)
  else "." ++ padded 9 nanoseconds

/-- The second and the nanoseconds within it, where `second` counts within a minute. A leap second is number 60. -/
def leapSplit (second nanoseconds : Nat) : Nat × Nat :=
  if nanoseconds < 1000000000 then (second, nanoseconds) else (second + 1, nanoseconds - 1000000000)

/-- As in `2024-05-01T12:00:00.001+00:00`. -/
def Instant.text (t : Instant) : String :=
  let date := Date.ofDays (t.seconds.fdiv 86400)
  let time := (t.seconds.fmod 86400).toNat
  let (second, nanoseconds) := leapSplit (time % 60) t.nanoseconds
  yearText date.year ++ "-" ++ twoDigits date.month ++ "-" ++ twoDigits date.day ++ "T"
    ++ twoDigits (time / 3600) ++ ":" ++ twoDigits (time / 60 % 60) ++ ":" ++ twoDigits second
    ++ fractionText nanoseconds ++ "+00:00"

def Instant.since (s t : Instant) : Nat :=
  ((t.seconds - s.seconds) * 1000000000 + (t.nanoseconds - s.nanoseconds : Int)).toNat

def Instant.elapsed (s t : Instant) : String := twoPlaces (s.since t) 1000000

end CSubset
