/-! Points in time as text: date and time of day in UTC, with as many groups of three digits
behind the point as the nanoseconds need. -/
namespace Acceptor.Command

structure Date where
  year : Nat
  month : Nat
  day : Nat
  deriving DecidableEq

/-- The Gregorian date of a day counted from 1970-01-01. Years begin in March here, so that
the leap day is the last day of a year. -/
def Date.ofDay (day : Nat) : Date :=
  let shifted := day + 719468
  let inEra := shifted % 146097
  let yearOfEra := (inEra - inEra / 1460 + inEra / 36524 - inEra / 146096) / 365
  let inYear := inEra - (365 * yearOfEra + yearOfEra / 4 - yearOfEra / 100)
  let march := (5 * inYear + 2) / 153
  let month := if march < 10 then march + 3 else march - 9
  let year := yearOfEra + shifted / 146097 * 400
  ⟨if month ≤ 2 then year + 1 else year, month, inYear - (153 * march + 2) / 5 + 1⟩

/-- Decimal digits, filled up with zeros from the left. -/
def padded (width n : Nat) : String :=
  let digits := Nat.toDigits 10 n
  .ofList (List.replicate (width - digits.length) '0' ++ digits)

def fraction (nanoseconds : Nat) : String :=
  if nanoseconds = 0 then ""
  else if nanoseconds % 1000000 = 0 then "." ++ padded 3 (nanoseconds / 1000000)
  else if nanoseconds % 1000 = 0 then "." ++ padded 6 (nanoseconds / 1000)
  else "." ++ padded 9 nanoseconds

def stamp (seconds nanoseconds : Nat) : String :=
  let date := Date.ofDay (seconds / 86400)
  let second := seconds % 86400
  padded 4 date.year ++ "-" ++ padded 2 date.month ++ "-" ++ padded 2 date.day ++ "T" ++
    padded 2 (second / 3600) ++ ":" ++ padded 2 (second / 60 % 60) ++ ":" ++
    padded 2 (second % 60) ++ fraction nanoseconds ++ "Z"

end Acceptor.Command
