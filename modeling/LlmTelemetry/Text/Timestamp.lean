/-!
# Timestamps

A time in UTC with milliseconds, as in `2024-02-29T23:59:59.007Z`, from the milliseconds since the
beginning of 1970.
-/

namespace LlmTelemetry.Timestamp

/-- A number with zeros in front, so many digits wide. -/
def padded (width value : Nat) : String :=
  let digits := Nat.toDigits 10 value
  String.ofList (List.replicate (width - digits.length) '0' ++ digits)

def isLeapYear (year : Nat) : Bool :=
  year % 4 == 0 && (year % 100 != 0 || year % 400 == 0)

def daysInYear (year : Nat) : Nat :=
  if isLeapYear year then 366 else 365

/-- The days of the months of a year. -/
def monthLengths (year : Nat) : List Nat :=
  [31, if isLeapYear year then 29 else 28, 31, 30, 31, 30, 31, 31, 30, 31, 30, 31]

/-- The year, and the day of it, of a day counted from the first day of `year`. -/
def yearOfDay : (fuel : Nat) → (year day : Nat) → Nat × Nat
  | 0, year, day => (year, day)
  | fuel + 1, year, day =>
    if day < daysInYear year then (year, day) else yearOfDay fuel (year + 1) (day - daysInYear year)

/-- The month and the day of it, both counted from one. -/
def monthOfDay : (month : Nat) → (lengths : List Nat) → (day : Nat) → Nat × Nat
  | month, [], day => (month, day + 1)
  | month, length :: rest, day =>
    if day < length then (month, day + 1) else monthOfDay (month + 1) rest (day - length)

def ofMilliseconds (milliseconds : Nat) : String :=
  let seconds := milliseconds / 1000
  let days := seconds / 86400
  let (year, dayOfYear) := yearOfDay days 1970 days
  let (month, day) := monthOfDay 1 (monthLengths year) dayOfYear
  padded 4 year ++ "-" ++ padded 2 month ++ "-" ++ padded 2 day ++ "T"
    ++ padded 2 (seconds / 3600 % 24) ++ ":" ++ padded 2 (seconds / 60 % 60) ++ ":"
    ++ padded 2 (seconds % 60) ++ "." ++ padded 3 (milliseconds % 1000) ++ "Z"

end LlmTelemetry.Timestamp
