import TapeAdmin.Toml.Reader

/-!
# TOML dates and times

Dates, times of day, and both together, perhaps with the distance from universal time.
-/

namespace TapeAdmin.Toml.Reader

/-- The cause of a number that its place does not allow. -/
def outOfRange : String := "value is out of range"

/-- A number of `count` digits. -/
def digitCount (count : Nat) : Reader Nat := do
  let candidates := (← remaining).take count
  match Text.ofDigits? 10 candidates with
  | some number =>
    if candidates.length < count then mismatch
    else
      discard (take count)
      pure number
  | none => mismatch

/-- A number of two digits within bounds. -/
def twoDigits (low high : Nat) : Reader Nat :=
  refine (digitCount 2) fun number =>
    if low ≤ number && number ≤ high then .ok number else .error outOfRange

/-- How many days a month has. -/
def daysIn (year month : Nat) : Nat :=
  if month = 2 then
    if year % 4 = 0 && (year % 100 != 0 || year % 400 = 0) then 29 else 28
  else if [4, 6, 9, 11].contains month then 30
  else 31

/-- Takes a date. Four digits and a hyphen announce it. -/
def date : Reader Unit := do
  let year ← digitCount 4
  expect "-"
  final do
    let month ← twoDigits 1 12
    expect "-"
    discard (refine (twoDigits 1 31) fun day =>
      if day ≤ daysIn year month then .ok day else .error outOfRange)

/-- Takes a part of a second. -/
def secondFraction : Reader Unit := do
  expect "."
  discard (takeSome Char.isDigit)

/-- Takes a time of day. An hour and a colon announce it. -/
def timeOfDay : Reader Unit := do
  discard (twoDigits 0 23)
  expect ":"
  final do
    discard (twoDigits 0 59)
    expect ":"
    discard (twoDigits 0 60)
    discard (attempt secondFraction)

/-- Takes the distance of a time from universal time. -/
def timeOffset : Reader Unit :=
  named "time offset" (either
    (discard (one fun char => char == 'Z' || char == 'z'))
    do
      discard (one fun char => char == '+' || char == '-')
      final do
        discard (twoDigits 0 23)
        expect ":"
        discard (twoDigits 0 59))

/-- Takes the time that follows a date. -/
def timeAfterDate : Reader Unit := do
  discard (one fun char => char == 'T' || char == 't' || char == ' ')
  timeOfDay
  discard (attempt timeOffset)

/-- Takes a date, a time, or a date and a time. -/
def moment : Reader Unit :=
  either
    (named "date-time" do
      date
      discard (attempt timeAfterDate))
    (named "time" timeOfDay)

end TapeAdmin.Toml.Reader
