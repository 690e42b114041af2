/-!
Dates and times of day in the proleptic Gregorian calendar, and their texts.
-/

namespace SqlToolkit

structure Date where
  year : Int
  month : Nat
  day : Nat

structure Time where
  hour : Nat
  minute : Nat
  second : Nat

/-- A date with a time of day. -/
structure Moment where
  date : Date
  time : Time

/-- A number with zeros in front up to a width. -/
def padded (width n : Nat) : String :=
  let digits := Nat.toDigits 10 n
  String.ofList (List.replicate (width - digits.length) '0' ++ digits)

namespace Date

/-- Four digits; a year outside of them carries a sign. -/
def yearText (year : Int) : String :=
  if year < 0 then "-" ++ padded 4 year.natAbs
  else if 9999 < year then "+" ++ toString year
  else padded 4 year.toNat

def text (date : Date) : String :=
  yearText date.year ++ "-" ++ padded 2 date.month ++ "-" ++ padded 2 date.day

/-- The number of days of a month. -/
def lastDay (year : Int) (month : Nat) : Nat :=
  if month = 2 then
    if year % 4 = 0 ∧ (year % 100 ≠ 0 ∨ year % 400 = 0) then 29 else 28
  else if month = 4 ∨ month = 6 ∨ month = 9 ∨ month = 11 then 30
  else 31

/-- The number of days since 1 March of the year 0. -/
def dayNumber (date : Date) : Int :=
  let year := if date.month ≤ 2 then date.year - 1 else date.year
  let era := Int.fdiv year 400
  let yearOfEra := year - era * 400
  let month := if 2 < date.month then date.month - 3 else date.month + 9
  let dayOfYear : Int := (153 * month + 2) / 5 + date.day - 1
  era * 146097 + yearOfEra * 365 + yearOfEra / 4 - yearOfEra / 100 + dayOfYear

def ofDayNumber (number : Int) : Date :=
  let era := Int.fdiv number 146097
  let dayOfEra := number - era * 146097
  let yearOfEra := (dayOfEra - dayOfEra / 1460 + dayOfEra / 36524 - dayOfEra / 146096) / 365
  let dayOfYear := (dayOfEra - (365 * yearOfEra + yearOfEra / 4 - yearOfEra / 100)).toNat
  let month := (5 * dayOfYear + 2) / 153
  let day := dayOfYear - (153 * month + 2) / 5 + 1
  if month < 10 then ⟨yearOfEra + era * 400, month + 3, day⟩
  else ⟨yearOfEra + era * 400 + 1, month - 9, day⟩

end Date

def Time.text (time : Time) : String :=
  padded 2 time.hour ++ ":" ++ padded 2 time.minute ++ ":" ++ padded 2 time.second

namespace Moment

def text (moment : Moment) : String :=
  moment.date.text ++ " " ++ moment.time.text

/-- The form used in file names: fields joined by underscores, the time of day as one. -/
def stamp (moment : Moment) : String :=
  Date.yearText moment.date.year ++ "_" ++ padded 2 moment.date.month ++ "_" ++
    padded 2 moment.date.day ++ "_" ++ padded 2 moment.time.hour ++ padded 2 moment.time.minute ++
    padded 2 moment.time.second

def seconds (moment : Moment) : Int :=
  moment.date.dayNumber * 86400 + moment.time.hour * 3600 + moment.time.minute * 60 +
    moment.time.second

def ofSeconds (seconds : Int) : Moment :=
  let days := Int.fdiv seconds 86400
  let rest := (seconds - days * 86400).toNat
  ⟨Date.ofDayNumber days, ⟨rest / 3600, rest / 60 % 60, rest % 60⟩⟩

/-- The moment in universal time of a local one that is `offset` seconds ahead of it. -/
def toUniversal (moment : Moment) (offset : Int) : Moment :=
  ofSeconds (moment.seconds - offset)

end Moment

end SqlToolkit
