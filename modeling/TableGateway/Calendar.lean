import TableGateway.Text.Numeral

/-!
# Dates and times of day

The proleptic Gregorian calendar without zones.  Validity is part of each type: a `Date` names a
day that exists, and a `TimeOfDay` is one of the 86400 seconds of a day with a fraction in
nanoseconds.  A second may be a leap second, whose fraction runs on from one to two seconds.  Any
second may come to be one by its fraction; from its fields, only the last second of a minute is made
one.

Their text is `YYYY-MM-DD` and `HH:MM:SS`; a year outside 0 to 9999 carries a sign, a fraction is
written with 3, 6 or 9 digits, the fewest that are exact, and a leap second is written as the second
after it, which is `60` at the end of a minute.
-/

namespace TableGateway

/-- Whether a year has 366 days. -/
def isLeapYear (year : Int) : Bool :=
  year % 4 == 0 && (year % 100 != 0 || year % 400 == 0)

/-- The number of days of a month. -/
def daysInMonth (year : Int) (month : Nat) : Nat :=
  if month = 2 then if isLeapYear year then 29 else 28
  else if month = 4 ∨ month = 6 ∨ month = 9 ∨ month = 11 then 30
  else 31

/-- A day of the calendar. -/
structure Date where
  year : Int
  month : Nat
  day : Nat
  valid : 1 ≤ month ∧ month ≤ 12 ∧ 1 ≤ day ∧ day ≤ daysInMonth year month
  deriving DecidableEq

/-- A second of a day and a fraction of it. -/
structure TimeOfDay where
  hour : Nat
  minute : Nat
  second : Nat
  nano : Nat
  valid : hour < 24 ∧ minute < 60 ∧ second < 60 ∧ nano < 2000000000
  deriving DecidableEq

/-- A second of a day of the calendar. -/
structure DateTime where
  date : Date
  time : TimeOfDay
  deriving DecidableEq

/-- The day with this year, month and day of the month, if there is one. -/
def Date.ofYmd? (year : Int) (month day : Nat) : Option Date :=
  if h : 1 ≤ month ∧ month ≤ 12 ∧ 1 ≤ day ∧ day ≤ daysInMonth year month then
    some ⟨year, month, day, h⟩
  else none

/-- The time with these fields, if there is one.  Only the last second of a minute is made a leap
second. -/
def TimeOfDay.ofHms? (hour minute second nano : Nat) : Option TimeOfDay :=
  if h : (hour < 24 ∧ minute < 60 ∧ second < 60 ∧ nano < 2000000000) ∧
      (1000000000 ≤ nano → second = 59) then
    some ⟨hour, minute, second, nano, h.1⟩
  else none

/-- A year: four digits, and a sign in front where it lies outside 0 to 9999. -/
def Date.yearText (year : Int) : List Char :=
  if 0 ≤ year ∧ year ≤ 9999 then Text.padded 4 year.natAbs
  else (if year < 0 then '-' else '+') :: Text.padded 4 year.natAbs

/-- The text of a date. -/
def Date.text (d : Date) : List Char :=
  yearText d.year ++ '-' :: Text.padded 2 d.month ++ '-' :: Text.padded 2 d.day

/-- A fraction of a second: nothing, or a point and the fewest of 3, 6 or 9 digits. -/
def TimeOfDay.fractionText (nano : Nat) : List Char :=
  if nano = 0 then []
  else if nano % 1000000 = 0 then '.' :: Text.padded 3 (nano / 1000000)
  else if nano % 1000 = 0 then '.' :: Text.padded 6 (nano / 1000)
  else '.' :: Text.padded 9 nano

/-- The text of a time. -/
def TimeOfDay.text (t : TimeOfDay) : List Char :=
  Text.padded 2 t.hour ++ ':' :: Text.padded 2 t.minute ++
    ':' :: Text.padded 2 (t.second + t.nano / 1000000000) ++
    fractionText (t.nano % 1000000000)

/-- The text of a date and a time, with a mark between them. -/
def DateTime.textWith (mark : Char) (t : DateTime) : List Char :=
  t.date.text ++ mark :: t.time.text

/-- The text of a date and a time. -/
def DateTime.text (t : DateTime) : List Char :=
  t.textWith ' '

end TableGateway
