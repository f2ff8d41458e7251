/-! # Calendar dates

The proleptic Gregorian calendar with astronomical years, over the years from -262143 to 262142. Weekdays
count from Monday as zero. The day number of a date counts days from the first of January of year 1, which is
day 1 and a Monday.
-/
namespace SampleData.Calendar

def firstYear : Int := -262143

def lastYear : Int := 262142

def isLeap (year : Int) : Bool := year % 4 == 0 && (year % 100 != 0 || year % 400 == 0)

def monthLength (year : Int) (month : Nat) : Nat :=
  if month = 2 then (if isLeap year then 29 else 28)
  else if month = 4 ∨ month = 6 ∨ month = 9 ∨ month = 11 then 30
  else 31

/-- A date; `Date.ofParts?` makes only dates that exist. -/
structure Date where
  year : Int
  month : Nat
  day : Nat
  deriving DecidableEq, Repr

namespace Date

def ofParts? (year : Int) (month day : Nat) : Option Date :=
  if firstYear ≤ year ∧ year ≤ lastYear ∧ 1 ≤ month ∧ month ≤ 12 ∧ 1 ≤ day
      ∧ day ≤ monthLength year month then
    some ⟨year, month, day⟩
  else none

def previous? (d : Date) : Option Date :=
  if 1 < d.day then ofParts? d.year d.month (d.day - 1)
  else if 1 < d.month then ofParts? d.year (d.month - 1) (monthLength d.year (d.month - 1))
  else ofParts? (d.year - 1) 12 31

def ordinal (d : Date) : Nat :=
  ((List.range' 1 (d.month - 1)).map (monthLength d.year)).foldr (· + ·) 0 + d.day

/-- How many days lie between the first day of year 1 and the first day of `year`. -/
def daysBefore (year : Int) : Int :=
  let n := year - 1
  365 * n + n / 4 - n / 100 + n / 400

def dayNumber (d : Date) : Int := daysBefore d.year + d.ordinal

/-- The weekday of a day number, Monday as zero. -/
def weekdayOf (number : Int) : Nat := ((number - 1) % 7).toNat

def weekday (d : Date) : Nat := weekdayOf d.dayNumber

def weekdayFromSunday (d : Date) : Nat := (d.weekday + 1) % 7

/-- The number of weeks starting on Sunday that have begun in the year. -/
def weekFromSunday (d : Date) : Nat := (d.ordinal + 6 - d.weekdayFromSunday) / 7

/-- The number of weeks starting on Monday that have begun in the year. -/
def weekFromMonday (d : Date) : Nat := (d.ordinal + 6 - d.weekday) / 7

/-- A year has 53 weeks when it starts on a Thursday, or is a leap year and starts on a Wednesday. -/
def weeksIn (year : Int) : Nat :=
  let start := weekdayOf (daysBefore year + 1)
  if start = 3 ∨ (start = 2 ∧ isLeap year) then 53 else 52

/-- Year and number of the week, which belongs to the year its Thursday lies in. -/
def isoWeek (d : Date) : Int × Nat :=
  let week := (d.ordinal + 9 - d.weekday) / 7
  if week = 0 then (d.year - 1, weeksIn (d.year - 1))
  else if weeksIn d.year < week then (d.year + 1, 1)
  else (d.year, week)

def quarter (d : Date) : Nat := (d.month - 1) / 3 + 1

end Date

/-- The number of days that are drawn from in a month: the day before the first of the next month, or 28
where the calendar has no such days. -/
def daysIn (year : Int) (month : Nat) : Nat :=
  let next := if month = 12 then Date.ofParts? (year + 1) 1 1 else Date.ofParts? year (month + 1) 1
  match next.bind Date.previous? with
  | some last => last.day
  | none => 28

end SampleData.Calendar
