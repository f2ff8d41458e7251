import SampleData.Calendar.Date

/-! # Layouts of dates and times

A layout is a text with specifiers: a percent sign, an optional sign for the padding of a number, and a
letter. A date shows its year, month, week and day fields, a time of day its own; a layout that asks for
anything else, or has an unknown specifier, cannot be rendered.
-/
namespace SampleData.Calendar

structure TimeOfDay where
  hour : Nat
  minute : Nat
  second : Nat
  micro : Nat
  deriving DecidableEq, Repr

/-- The time with the given parts, if there is one. A leap second counts on in the microseconds of the last second
of a minute. -/
def TimeOfDay.ofParts? (hour minute second micro : Nat) : Option TimeOfDay :=
  if hour < 24 ∧ minute < 60 ∧ second < 60 ∧ (micro < 1000000 ∨ second = 59 ∧ micro < 2000000) then
    some ⟨hour, minute, second, micro⟩
  else none

inductive Padding where
  | zero
  | blank
  | none
  deriving DecidableEq, Repr

inductive Field where
  | year
  | century
  | yearOfCentury
  | month
  | day
  | dayOfYear
  | weekdayFromMonday
  | weekdayFromSunday
  | weekFromSunday
  | weekFromMonday
  | isoYear
  | isoYearOfCentury
  | isoWeek
  | quarter
  | hour
  | hourOfHalf
  | minute
  | second
  | nanosecond
  deriving DecidableEq, Repr

inductive Item where
  | literal (c : Char)
  | number (field : Field) (padding : Padding)
  | monthName (short : Bool)
  | weekdayName (short : Bool)
  | meridiem (capital : Bool)
  /-- The fraction of the second with a point, in as few thousandths groups as are exact. -/
  | fraction
  /-- The fraction of the second in so many digits, after a point or not. -/
  | fractionDigits (count : Nat) (point : Bool)
  deriving DecidableEq, Repr

def monthDayYear : List Item :=
  [.number .month .zero, .literal '/', .number .day .zero, .literal '/',
   .number .yearOfCentury .zero]

def hourMinuteSecond : List Item :=
  [.number .hour .zero, .literal ':', .number .minute .zero, .literal ':', .number .second .zero]

def specifier : Char → Option (List Item)
  | 'Y' => some [.number .year .zero]
  | 'C' => some [.number .century .zero]
  | 'y' => some [.number .yearOfCentury .zero]
  | 'm' => some [.number .month .zero]
  | 'd' => some [.number .day .zero]
  | 'e' => some [.number .day .blank]
  | 'j' => some [.number .dayOfYear .zero]
  | 'u' => some [.number .weekdayFromMonday .none]
  | 'w' => some [.number .weekdayFromSunday .none]
  | 'U' => some [.number .weekFromSunday .zero]
  | 'W' => some [.number .weekFromMonday .zero]
  | 'G' => some [.number .isoYear .zero]
  | 'g' => some [.number .isoYearOfCentury .zero]
  | 'V' => some [.number .isoWeek .zero]
  | 'q' => some [.number .quarter .none]
  | 'H' => some [.number .hour .zero]
  | 'k' => some [.number .hour .blank]
  | 'I' => some [.number .hourOfHalf .zero]
  | 'l' => some [.number .hourOfHalf .blank]
  | 'M' => some [.number .minute .zero]
  | 'S' => some [.number .second .zero]
  | 'f' => some [.number .nanosecond .zero]
  | 'b' => some [.monthName true]
  | 'h' => some [.monthName true]
  | 'B' => some [.monthName false]
  | 'a' => some [.weekdayName true]
  | 'A' => some [.weekdayName false]
  | 'p' => some [.meridiem true]
  | 'P' => some [.meridiem false]
  | 'D' => some monthDayYear
  | 'x' => some monthDayYear
  | 'F' => some [.number .year .zero, .literal '-', .number .month .zero, .literal '-',
      .number .day .zero]
  | 'v' => some [.number .day .blank, .literal '-', .monthName true, .literal '-',
      .number .year .zero]
  | 'R' => some [.number .hour .zero, .literal ':', .number .minute .zero]
  | 'T' => some hourMinuteSecond
  | 'X' => some hourMinuteSecond
  | 'r' => some [.number .hourOfHalf .zero, .literal ':', .number .minute .zero, .literal ':',
      .number .second .zero, .literal ' ', .meridiem true]
  | 'n' => some [.literal '\n']
  | 't' => some [.literal '\t']
  | '%' => some [.literal '%']
  | _ => none

/-- A letter with a padding of its own, which only a single number takes. -/
def padded? (padding : Padding) (letter : Char) : Option (List Item) :=
  match specifier letter with
  | some [.number field _] => some [.number field padding]
  | _ => none

def paddingSign? : Char → Option Padding
  | '-' => some .none
  | '0' => some .zero
  | '_' => some .blank
  | _ => none

def fractionCount? : Char → Option Nat
  | '3' => some 3
  | '6' => some 6
  | '9' => some 9
  | _ => none

def shortSpecifier? (a b : Char) : Option (List Item × Nat) :=
  match paddingSign? a, fractionCount? a with
  | some padding, _ => (padded? padding b).map fun items => (items, 2)
  | none, some n => if b = 'f' then some ([.fractionDigits n false], 2) else none
  | none, none => (specifier a).map fun items => (items, 1)

def specifier? : List Char → Option (List Item × Nat)
  | [] => none
  | [a] => (specifier a).map fun items => (items, 1)
  | '.' :: 'f' :: _ => some ([.fraction], 2)
  | '.' :: b :: 'f' :: _ => (fractionCount? b).map fun n => ([.fractionDigits n true], 3)
  | a :: b :: _ => shortSpecifier? a b

/-- The items of a layout; the fuel is at least the number of characters. -/
def itemsFrom : Nat → List Char → Option (List Item)
  | 0, cs => if cs.isEmpty then some [] else none
  | _ + 1, [] => some []
  | fuel + 1, c :: cs =>
    if c = '%' then do
      let (items, taken) ← specifier? cs
      return items ++ (← itemsFrom fuel (cs.drop taken))
    else do
      return .literal c :: (← itemsFrom fuel cs)

def items? (layout : String) : Option (List Item) :=
  itemsFrom layout.toList.length layout.toList

def monthNames : List String :=
  ["January", "February", "March", "April", "May", "June", "July", "August", "September",
   "October", "November", "December"]

def weekdayNames : List String :=
  ["Monday", "Tuesday", "Wednesday", "Thursday", "Friday", "Saturday", "Sunday"]

/-- The name at a position, or its first three letters. -/
def named (names : List String) (i : Nat) (short : Bool) : List Char :=
  let name := (names.getD i "").toList
  if short then name.take 3 else name

/-- Fills digits up to `width` characters. -/
def fillUp (padding : Padding) (width : Nat) (digits : List Char) : List Char :=
  match padding with
  | .none => digits
  | .zero => List.replicate (width - digits.length) '0' ++ digits
  | .blank => List.replicate (width - digits.length) ' ' ++ digits

/-- A number of two places. The tens are one character, that many places after `0`. -/
def twoPlaces (padding : Padding) (n : Nat) : List Char :=
  let ones := Char.ofNat ('0'.toNat + n % 10)
  if n / 10 = 0 then
    match padding with
    | .none => [ones]
    | .blank => [' ', ones]
    | .zero => ['0', ones]
  else [Char.ofNat ('0'.toNat + n / 10), ones]

/-- A year has four places; outside the years 0 to 9999 its sign is always shown and takes a place of its
own. -/
def yearText (padding : Padding) (year : Int) : List Char :=
  let digits := Nat.toDigits 10 year.natAbs
  if 0 ≤ year ∧ year < 10000 then fillUp padding 4 digits
  else
    let sign := if year < 0 then '-' else '+'
    match padding with
    | .none => sign :: digits
    | .zero => sign :: fillUp .zero 4 digits
    | .blank => fillUp .blank 5 (sign :: digits)

/-- The hundreds of a year as they are kept, in one byte. -/
def centuryByte (year : Int) : Nat := (year / 100 % 256).toNat

inductive Subject where
  | date (d : Date)
  | time (t : TimeOfDay)

def Date.field? (d : Date) (padding : Padding) : Field → Option (List Char)
  | .year => some (yearText padding d.year)
  | .century => some (twoPlaces padding (centuryByte d.year))
  | .yearOfCentury => some (twoPlaces padding (d.year % 100).toNat)
  | .month => some (twoPlaces padding d.month)
  | .day => some (twoPlaces padding d.day)
  | .dayOfYear => some (fillUp padding 3 (Nat.toDigits 10 d.ordinal))
  | .weekdayFromMonday => some (Nat.toDigits 10 (d.weekday + 1))
  | .weekdayFromSunday => some (Nat.toDigits 10 d.weekdayFromSunday)
  | .weekFromSunday => some (twoPlaces padding d.weekFromSunday)
  | .weekFromMonday => some (twoPlaces padding d.weekFromMonday)
  | .isoYear => some (yearText padding d.isoWeek.1)
  | .isoYearOfCentury => some (twoPlaces padding (d.isoWeek.1 % 100).toNat)
  | .isoWeek => some (twoPlaces padding d.isoWeek.2)
  | .quarter => some (Nat.toDigits 10 d.quarter)
  | _ => none

def TimeOfDay.field? (t : TimeOfDay) (padding : Padding) : Field → Option (List Char)
  | .hour => some (twoPlaces padding t.hour)
  | .hourOfHalf => some (twoPlaces padding (if t.hour % 12 = 0 then 12 else t.hour % 12))
  | .minute => some (twoPlaces padding t.minute)
  | .second => some (twoPlaces padding t.second)
  | .nanosecond => some (fillUp padding 9 (Nat.toDigits 10 (1000 * t.micro)))
  | _ => none

def Item.render? : Item → Subject → Option (List Char)
  | .literal c, _ => some [c]
  | .number field padding, .date d => d.field? padding field
  | .number field padding, .time t => t.field? padding field
  | .monthName short, .date d => some (named monthNames (d.month - 1) short)
  | .weekdayName short, .date d => some (named weekdayNames d.weekday short)
  | .meridiem capital, .time t =>
    some (match decide (t.hour < 12), capital with
      | true, true => ['A', 'M']
      | true, false => ['a', 'm']
      | false, true => ['P', 'M']
      | false, false => ['p', 'm'])
  | .fraction, .time t =>
    some (if t.micro = 0 then []
      else if t.micro % 1000 = 0 then '.' :: fillUp .zero 3 (Nat.toDigits 10 (t.micro / 1000))
      else '.' :: fillUp .zero 6 (Nat.toDigits 10 t.micro))
  | .fractionDigits count point, .time t =>
    let digits := (fillUp .zero 9 (Nat.toDigits 10 (1000 * t.micro))).take count
    some (if point then '.' :: digits else digits)
  | _, _ => none

def render? (layout : String) (subject : Subject) : Option String := do
  let texts ← (← items? layout).mapM fun item => item.render? subject
  return String.ofList texts.flatten

end SampleData.Calendar
