import SampleData.Calendar.Layout
import SampleData.Locale.Profile
import SampleData.Provider.Bounds
import SampleData.Provider.Stocked

/-! # Dates and times

Calendar names of the locale, and random dates and times in a layout of the caller's or of the locale. All
parts of a date are drawn before the layout is looked at.
-/
namespace SampleData.Datetime

def domain : String := "datetime"

def centuries : Table String :=
  ⟨"I", ["II", "III", "IV", "V", "VI", "VII", "VIII", "IX", "X", "XI", "XII", "XIII", "XIV", "XV",
   "XVI", "XVII", "XVIII", "XIX", "XX", "XXI"]⟩

variable {σ : Type} [WordSource σ]

def dayOfWeek (b : Bundle) (short : Bool) : Gen σ String :=
  b.pick (if short then "day.abbr" else "day.name")

def month (b : Bundle) (short : Bool) : Gen σ String :=
  b.pick (if short then "month.abbr" else "month.name")

def year (lower upper : Int32) : Gen σ Int32 := do
  Gen.accept (Bounds.whole "year" lower.toInt upper.toInt)
  Gen.draw (Random.signed lower upper)

def century : StateM σ String := Random.choose centuries

def periodicity (b : Bundle) : Gen σ String := b.pick "periodicity"

/-- The subject in the given layout, or in the bundle's layout at `path`. -/
def rendered (b : Bundle) (path : String) (layout : Option String) (subject : Calendar.Subject) :
    Gen σ String := do
  let layout ← match layout with
    | some layout => pure layout
    | none => b.text path
  match Calendar.render? layout subject with
  | some text => return text
  | none => throw (.invalidInput (.unrenderable layout))

def date (b : Bundle) (start stop : Int32) (layout : Option String) : Gen σ String := do
  let year := (← year start stop).toInt
  let month := (← Gen.draw (Random.unsigned 1 12)).toNat
  let day := (← Gen.draw (Random.unsigned 1 (UInt32.ofNat (Calendar.daysIn year month)))).toNat
  match Calendar.Date.ofParts? year month day with
  | some d => rendered b "formats.date" layout (.date d)
  | none => throw (.invalidInput (.notADate year month day))

def time (b : Bundle) (layout : Option String) : Gen σ String := do
  let hour ← Gen.draw (Random.index 24)
  let minute ← Gen.draw (Random.index 60)
  let second ← Gen.draw (Random.index 60)
  let micro ← Gen.draw (Random.index 1000000)
  match Calendar.TimeOfDay.ofParts? hour minute second micro with
  | some t => rendered b "formats.time" layout (.time t)
  | none => throw (.invalidInput .notATime)

def dayOfMonth : StateM σ UInt32 := Random.unsigned 1 31

inductive Call where
  | dayOfWeek (short : Bool)
  | month (short : Bool)
  | year (lower upper : Int32)
  | century
  | periodicity
  | date (start stop : Int32) (layout : Option String)
  | time (layout : Option String)
  | dayOfMonth
  | describe
  | locale

def perform (b : Bundle) : Call → Gen σ Json
  | .dayOfWeek short => (dayOfWeek b short).text
  | .month short => (month b short).text
  | .year lower upper => (fun n => Json.int n.toInt) <$> year lower upper
  | .century => (Gen.draw century).text
  | .periodicity => (periodicity b).text
  | .date start stop layout => (date b start stop layout).text
  | .time layout => (time b layout).text
  | .dayOfMonth => (Gen.draw dayOfMonth).number
  | .describe => pure (.str (Locale.describe "Datetime" b.locale))
  | .locale => pure (.str b.locale)

def fields : List (String × Call) :=
  [("century", .century),
   ("date", .date 2000 2035 none),
   ("day_of_month", .dayOfMonth),
   ("day_of_week", .dayOfWeek false),
   ("month", .month false),
   ("periodicity", .periodicity),
   ("time", .time none),
   ("year", .year 1990 2050)]

end SampleData.Datetime
