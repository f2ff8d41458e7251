import SampleData.Provider.Bounds
import SampleData.Provider.Primes
import SampleData.Provider.Stocked
import SampleData.Random.Real

/-! # Numbers

Random doubles and integers, primes, and ratings.
-/
namespace SampleData.Numbers

def greatestExponent : UInt32 := 7

def greatestStop : UInt32 := 10000000

variable {σ : Type} [WordSource σ]

def floats (exponent : UInt32) : Gen σ (List Float) :=
  if greatestExponent < exponent then
    throw (.invalidInput (.tooManyReals exponent.toNat greatestExponent.toNat))
  else Gen.draw (Random.times (Nat.pow 10 exponent.toNat) Random.unit)

def primes (start stop : UInt32) : Except InputFault (List Nat) := do
  Bounds.whole "primes" start.toNat stop.toNat
  if greatestStop < stop then .error (.primesTooFar stop.toNat greatestStop.toNat)
  else return Primes.between start.toNat stop.toNat

def digit : StateM σ UInt32 := Random.unsigned 0 9

def between (lower upper : Int64) : Gen σ Int64 := do
  Gen.accept (Bounds.whole "between" lower.toInt upper.toInt)
  Gen.draw (Random.signedWide lower upper)

/-- The nearest multiple of one tenth, over any numbers with a `round` to whole ones. -/
def toTenth {α : Type} [Mul α] [Div α] (round : α → α) (ten x : α) : α := round (x * ten) / ten

/-- A rating up to `greatest`, rounded to tenths, a half away from zero. -/
def rating (greatest : Float) : Gen σ Float := do
  Gen.accept (Bounds.real "rating" 0.0 greatest)
  return toTenth Float.round 10.0 (← Gen.draw (Random.real 0.0 greatest))

inductive Call where
  | floats (exponent : UInt32)
  | primes (start stop : UInt32)
  | digit
  | between (lower upper : Int64)
  | rating (greatest : Float)

def perform : Call → Gen σ Json
  | .floats exponent => (fun xs => Json.list (xs.map .real)) <$> floats exponent
  | .primes start stop =>
    (fun ps => Json.list (ps.map fun (p : Nat) => .int p)) <$> Gen.accept (primes start stop)
  | .digit => (Gen.draw digit).number
  | .between lower upper => (fun n => Json.int n.toInt) <$> between lower upper
  | .rating greatest => (rating greatest).double

def fields : List (String × Call) :=
  [("between", .between 1 1000),
   ("digit", .digit),
   ("floats", .floats 2),
   ("primes", .primes 1 999),
   ("rating", .rating 5.0)]

end SampleData.Numbers
