import SampleData.Calendar.Date
import SampleData.Text.Digits
import SampleData.Toml.Value

/-! # TOML numbers, dates and times

Digits may be grouped by single underscores. Whole numbers fit 64 bits with their sign and may be written in
hexadecimal, octal or binary, then without a sign. A number with a fraction or an exponent is a double; one
that is too large above zero is refused. Dates exist in the calendar; a time may have a leap second.
-/
namespace SampleData.Toml

open Text (isDigit digitValue number)

def moreDigits (isOne : Char → Bool) : List Char → Option (List Char × List Char)
  | [] => some ([], [])
  | '_' :: d :: cs =>
    if isOne d then (moreDigits isOne cs).map fun (ds, r) => (d :: ds, r) else none
  | c :: cs =>
    if isOne c then (moreDigits isOne cs).map fun (ds, r) => (c :: ds, r)
    else if c = '_' then none
    else some ([], c :: cs)

def readDigits (isOne : Char → Bool) : List Char → Option (List Char × List Char)
  | [] => none
  | c :: cs =>
    if isOne c then (moreDigits isOne cs).map fun (ds, r) => (c :: ds, r) else none

def readWhole : List Char → Option (List Char × List Char)
  | '0' :: cs => some (['0'], cs)
  | cs => readDigits isDigit cs

def isDigitIn (base : Nat) (c : Char) : Bool :=
  match Text.hexValue? c with
  | some n => n < base
  | none => false

/-- The value of digits in a base up to sixteen. -/
def numberIn (base : Nat) (digits : List Char) : Nat :=
  digits.foldl (fun n c => base * n + (Text.hexValue? c).getD 0) 0

def whole? (n : Int) : Option Toml :=
  if Int64.minValue.toInt ≤ n ∧ n ≤ Int64.maxValue.toInt then some (.int n) else none

/-- Powers of ten beyond which every significand of `places` digits is infinite or zero. -/
def isHuge (places : Nat) (exponent : Int) : Bool := exponent + places > 400

def isTiny (places : Nat) (exponent : Int) : Bool := exponent + places < -400

/-- The double nearest to `digits * 10 ^ exponent`. -/
def double (digits : List Char) (exponent : Int) : Float :=
  let places := digits.length - (digits.takeWhile (· = '0')).length
  if places = 0 ∨ isTiny places exponent then 0
  else if isHuge places exponent then Float.ofScientific 1 false 400
  else Float.ofScientific (number digits) (exponent < 0) exponent.natAbs

def real? (negative : Bool) (x : Float) : Option Toml :=
  if negative then some (.real (-x)) else if x.isInf then none else some (.real x)

def readExponent (cs : List Char) : Option (Int × List Char) := do
  let (negative, cs) := match cs with
    | '-' :: r => (true, r)
    | '+' :: r => (false, r)
    | r => (false, r)
  let (digits, rest) ← readDigits isDigit cs
  let n : Int := number digits
  return (if negative then -n else n, rest)

def readFraction (negative : Bool) (whole : List Char) : List Char → Option (Toml × List Char)
  | '.' :: cs => do
    let (fraction, rest) ← readDigits isDigit cs
    let (exponent, rest) ← match rest with
      | c :: r => if c = 'e' ∨ c = 'E' then readExponent r else some (0, c :: r)
      | [] => some (0, [])
    return (← real? negative (double (whole ++ fraction) (exponent - fraction.length)), rest)
  | c :: cs => do
    if c = 'e' ∨ c = 'E' then
      let (exponent, rest) ← readExponent cs
      return (← real? negative (double whole exponent), rest)
    else
      return (← whole? (if negative then -(number whole : Int) else number whole), c :: cs)
  | [] => do
    return (← whole? (if negative then -(number whole : Int) else number whole), [])

def readUnsigned (negative : Bool) : List Char → Option (Toml × List Char)
  | 'i' :: 'n' :: 'f' :: cs => some (.real (if negative then -(1.0 / 0.0) else 1.0 / 0.0), cs)
  | 'n' :: 'a' :: 'n' :: cs => some (.real (0.0 / 0.0), cs)
  | cs => do
    let (digits, rest) ← readWhole cs
    readFraction negative digits rest

def readIn (base : Nat) (cs : List Char) : Option (Toml × List Char) := do
  let (digits, rest) ← readDigits (isDigitIn base) cs
  return (← whole? (numberIn base digits), rest)

def readNumber : List Char → Option (Toml × List Char)
  | '+' :: cs => readUnsigned false cs
  | '-' :: cs => readUnsigned true cs
  | '0' :: 'x' :: cs => readIn 16 cs
  | '0' :: 'o' :: cs => readIn 8 cs
  | '0' :: 'b' :: cs => readIn 2 cs
  | cs => readUnsigned false cs

def readTwo (greatest : Nat) : List Char → Option (Nat × List Char)
  | a :: b :: cs =>
    if isDigit a ∧ isDigit b ∧ number [a, b] ≤ greatest then some (number [a, b], cs) else none
  | _ => none

/-- What stands behind a time, whose hour has been read. -/
def readMinutes : List Char → Option (List Char)
  | ':' :: cs => do
    let (_, cs) ← readTwo 59 cs
    return cs
  | _ => none

def readSeconds : List Char → Option (List Char)
  | ':' :: cs => do
    let (_, cs) ← readTwo 60 cs
    match cs with
    | '.' :: r => if (r.takeWhile isDigit).isEmpty then none else some (r.dropWhile isDigit)
    | r => some r
  | _ => none

def readTime (cs : List Char) : Option (List Char) := do
  let (_, cs) ← readTwo 23 cs
  readSeconds (← readMinutes cs)

def readOffset : List Char → Option (List Char)
  | [] => some []
  | c :: cs =>
    if c = 'Z' ∨ c = 'z' then some cs
    else if c = '+' ∨ c = '-' then do
      let (_, cs) ← readTwo 23 cs
      readMinutes cs
    else some (c :: cs)

/-- Whether characters start with a time, as far as its hour and a colon go. -/
def startsTime (cs : List Char) : Bool :=
  match readTwo 23 cs with
  | some (_, c :: _) => c = ':'
  | _ => false

def startsDate (cs : List Char) : Bool :=
  (cs.take 4).length = 4 && (cs.take 4).all isDigit && (cs.drop 4).head? = some '-'

def readDate (cs : List Char) : Option (List Char) := do
  let year : Int := number (cs.take 4)
  let (month, cs) ← readTwo 12 (cs.drop 5)
  match cs with
  | '-' :: cs =>
    let (day, cs) ← readTwo 31 cs
    if (Calendar.Date.ofParts? year month day).isSome then some cs else none
  | _ => none

def readDateTime (cs : List Char) : Option (List Char) := do
  match ← readDate cs with
  | c :: rest =>
    if (c = 'T' ∨ c = 't' ∨ c = ' ') ∧ startsTime rest then readOffset (← readTime rest)
    else some (c :: rest)
  | [] => some []

def momentBefore (cs rest : List Char) : Toml :=
  .moment (String.ofList (cs.take (cs.length - rest.length)))

def readScalar (cs : List Char) : Option (Toml × List Char) :=
  if startsDate cs then (readDateTime cs).map fun r => (momentBefore cs r, r)
  else if startsTime cs then (readTime cs).map fun r => (momentBefore cs r, r)
  else readNumber cs

end SampleData.Toml
