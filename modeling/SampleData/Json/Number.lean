import SampleData.Json.Value
import SampleData.Text.Digits

/-! # Numbers of JSON texts

A number without fraction and exponent that fits 64 bits stays a whole number. Every other one becomes
a double: its digits are collected into a significand as long as they fit 64 bits, further digits before
the point only raise the power of ten, further digits after it are dropped, and the significand is scaled
once by the power of ten. A number too large for a double is refused.
-/
namespace SampleData.Json

open Text (isDigit digitValue number)

structure NumberText where
  negative : Bool
  whole : List Char
  fraction : List Char
  exponent : Int
  plain : Bool

/-- Appends a digit to a significand unless it would leave 64 bits. -/
def appendDigit (significand : Nat) (c : Char) : Option Nat :=
  let next := significand * 10 + digitValue c
  if next < UInt64.size then some next else none

def collectWhole : Nat → List Char → Nat × Nat
  | s, [] => (s, 0)
  | s, c :: cs =>
    match appendDigit s c with
    | some t => collectWhole t cs
    | none => (s, cs.length + 1)

def collectFraction : Nat → List Char → Nat × Nat
  | s, [] => (s, 0)
  | s, c :: cs =>
    match appendDigit s c with
    | some t => let (u, n) := collectFraction t cs; (u, n + 1)
    | none => (s, 0)

def powerOfTen (n : Nat) : Float := Float.ofScientific 1 false n

/-- `f * 10 ^ e`, by one multiplication or division where the power of ten is a double. Smaller powers
are reached in steps of `10 ^ 308`; two steps bring every 64-bit significand to zero, which bounds the
fuel. -/
def scale : Nat → Float → Int → Option Float
  | 0, f, _ => some f
  | fuel + 1, f, e =>
    if e.natAbs ≤ 308 then
      if 0 ≤ e then
        let r := f * powerOfTen e.natAbs
        if r.isInf then none else some r
      else some (f / powerOfTen e.natAbs)
    else if f == 0 then some f
    else if 0 ≤ e then none
    else scale fuel (f / powerOfTen 308) (e + 308)

/-- The value of a written number, `none` if it is too large. A negative zero is a double. -/
def NumberText.value (t : NumberText) : Option Json :=
  let (s, dropped) := collectWhole 0 t.whole
  let asDouble (s : Nat) (e : Int) : Option Json :=
    (scale 4 (UInt64.ofNat s).toFloat e).map fun f => .real (if t.negative then -f else f)
  if t.plain && dropped == 0 then
    if !t.negative then some (.int s)
    else if 0 < s ∧ Int64.minValue.toInt ≤ -s then some (.int (-s))
    else asDouble s 0
  else
    let (s, taken) := collectFraction s t.fraction
    asDouble s (dropped - taken + t.exponent)

/-- Splits a written exponent off: `e` or `E`, an optional sign and at least one digit. -/
def readExponent (cs : List Char) : Option (Int × List Char) :=
  let (negative, cs) := match cs with
    | '-' :: r => (true, r)
    | '+' :: r => (false, r)
    | r => (false, r)
  let digits := cs.takeWhile isDigit
  if digits.isEmpty then none
  else
    let n : Int := number digits
    some (if negative then -n else n, cs.dropWhile isDigit)

def readSign : List Char → Bool × List Char
  | '-' :: r => (true, r)
  | r => (false, r)

def readFraction : List Char → Option (Option (List Char) × List Char)
  | '.' :: r =>
    if (r.takeWhile isDigit).isEmpty then none
    else some (some (r.takeWhile isDigit), r.dropWhile isDigit)
  | r => some (none, r)

def readPower : List Char → Option (Option Int × List Char)
  | c :: r =>
    if c = 'e' ∨ c = 'E' then (readExponent r).map fun x => (some x.1, x.2)
    else some (none, c :: r)
  | [] => some (none, [])

/-- Reads a number: an optional minus sign, digits without a superfluous leading zero, and optionally a
fraction and an exponent. -/
def readNumber (cs : List Char) : Option (Json × List Char) :=
  let (negative, cs) := readSign cs
  let whole := cs.takeWhile isDigit
  if whole.isEmpty || (whole.head? == some '0' && whole.length != 1) then none
  else do
    let (fraction, rest) ← readFraction (cs.dropWhile isDigit)
    let (exponent, rest) ← readPower rest
    let v ← NumberText.value
      { negative, whole, fraction := fraction.getD [], exponent := exponent.getD 0,
        plain := fraction.isNone && exponent.isNone }
    return (v, rest)

end SampleData.Json
