import SampleData.Error
import SampleData.Text.Digits

/-! # Check digits and digit groups

The Luhn sum of a number walks its digits from the right and doubles every second one, casting out nine
from what exceeds nine. A number is valid when the sum that leaves its last digit alone ends in zero; the
check digit of a number is what has to be appended to make it so.
-/
namespace SampleData.Luhn

/-- A doubled digit, its own digits added where it has two. -/
def double (d : Nat) : Nat := if 2 * d > 9 then 2 * d - 9 else 2 * d

/-- The sum over digits taken from the right; `doubled` tells whether the next one is doubled. -/
def sum (doubled : Bool) : List Nat → Nat
  | [] => 0
  | d :: ds => (if doubled then double d else d) + sum (!doubled) ds

/-- The digits of a number, or the first character that is none. -/
def digits (number : String) : Except InputFault (List Nat) :=
  if number.toList = [] then .error .luhnEmpty
  else number.toList.mapM fun c =>
    match Text.digit? c with
    | some d => .ok d
    | none => .error (.luhnNonDigit number c)

def checkDigit (number : String) : Except InputFault Char := do
  let ds ← digits number
  return Text.digitChar ((10 - sum true ds.reverse % 10) % 10)

def append (number : String) : Except InputFault String := do
  return number.push (← checkDigit number)

def isValid (number : String) : Bool :=
  match digits number with
  | .ok ds => sum false ds.reverse % 10 == 0
  | .error _ => false

end SampleData.Luhn

namespace SampleData

/-- Cuts consecutive parts of the given lengths off a text. -/
def cut : List Nat → List Char → List (List Char)
  | [], _ => []
  | n :: ns, cs => cs.take n :: cut ns (cs.drop n)

/-- The text in groups of the given sizes with a blank between them. The text has to be ASCII and the sizes
have to add up to its length. -/
def groupDigits (number : String) (sizes : List Nat) : Except InputFault String :=
  if number.toList.all (fun c => c.toNat < 128) ∧ number.length = sizes.foldr (· + ·) 0 then
    .ok (String.ofList ([' '].intercalate (cut sizes number.toList)))
  else .error (.groupSizes number sizes)

end SampleData
