import SampleData.Gen
import SampleData.Random.Range
import SampleData.Text.Digits

/-! # Masks

A mask is a template with two placeholder symbols: the letter symbol stands for a random capital letter, the
digit symbol for a random digit, and every other character for itself. There is no escape; a mask that has
to contain a symbol literally uses other symbols. Generated characters are not looked at again.
-/
namespace SampleData

structure Placeholders where
  letter : Char
  digit : Char
  distinct : letter ≠ digit
  deriving DecidableEq

namespace Placeholders

def standard : Placeholders := ⟨'@', '#', by decide⟩

def ofSymbols (letter digit : Char) : Except InputFault Placeholders :=
  if h : letter = digit then .error (.samePlaceholders letter) else .ok ⟨letter, digit, h⟩

def withDigit (digit : Char) : Except InputFault Placeholders := ofSymbols standard.letter digit

def countLetters (p : Placeholders) (mask : String) : Nat := mask.toList.count p.letter

def countDigits (p : Placeholders) (mask : String) : Nat := mask.toList.count p.digit

end Placeholders

namespace Mask

variable {σ : Type} [WordSource σ]

def capital (i : Nat) : Char := Char.ofNat ('A'.toNat + i)

def fill (p : Placeholders) (c : Char) : StateM σ Char :=
  if c = p.letter then do return capital (← Random.index 26)
  else if c = p.digit then do return Text.digitChar (← Random.index 10)
  else return c

def expandWith (p : Placeholders) (mask : String) : StateM σ String := do
  return String.ofList (← mask.toList.mapM (fill p))

def expand (mask : String) : StateM σ String := expandWith .standard mask

/-- Expands a mask that must have exactly `digits` digit symbols and no letter symbol. -/
def expandDigits (p : Placeholders) (digits : Nat) (mask : String) : Gen σ String :=
  if p.countLetters mask ≠ 0 then throw (.invalidInput (.lettersInDigitMask mask))
  else if p.countDigits mask ≠ digits then
    throw (.invalidInput (.digitCount mask (p.countDigits mask) digits))
  else .draw (expandWith p mask)

end Mask

end SampleData
