import SampleData.Text.Digits
import SampleData.Text.Pieces
import SampleData.Text.WhiteSpace

/-! # Chemical elements

Bundles write an element as `Name|Symbol|Number`, with white space around each part as one likes. The number
is a run of digits with an optional plus sign and fits 32 bits.
-/
namespace SampleData

structure Element where
  name : String
  symbol : String
  atomicNumber : UInt32
  deriving DecidableEq, Repr

namespace Element

def number? (cs : List Char) : Option UInt32 :=
  let digits := match cs with
    | '+' :: ds => ds
    | ds => ds
  if digits ≠ [] ∧ digits.all Text.isDigit ∧ Text.number digits < UInt32.size then
    some (UInt32.ofNat (Text.number digits))
  else none

def ofEntry? (entry : String) : Option Element :=
  match (Text.pieces '|' entry.toList).map Text.trim with
  | [name, symbol, number] =>
    if name = [] ∨ symbol = [] then none
    else (number? number).map fun n => ⟨String.ofList name, String.ofList symbol, n⟩
  | _ => none

def entry (e : Element) : String := e.name ++ "|" ++ e.symbol ++ "|" ++ toString e.atomicNumber.toNat

end Element

end SampleData
