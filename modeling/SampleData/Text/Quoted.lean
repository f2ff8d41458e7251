import SampleData.Text.Lowercase
import SampleData.Text.PrintTables

/-! # Quoted texts

A text between quotes as an error line and the summary of a facade show it: quotes, backslashes and the usual
control characters have short escapes, and other characters without a printed form of their own are written
as their code point in hexadecimal. Apostrophes stay.
-/
namespace SampleData.Text

def quotedChar (c : Char) : List Char :=
  if c = '"' then ['\\', '"']
  else if c = '\\' then ['\\', '\\']
  else if c = '\n' then ['\\', 'n']
  else if c = '\r' then ['\\', 'r']
  else if c = '\t' then ['\\', 't']
  else if c = '\x00' then ['\\', '0']
  else if within unprinted c then '\\' :: 'u' :: '\x7b' :: Nat.toDigits 16 c.toNat ++ ['\x7d']
  else [c]

def escaped (s : String) : String := String.ofList (s.toList.flatMap quotedChar)

def quoted (s : String) : String := "\"" ++ escaped s ++ "\""

end SampleData.Text
