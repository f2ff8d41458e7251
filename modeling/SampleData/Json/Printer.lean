import SampleData.Json.Value
import SampleData.Decimal.Text
import SampleData.Text.Digits

/-! # Writing JSON

Two forms with the same tokens: `compact` on one line without blanks, and `pretty` with every item and
field on a line of its own, two blanks deeper than the brackets around it. Empty lists and objects stay on
their line. Only quotes, backslashes and control characters are escaped.
-/
namespace SampleData.Json

def escapeChar (c : Char) : List Char :=
  if c = '"' then ['\\', '"']
  else if c = '\\' then ['\\', '\\']
  else if c = '\n' then ['\\', 'n']
  else if c = '\r' then ['\\', 'r']
  else if c = '\t' then ['\\', 't']
  else if c = '\x08' then ['\\', 'b']
  else if c = '\x0c' then ['\\', 'f']
  else if c.toNat < 0x20 then
    ['\\', 'u', '0', '0', Text.hexDigit (c.toNat / 16), Text.hexDigit (c.toNat % 16)]
  else [c]

def quote (s : String) : String := String.ofList ('"' :: s.toList.flatMap escapeChar ++ ['"'])

mutual

def compact : Json → String
  | .null => "null"
  | .bool true => "true"
  | .bool false => "false"
  | .int n => toString n
  | .real x => Decimal.exact x
  | .str s => quote s
  | .list items => "[" ++ ",".intercalate (compactItems items) ++ "]"
  | .object fields => "\x7b" ++ ",".intercalate (compactFields fields) ++ "\x7d"

def compactItems : List Json → List String
  | [] => []
  | v :: vs => compact v :: compactItems vs

def compactFields : List (String × Json) → List String
  | [] => []
  | (k, v) :: fs => (quote k ++ ":" ++ compact v) :: compactFields fs

end

/-- A line break and the blanks before the text of a line at the given depth. -/
def lineStart (depth : Nat) : String := String.ofList ('\n' :: List.replicate (2 * depth) ' ')

mutual

/-- The pretty form of a value whose brackets stand at `depth`. -/
def prettyAt (depth : Nat) : Json → String
  | .list (v :: vs) =>
    "[" ++ lineStart (depth + 1) ++ ("," ++ lineStart (depth + 1)).intercalate (prettyItems (depth + 1) (v :: vs))
      ++ lineStart depth ++ "]"
  | .object (f :: fs) =>
    "\x7b" ++ lineStart (depth + 1)
      ++ ("," ++ lineStart (depth + 1)).intercalate (prettyFields (depth + 1) (f :: fs))
      ++ lineStart depth ++ "\x7d"
  | v => compact v

def prettyItems (depth : Nat) : List Json → List String
  | [] => []
  | v :: vs => prettyAt depth v :: prettyItems depth vs

def prettyFields (depth : Nat) : List (String × Json) → List String
  | [] => []
  | (k, v) :: fs => (quote k ++ ": " ++ prettyAt depth v) :: prettyFields depth fs

end

def pretty (v : Json) : String := prettyAt 0 v

end SampleData.Json
