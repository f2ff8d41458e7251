import SampleData.Json.Number

/-! # Reading JSON

A strict reader: no byte order mark, comments, trailing commas or data, no bare control character and
no unpaired surrogate in a string, and at most 127 lists and objects inside one another. Each function
takes the characters that are left and returns what it read and the characters after it.
-/
namespace SampleData.Json

/-- The greatest number of lists and objects that may enclose one another. -/
def maxDepth : Nat := 127

def isBlank (c : Char) : Bool := c = ' ' || c = '\t' || c = '\n' || c = '\r'

def skipBlank (cs : List Char) : List Char := cs.dropWhile isBlank

def shortEscape? : Char → Option Char
  | '"' => some '"'
  | '\\' => some '\\'
  | '/' => some '/'
  | 'b' => some '\x08'
  | 'f' => some '\x0c'
  | 'n' => some '\n'
  | 'r' => some '\r'
  | 't' => some '\t'
  | _ => none

/-- Reads the rest of a string after its opening quote. An escaped high surrogate has to be followed by
an escaped low one, and the two stand for one character. -/
def readChars : List Char → Option (List Char × List Char)
  | [] => none
  | '"' :: rest => some ([], rest)
  | '\\' :: 'u' :: a :: b :: c :: d :: rest =>
    match Text.hexUnit? a b c d with
    | none => none
    | some unit =>
      if 0xd800 ≤ unit ∧ unit < 0xdc00 then
        match rest with
        | '\\' :: 'u' :: e :: f :: g :: h :: rest =>
          match Text.hexUnit? e f g h with
          | none => none
          | some low =>
            if 0xdc00 ≤ low ∧ low < 0xe000 then
              (readChars rest).map fun (s, r) =>
                (Char.ofNat (0x10000 + (unit - 0xd800) * 0x400 + (low - 0xdc00)) :: s, r)
            else none
        | _ => none
      else if 0xdc00 ≤ unit ∧ unit < 0xe000 then none
      else (readChars rest).map fun (s, r) => (Char.ofNat unit :: s, r)
  | '\\' :: e :: rest =>
    match shortEscape? e with
    | some c => (readChars rest).map fun (s, r) => (c :: s, r)
    | none => none
  | c :: rest =>
    if c = '\\' ∨ c.toNat < 0x20 then none
    else (readChars rest).map fun (s, r) => (c :: s, r)

mutual

/-- Reads one value; `depth` more lists or objects may be opened. The fuel bounds the calls and is at
least twice the number of characters. -/
def readValue : Nat → Nat → List Char → Option (Json × List Char)
  | 0, _, _ => none
  | fuel + 1, depth, cs =>
    match skipBlank cs with
    | 'n' :: 'u' :: 'l' :: 'l' :: rest => some (.null, rest)
    | 't' :: 'r' :: 'u' :: 'e' :: rest => some (.bool true, rest)
    | 'f' :: 'a' :: 'l' :: 's' :: 'e' :: rest => some (.bool false, rest)
    | '"' :: rest => (readChars rest).map fun (s, r) => (.str (String.ofList s), r)
    | '[' :: rest =>
      match depth with
      | 0 => none
      | depth + 1 =>
        match skipBlank rest with
        | ']' :: rest => some (.list [], rest)
        | rest => (readItems fuel depth rest).map fun (items, r) => (.list items, r)
    | '{' :: rest =>
      match depth with
      | 0 => none
      | depth + 1 =>
        match skipBlank rest with
        | '}' :: rest => some (.object [], rest)
        | rest => (readMembers fuel depth [] rest).map fun (fields, r) => (.object fields, r)
    | rest => readNumber rest

/-- Reads list items up to the closing bracket. -/
def readItems : Nat → Nat → List Char → Option (List Json × List Char)
  | 0, _, _ => none
  | fuel + 1, depth, cs =>
    match readValue fuel depth cs with
    | none => none
    | some (item, rest) =>
      match skipBlank rest with
      | ']' :: rest => some ([item], rest)
      | ',' :: rest => (readItems fuel depth rest).map fun (items, r) => (item :: items, r)
      | _ => none

/-- Reads object members up to the closing brace into the fields read so far. -/
def readMembers : Nat → Nat → List (String × Json) → List Char →
    Option (List (String × Json) × List Char)
  | 0, _, _, _ => none
  | fuel + 1, depth, fields, cs =>
    match skipBlank cs with
    | '"' :: rest =>
      match readChars rest with
      | none => none
      | some (key, rest) =>
        match skipBlank rest with
        | ':' :: rest =>
          match readValue fuel depth rest with
          | none => none
          | some (value, rest) =>
            let fields := insertEntry (String.ofList key) value fields
            match skipBlank rest with
            | '}' :: rest => some (fields, rest)
            | ',' :: rest => readMembers fuel depth fields rest
            | _ => none
        | _ => none
    | _ => none

end

def readChars? (cs : List Char) : Option Json :=
  match readValue (2 * cs.length + 2) maxDepth cs with
  | some (v, rest) => if skipBlank rest = [] then some v else none
  | none => none

def read? (text : String) : Option Json := readChars? text.toList

end SampleData.Json
