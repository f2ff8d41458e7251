import SampleData.Text.Digits

/-! # TOML strings

Four forms: between quotes, with escapes, or between apostrophes, without; on one line between single marks, or
over several lines between triple ones. A reader gets the characters behind the opening marks and first
finds the end of the string; the escapes of what stands before it are resolved afterwards. Inside triple
marks one or two marks may stand, also at the end, and a line break right behind the opening marks is dropped.
-/
namespace SampleData.Toml

def isBlank (c : Char) : Bool := c = ' ' || c = '\t'

def shortEscape? : Char → Option Char
  | '"' => some '"'
  | '\\' => some '\\'
  | 'b' => some '\x08'
  | 'f' => some '\x0c'
  | 'n' => some '\n'
  | 'r' => some '\r'
  | 't' => some '\t'
  | _ => none

def scalar? (n : Nat) : Option Char :=
  if n < 0xd800 ∨ 0xe000 ≤ n ∧ n < 0x110000 then some (Char.ofNat n) else none

/-- Whether nothing but blanks stands before the next line break. -/
def endsLine (cs : List Char) : Bool := (cs.dropWhile isBlank).head? = some '\n'

/-- Resolves escapes. A backslash at the end of a line drops the line break and all blanks and line breaks
behind it; `dropping` tells that such blanks are being dropped. -/
def unescape (dropping : Bool) : List Char → Option (List Char)
  | [] => some []
  | '\\' :: 'u' :: a :: b :: c :: d :: cs => do
    let x ← scalar? (← Text.hexUnit? a b c d)
    return x :: (← unescape false cs)
  | '\\' :: 'U' :: a :: b :: c :: d :: e :: f :: g :: h :: cs => do
    let x ← scalar? ((← Text.hexUnit? a b c d) * 0x10000 + (← Text.hexUnit? e f g h))
    return x :: (← unescape false cs)
  | '\\' :: c :: cs =>
    match shortEscape? c with
    | some x => (unescape false cs).map (x :: ·)
    | none => if endsLine (c :: cs) then unescape true (c :: cs) else none
  | c :: cs =>
    if c = '\\' then none
    else if dropping && (isBlank c || c = '\n') then unescape true cs
    else (unescape false cs).map (c :: ·)

/-- The raw characters before the closing `mark` on the same line, and what stands behind it. -/
def rawLine (mark : Char) (escapes : Bool) : List Char → Option (List Char × List Char)
  | [] => none
  | c :: cs =>
    if c = mark then some ([], cs)
    else if c = '\n' then none
    else if escapes && c = '\\' then
      match cs with
      | [] => none
      | d :: rest => (rawLine mark escapes rest).map fun (s, r) => (c :: d :: s, r)
    else (rawLine mark escapes cs).map fun (s, r) => (c :: s, r)

def rawLines (mark : Char) (escapes : Bool) : List Char → Option (List Char × List Char)
  | [] => none
  | c :: cs =>
    if c = mark && cs.take 2 = [mark, mark] then
      let more := (cs.drop 2).takeWhile (· = mark)
      if more.length ≤ 2 then some (more, (cs.drop 2).dropWhile (· = mark)) else none
    else if escapes && c = '\\' then
      match cs with
      | [] => none
      | d :: rest => (rawLines mark escapes rest).map fun (s, r) => (c :: d :: s, r)
    else (rawLines mark escapes cs).map fun (s, r) => (c :: s, r)

def resolve (escapes : Bool) (raw : List Char) : Option String :=
  if escapes then (unescape false raw).map String.ofList else some (String.ofList raw)

def readLine (mark : Char) (cs : List Char) : Option (String × List Char) := do
  let (raw, rest) ← rawLine mark (mark = '"') cs
  return (← resolve (mark = '"') raw, rest)

def readLines (mark : Char) (cs : List Char) : Option (String × List Char) := do
  let cs := match cs with
    | '\n' :: r => r
    | r => r
  let (raw, rest) ← rawLines mark (mark = '"') cs
  return (← resolve (mark = '"') raw, rest)

end SampleData.Toml
