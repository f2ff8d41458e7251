import SampleData.Text.CaseTables

/-! # Lowercase texts

Every capital letter gives way to its small letter. Two letters need more: the dotted capital `İ` becomes
an `i` with a combining dot, and a capital sigma at the end of a word becomes `ς`, elsewhere `σ`. It ends a
word when, ignorable characters aside, a cased letter stands before it and none after it.
-/
namespace SampleData.Text

/-- The small letter of a capital; every other character is its own. -/
def smallLetter (c : Char) : Char :=
  let n := c.toNat
  match capitals.find? fun r => r.first ≤ n && n ≤ r.last && (n - r.first) % r.step == 0 with
  | some r => Char.ofNat (n + r.distance).toNat
  | none => c

def within (ranges : List (Nat × Nat)) (c : Char) : Bool :=
  ranges.any fun r => r.1 ≤ c.toNat && c.toNat ≤ r.2

/-- Whether the first character that is not ignorable has letter case. -/
def meetsCased (cs : List Char) : Bool :=
  match cs.dropWhile (within ignorable) with
  | c :: _ => within cased c
  | [] => false

/-- What one character becomes; `before` are the characters before it, the nearest first. -/
def lowerChar (before : List Char) (c : Char) (after : List Char) : List Char :=
  if c = 'Σ' then [if meetsCased before && !meetsCased after then 'ς' else 'σ']
  else if c = 'İ' then ['i', '\u0307']
  else [smallLetter c]

def lowerFrom (before : List Char) : List Char → List Char
  | [] => []
  | c :: cs => lowerChar before c cs ++ lowerFrom (c :: before) cs

def lower (s : String) : String := String.ofList (lowerFrom [] s.toList)

end SampleData.Text
