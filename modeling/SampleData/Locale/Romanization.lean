import SampleData.Error

/-! # Romanization

Cyrillic text is transliterated character by character. An alphabet gives the Latin text of each of its
small letters; a capital letter has the text of its small one with the first character capitalized, and
every other character stays.
-/
namespace SampleData

abbrev Alphabet := List (Char × String)

namespace Alphabet

def russian : Alphabet :=
  [('а', "a"), ('б', "b"), ('в', "v"), ('г', "g"), ('д', "d"), ('е', "e"), ('ё', "yo"),
   ('ж', "zh"), ('з', "z"), ('и', "i"), ('й', "y"), ('к', "k"), ('л', "l"), ('м', "m"), ('н', "n"),
   ('о', "o"), ('п', "p"), ('р', "r"), ('с', "s"), ('т', "t"), ('у', "u"), ('ф', "f"), ('х', "kh"),
   ('ц', "ts"), ('ч', "ch"), ('ш', "sh"), ('щ', "shch"), ('ъ', ""), ('ы', "y"), ('ь', ""),
   ('э', "e"), ('ю', "yu"), ('я', "ya")]

def ukrainian : Alphabet :=
  [('а', "a"), ('б', "b"), ('в', "v"), ('г', "h"), ('ґ', "g"), ('д', "d"), ('е', "e"), ('є', "ye"),
   ('ж', "zh"), ('з', "z"), ('и', "y"), ('і', "i"), ('ї', "yi"), ('й', "y"), ('к', "k"),
   ('л', "l"), ('м', "m"), ('н', "n"), ('о', "o"), ('п', "p"), ('р', "r"), ('с', "s"), ('т', "t"),
   ('у', "u"), ('ф', "f"), ('х', "kh"), ('ц', "ts"), ('ч', "ch"), ('ш', "sh"), ('щ', "shch"),
   ('ь', "’"), ('ю', "yu"), ('я', "ya")]

/-- The small letter of a Cyrillic capital; every other character is its own. The capitals of the
Slavonic and basic rows lie 80 and 32 places before their small letters, the one of `ґ` lies next to it. -/
def small (c : Char) : Char :=
  let n := c.toNat
  if 0x400 ≤ n ∧ n ≤ 0x40f then Char.ofNat (n + 80)
  else if 0x410 ≤ n ∧ n ≤ 0x42f then Char.ofNat (n + 32)
  else if n = 0x490 then Char.ofNat 0x491
  else c

def capitalize : List Char → List Char
  | [] => []
  | c :: cs => c.toUpper :: cs

def latin (a : Alphabet) (c : Char) : List Char :=
  match a.lookup (small c) with
  | some text => if small c = c then text.toList else capitalize text.toList
  | none => [c]

def romanize (a : Alphabet) (text : String) : String :=
  String.ofList (text.toList.flatMap a.latin)

end Alphabet

end SampleData
