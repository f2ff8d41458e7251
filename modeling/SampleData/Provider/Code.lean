import SampleData.Checksum
import SampleData.Locale.Profile
import SampleData.Mask
import SampleData.Provider.Bounds
import SampleData.Provider.Options
import SampleData.Provider.Stocked

/-! # Codes

Book, article and device numbers and codes from masks. The provider needs no bundle; only the group of an
ISBN depends on the locale.
-/
namespace SampleData

structure Coder (σ : Type) where
  locale : String
  words : σ

namespace Coder

def domain : String := "code"

def deviceTypes : Table String :=
  ⟨"01124500", ["01161200", "01194800", "01300600", "35209900", "35332400", "35391805", "35487704",
   "35780502", "49015420"]⟩

variable {σ : Type} [WordSource σ]

def customCode (mask : String) (letter digit : Char) : Gen σ String := do
  let symbols ← Gen.accept (Placeholders.ofSymbols letter digit)
  Gen.draw (Mask.expandWith symbols mask)

def issn (mask : Option String) : StateM σ String := Mask.expand (mask.getD "####-####")

def isbnMask (group : String) : IsbnFormat → String
  | .isbn10 => group ++ "-#####-###-#"
  | .isbn13 => "###-" ++ group ++ "-#####-###-#"

def isbn (locale : String) (format : IsbnFormat) : StateM σ String :=
  Mask.expand (isbnMask (Profile.ofCode locale).isbnGroup format)

def digitMask (count : Nat) : String := String.ofList (List.replicate count '#')

def ean : EanFormat → StateM σ String
  | .ean8 => Mask.expand (digitMask 8)
  | .ean13 => Mask.expand (digitMask 13)

/-- A device type, six digits and a check digit. -/
def imei : Gen σ String := do
  let type ← Gen.draw (Random.choose deviceTypes)
  let serial ← Mask.expandDigits .standard 6 (digitMask 6)
  Gen.accept (Luhn.append (type ++ serial))

def pin (mask : Option String) : StateM σ String := Mask.expand (mask.getD "####")

inductive Call where
  | customCode (mask : String) (letter digit : Char)
  | issn (mask : Option String)
  | isbn (format : IsbnFormat)
  | ean (format : EanFormat)
  | imei
  | pin (mask : Option String)
  | describe
  | locale

def perform (locale : String) : Call → Gen σ Json
  | .customCode mask letter digit => (customCode mask letter digit).text
  | .issn mask => (Gen.draw (issn mask)).text
  | .isbn format => (Gen.draw (isbn locale format)).text
  | .ean format => (Gen.draw (ean format)).text
  | .imei => imei.text
  | .pin mask => (Gen.draw (pin mask)).text
  | .describe => pure (.str (Locale.describe "Code" locale))
  | .locale => pure (.str locale)

def fields : List (String × Call) :=
  [("custom_code", .customCode "@###" '@' '#'),
   ("ean", .ean .ean13),
   ("imei", .imei),
   ("isbn", .isbn .isbn10),
   ("issn", .issn none),
   ("pin", .pin none)]

def onWords {α : Type} (step : String → Gen σ α) : Gen (Coder σ) α := fun p =>
  Gen.focus words (fun p w => { p with words := w }) (step p.locale) p

end Coder

end SampleData
