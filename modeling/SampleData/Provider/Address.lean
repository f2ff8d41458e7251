import SampleData.Locale.Profile
import SampleData.Mask
import SampleData.Provider.Options
import SampleData.Provider.Stocked
import SampleData.Random.Real

/-! # Addresses

Streets, cities, states, postal codes and coordinates. The layout of a full address is a template of the
bundle: names in braces stand for values, everything else for itself. Values are generated in the order in
which their placeholders stand and are not looked at again.
-/
namespace SampleData.Address

def domain : String := "address"

def countriesIso2 : Table String :=
  ⟨"AR", ["AU", "AT", "BE", "BR", "CA", "CH", "CN", "DE", "DK", "ES", "FI", "FR", "GB", "IN", "IT",
   "JP", "MX", "NL", "NO", "PL", "RU", "SE", "UA", "US"]⟩

def countriesIso3 : Table String :=
  ⟨"ARG", ["AUS", "AUT", "BEL", "BRA", "CAN", "CHE", "CHN", "DEU", "DNK", "ESP", "FIN", "FRA",
   "GBR", "IND", "ITA", "JPN", "MEX", "NLD", "NOR", "POL", "RUS", "SWE", "UKR", "USA"]⟩

def countriesNumeric : Table String :=
  ⟨"032", ["036", "040", "056", "076", "124", "756", "156", "276", "208", "724", "246", "250",
   "826", "356", "380", "392", "484", "528", "578", "616", "643", "752", "804", "840"]⟩

def greatestNumber : UInt32 := 1400

variable {σ : Type} [WordSource σ]

def streetNumber (greatest : UInt32) : Gen σ String := do
  if greatest = 0 then throw (.invalidInput .streetNumbers)
  return toString (← Gen.draw (Random.unsigned 1 greatest)).toNat

def streetName (b : Bundle) : Gen σ String := b.pick "street.name"

def streetSuffix (b : Bundle) : Gen σ String := b.pick "street.suffix"

def city (b : Bundle) : Gen σ String := b.pick "city"

inductive Part where
  | literal (c : Char)
  | placeholder (name : List Char)
  | unclosed
  deriving DecidableEq, Repr

/-- The parts of a template. Inside a placeholder, `opened` holds its characters so far, the last one
first. -/
def partsFrom : Option (List Char) → List Char → List Part
  | none, [] => []
  | some _, [] => [.unclosed]
  | none, c :: cs => if c = '{' then partsFrom (some []) cs else .literal c :: partsFrom none cs
  | some opened, c :: cs =>
    if c = '}' then .placeholder opened.reverse :: partsFrom none cs
    else partsFrom (some (c :: opened)) cs

def valueOf (b : Bundle) (name : String) : Gen σ String :=
  if name = "st_num" then streetNumber greatestNumber
  else if name = "st_name" then streetName b
  else if name = "st_sfx" then streetSuffix b
  else if name = "city" then city b
  else throw (.invalidBundle (.unknownPlaceholder name b.locale))

def renderPart (b : Bundle) (template : String) : Part → Gen σ (List Char)
  | .literal c => pure [c]
  | .placeholder name => String.toList <$> valueOf b (String.ofList name)
  | .unclosed => throw (.invalidBundle (.unclosedPlaceholder template b.locale))

def address (b : Bundle) : Gen σ String := do
  let template ← b.text "address_fmt"
  let texts ← (partsFrom none template.toList).mapM (renderPart b template)
  return String.ofList texts.flatten

def state (b : Bundle) (short : Bool) : Gen σ String :=
  b.pick (if short then "state.abbr" else "state.name")

def postalCode (b : Bundle) : Gen σ String := do
  Gen.draw (Mask.expand (← b.text "postal_code_fmt"))

def country (b : Bundle) : Gen σ String := b.pick "country.name"

def countryIso : CountryCodeFormat → StateM σ String
  | .iso2 => Random.choose countriesIso2
  | .iso3 => Random.choose countriesIso3
  | .numeric => Random.choose countriesNumeric

def latitude : StateM σ Float := Random.real (-90.0) 90.0

def longitude : StateM σ Float := Random.real (-180.0) 180.0

def coordinates : StateM σ Json := do
  let north ← latitude
  let east ← longitude
  return Json.ofFields [("latitude", .real north), ("longitude", .real east)]

inductive Call where
  | streetNumber (greatest : UInt32)
  | streetName
  | streetSuffix
  | address
  | state (short : Bool)
  | postalCode
  | country
  | countryIso (format : CountryCodeFormat)
  | city
  | latitude
  | longitude
  | coordinates
  | describe
  | locale

def perform (b : Bundle) : Call → Gen σ Json
  | .streetNumber greatest => (streetNumber greatest).text
  | .streetName => (streetName b).text
  | .streetSuffix => (streetSuffix b).text
  | .address => (address b).text
  | .state short => (state b short).text
  | .postalCode => (postalCode b).text
  | .country => (country b).text
  | .countryIso format => (Gen.draw (countryIso format)).text
  | .city => (city b).text
  | .latitude => (Gen.draw latitude).double
  | .longitude => (Gen.draw longitude).double
  | .coordinates => Gen.draw coordinates
  | .describe => pure (.str (Locale.describe "Address" b.locale))
  | .locale => pure (.str b.locale)

def fields : List (String × Call) :=
  [("address", .address),
   ("street_number", .streetNumber greatestNumber),
   ("street_name", .streetName),
   ("street_suffix", .streetSuffix),
   ("city", .city),
   ("state", .state false),
   ("postal_code", .postalCode),
   ("country", .country),
   ("country_iso", .countryIso .iso2),
   ("latitude", .latitude),
   ("longitude", .longitude),
   ("coordinates", .coordinates)]

end SampleData.Address
