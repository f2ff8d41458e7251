import SampleData.Locale.Profile
import SampleData.Provider.Bounds
import SampleData.Provider.Stocked
import SampleData.Random.Real

/-! # Business data

Companies, their legal forms, copyright lines, currencies and prices.
-/
namespace SampleData.Business

def domain : String := "business"

def currencies : Table String :=
  ⟨"AUD", ["BRL", "CAD", "CHF", "CNY", "DKK", "EUR", "GBP", "INR", "JPY", "MXN", "NOK", "PLN",
   "RUB", "SEK", "UAH", "USD"]⟩

variable {σ : Type} [WordSource σ]

def companyType (b : Bundle) (short : Bool) : Gen σ String :=
  b.pick (if short then "company.type.abbr" else "company.type.title")

def company (b : Bundle) : Gen σ String := b.pick "company.name"

/-- A copyright line. With years the company was founded strictly before the later one; the legal form is
chosen before the years are checked. -/
def copyright (b : Bundle) (withYears : Bool) (lower upper : UInt32) : Gen σ String := do
  let kind ← companyType b true
  if !withYears then
    return "© " ++ (← company b) ++ ", " ++ kind
  if upper ≤ lower then throw (.invalidInput (.foundingYears lower upper))
  let founded ← Gen.draw (Random.unsigned lower (upper - 1))
  let owner ← company b
  return "© " ++ toString founded.toNat ++ "-" ++ toString upper.toNat ++ " " ++ owner ++ ", " ++ kind

def currencyIso : StateM σ String := Random.choose currencies

def price (locale : String) (lower upper : Float) : Gen σ String := do
  Gen.accept (Bounds.real "price" lower upper)
  let amount ← if lower == upper then pure lower else Gen.draw (Random.real lower upper)
  return Decimal.fixed 2 amount ++ " " ++ (Profile.ofCode locale).currencySymbol

inductive Call where
  | company
  | companyType (short : Bool)
  | copyright (withYears : Bool) (lower upper : UInt32)
  | currencyIso
  | price (lower upper : Float)
  | describe
  | locale

def perform (b : Bundle) : Call → Gen σ Json
  | .company => (company b).text
  | .companyType short => (companyType b short).text
  | .copyright withYears lower upper => (copyright b withYears lower upper).text
  | .currencyIso => (Gen.draw currencyIso).text
  | .price lower upper => (price b.locale lower upper).text
  | .describe => pure (.str (Locale.describe "Business" b.locale))
  | .locale => pure (.str b.locale)

def fields : List (String × Call) :=
  [("company", .company),
   ("company_type", .companyType false),
   ("copyright", .copyright true 1990 2016),
   ("currency_iso", .currencyIso),
   ("price", .price 10.0 1000.0)]

end SampleData.Business
