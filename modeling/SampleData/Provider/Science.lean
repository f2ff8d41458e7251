import SampleData.Locale.Profile
import SampleData.Provider.Element
import SampleData.Provider.Stocked

/-! # Science

Formulas, articles, scientists and chemical elements.
-/
namespace SampleData.Science

def domain : String := "science"

def formulas : Table String :=
  ⟨"A = (ab)/2", ["A = a2", "A = πr2", "E = mc2", "P = 2(a + b)", "V = (4/3)πr3", "a2 + b2 = c2",
   "c = 2πr"]⟩

variable {σ : Type} [WordSource σ]

def mathFormula : StateM σ String := Random.choose formulas

def chemicalElement (b : Bundle) : Gen σ Element := do
  let entry ← b.pick "element"
  match Element.ofEntry? entry with
  | some e => return e
  | none => throw (.invalidBundle (.notAnElement entry b.locale))

def elementJson (e : Element) : Json :=
  Json.ofFields [("name", .str e.name), ("symbol", .str e.symbol),
    ("atomic_number", .int e.atomicNumber.toNat)]

inductive Call where
  | mathFormula
  | chemicalElement
  | scientificArticle
  | scientist
  | describe
  | locale

def perform (b : Bundle) : Call → Gen σ Json
  | .mathFormula => (Gen.draw mathFormula).text
  | .chemicalElement => elementJson <$> chemicalElement b
  | .scientificArticle => (b.pick "article").text
  | .scientist => (b.pick "scientist").text
  | .describe => pure (.str (Locale.describe "Science" b.locale))
  | .locale => pure (.str b.locale)

def fields : List (String × Call) :=
  [("chemical_element", .chemicalElement),
   ("math_formula", .mathFormula),
   ("scientific_article", .scientificArticle),
   ("scientist", .scientist)]

end SampleData.Science
