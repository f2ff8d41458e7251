import SampleData.Assets.English
import SampleData.Assets.German
import SampleData.Assets.Russian
import SampleData.Json.Printer
import SampleData.Store

/-! # Shipped bundles

The bundles that come with the library, as the texts of a table. A text is the pretty form of its data and a
final line break.
-/
namespace SampleData.Assets

structure LocaleData where
  code : String
  address : Json
  business : Json
  datetime : Json
  food : Json
  personal : Json
  science : Json
  text : Json

def german : LocaleData :=
  ⟨"de", German.address, German.business, German.datetime, German.food, German.personal,
    German.science, German.text⟩

def english : LocaleData :=
  ⟨"en", English.address, English.business, English.datetime, English.food, English.personal,
    English.science, English.text⟩

def russian : LocaleData :=
  ⟨"ru", Russian.address, Russian.business, Russian.datetime, Russian.food, Russian.personal,
    Russian.science, Russian.text⟩

def LocaleData.domains (d : LocaleData) : List (String × Json) :=
  [("address", d.address), ("business", d.business), ("datetime", d.datetime), ("food", d.food),
   ("personal", d.personal), ("science", d.science), ("text", d.text)]

def LocaleData.texts (d : LocaleData) : List BundleText :=
  d.domains.map fun (domain, data) => ⟨d.code, domain, data.pretty ++ "\n"⟩

def table : List BundleText := german.texts ++ english.texts ++ russian.texts

def source : Source := .ofTable table

def store : Store := .ofSource source

def locales : List String := localesOf table

end SampleData.Assets
