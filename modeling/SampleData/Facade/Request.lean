import SampleData.Facade.Markup

/-! # Requests

What can be asked of a facade, as data, so that a run of a facade is a list of requests.
-/
namespace SampleData

inductive Request where
  | call (p : Builtin) (c : p.Call)
  | generate (provider field : String)
  | fields (provider : String)
  | json (provider : String) (items : Nat)
  | declaration
  | rule
  | element
  | attributeValue (tag name : String)

namespace Facade

variable {σ ι : Type} [SeededSource σ] [Registrable ι]

def answer : Request → Step σ ι Json
  | .call p c => call p c
  | .generate provider field => generate provider field
  | .fields provider => Json.ofStrings <$> fields provider
  | .json provider items => json provider items
  | .declaration => Json.str <$> Markup.declaration
  | .rule => Json.str <$> Markup.rule
  | .element => Json.str <$> Markup.element
  | .attributeValue tag name => Json.str <$> Markup.valueFor tag name

end Facade

end SampleData
