import SampleData.Locale.Profile
import SampleData.Provider.Stocked

/-! # Food -/
namespace SampleData.Food

def domain : String := "food"

inductive Call where
  | vegetable
  | fruit
  | dish
  | spices
  | drink
  | describe
  | locale

def perform {σ : Type} [WordSource σ] (b : Bundle) : Call → Gen σ Json
  | .vegetable => (b.pick "vegetables").text
  | .fruit => (b.pick "fruits").text
  | .dish => (b.pick "dishes").text
  | .spices => (b.pick "spices").text
  | .drink => (b.pick "drinks").text
  | .describe => pure (.str (Locale.describe "Food" b.locale))
  | .locale => pure (.str b.locale)

def fields : List (String × Call) :=
  [("dish", .dish), ("drink", .drink), ("fruit", .fruit), ("spices", .spices),
   ("vegetable", .vegetable)]

end SampleData.Food
