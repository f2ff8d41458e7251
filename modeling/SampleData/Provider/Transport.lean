import SampleData.Mask
import SampleData.Provider.Stocked

/-! # Vehicles

Makes with models from masks. A model is expanded before the make is chosen.
-/
namespace SampleData.Transport

def trucks : Table String :=
  ⟨"Caledon", ["DAF", "Foden", "Freightliner", "Hino", "Isuzu", "Kenworth", "MAN", "Mack",
   "Peterbilt", "Scania", "Volvo"]⟩

def cars : Table String :=
  ⟨"Audi A4", ["BMW 3 Series", "Ford Focus", "Honda Civic", "Lada Niva", "Mazda 3",
   "Tesla Model S", "Toyota Corolla", "Volkswagen Golf"]⟩

def airplanes : Table String :=
  ⟨"Airbus", ["Antonov", "Boeing", "Bombardier", "Embraer", "Ilyushin", "Tupolev"]⟩

variable {σ : Type} [WordSource σ]

def truck (mask : Option String) : StateM σ String := do
  let model ← Mask.expand (mask.getD "#### @@")
  return (← Random.choose trucks) ++ "-" ++ model

def car : StateM σ String := Random.choose cars

def airplane (mask : Option String) : StateM σ String := do
  let model ← Mask.expand (mask.getD "###")
  return (← Random.choose airplanes) ++ " " ++ model

inductive Call where
  | truck (mask : Option String)
  | car
  | airplane (mask : Option String)

def perform : Call → Gen σ Json
  | .truck mask => (Gen.draw (truck mask)).text
  | .car => (Gen.draw car).text
  | .airplane mask => (Gen.draw (airplane mask)).text

def fields : List (String × Call) :=
  [("airplane", .airplane none), ("car", .car), ("truck", .truck none)]

end SampleData.Transport
