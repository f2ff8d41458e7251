import SampleData.Provider.Bounds
import SampleData.Provider.Stocked

/-! # Clothing sizes -/
namespace SampleData.ClothingSizes

def letterSizes : Table String :=
  ⟨"L", ["M", "S", "XL", "XS", "XXL", "XXS", "XXXL"]⟩

variable {σ : Type} [WordSource σ]

def european : StateM σ UInt32 := do
  return 2 * (← Random.unsigned 20 30)

def custom (lower upper : UInt32) : Gen σ UInt32 := do
  Gen.accept (Bounds.whole "clothing size" lower.toNat upper.toNat)
  Gen.draw (Random.unsigned lower upper)

inductive Call where
  | international
  | european
  | custom (lower upper : UInt32)

def perform : Call → Gen σ Json
  | .international => (Gen.draw (Random.choose letterSizes)).text
  | .european => (Gen.draw european).number
  | .custom lower upper => (custom lower upper).number

def fields : List (String × Call) :=
  [("custom", .custom 40 62), ("european", .european), ("international", .international)]

end SampleData.ClothingSizes
