import SampleData.Random.Words

/-! # Uniform doubles

A double below one is made of 53 random bits. A double of a range takes 52 random bits as the fraction
of a double between one and two, and stretches and shifts that by the width and the lower end.
-/
namespace SampleData.Random

variable {σ : Type} [WordSource σ]

/-- The double `2 ^ (-53)`. -/
def unitStep : Float := Float.ofBits 0x3ca0000000000000

def unit : StateM σ Float := do
  return ((← doubleWord) >>> 11).toFloat * unitStep

/-- Stretches a share of the range from `lo` to `hi`. -/
def stretch (lo hi share : Float) : Float := share * (hi - lo) + lo

def real (lo hi : Float) : StateM σ Float := do
  let bits := (← doubleWord) >>> 12 ||| 0x3ff0000000000000
  return stretch lo hi (Float.ofBits bits - 1.0)

end SampleData.Random
