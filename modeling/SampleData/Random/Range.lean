import SampleData.Random.Words

/-! # Uniform whole numbers

A number below `range` is the high half of a draw times `range`. Where the low half shows that the draw
stands for too small a share of its number, a second draw decides whether the number is raised by one.
A range as wide as the draw itself takes the draw as it is. Every draw is made even where only one number
is possible.
-/
namespace SampleData.Random

variable {σ : Type} [WordSource σ]

inductive Width where
  | single
  | double
  deriving DecidableEq, Repr

def Width.size : Width → Nat
  | .single => UInt32.size
  | .double => UInt64.size

def Width.draw : Width → StateM σ Nat
  | .single => do return (← word).toNat
  | .double => do return (← doubleWord).toNat

/-- A number below `range`, for `0 < range < w.size`. -/
def below (w : Width) (range : Nat) : StateM σ Nat := do
  let p := (← w.draw) * range
  let high := p / w.size
  let low := p % w.size
  if w.size - range < low then
    let q := (← w.draw) * range / w.size
    return if w.size ≤ low + q then high + 1 else high
  else
    return high

/-- A number from `lo` to `hi`. If the range is all of the draw's width, the answer is the number of
the range that the draw is congruent to. -/
def between (w : Width) (lo hi : Int) : StateM σ Int := do
  let range := (hi - lo + 1).toNat
  if range = w.size then
    return lo + ((← w.draw : Nat) - lo) % w.size
  else
    return lo + (← below w range)

def index (n : Nat) : StateM σ Nat := below .single n

def unsigned (lo hi : UInt32) : StateM σ UInt32 := do
  return UInt32.ofNat (← between .single lo.toNat hi.toNat).toNat

def signed (lo hi : Int32) : StateM σ Int32 := do
  return Int32.ofInt (← between .single lo.toInt hi.toInt)

def signedWide (lo hi : Int64) : StateM σ Int64 := do
  return Int64.ofInt (← between .double lo.toInt hi.toInt)

def coin : StateM σ Bool := do
  return decide ((← doubleWord) < 0x8000000000000000)

end SampleData.Random
