/-! # Random words

Every random value is made from 32-bit words that a source yields one after the other. Samplers are
written for any `WordSource`, so a fact about a sampler holds of every source: of the seeded keystream
and of `WordStream`, the source that yields an arbitrary given sequence.
-/
namespace SampleData

/-- A source of random words: each step yields a word and the source behind it. -/
class WordSource (σ : Type) where
  next : σ → UInt32 × σ

/-- A source that can be started from a 64-bit seed. -/
class SeededSource (σ : Type) extends WordSource σ where
  ofSeed : UInt64 → σ

def WordStream : Type := Nat → UInt32

instance : WordSource WordStream where
  next s := (s 0, fun n => s (n + 1))

namespace Random

variable {σ : Type} [WordSource σ]

def word : StateM σ UInt32 := WordSource.next

/-- Draws two words; the first is the low half. -/
def doubleWord : StateM σ UInt64 := do
  let low ← word
  let high ← word
  return low.toUInt64 ||| high.toUInt64 <<< 32

def times {m : Type → Type} [Monad m] {α : Type} : Nat → m α → m (List α)
  | 0, _ => pure []
  | n + 1, step => do
    let a ← step
    let rest ← times n step
    return a :: rest

end Random

end SampleData
