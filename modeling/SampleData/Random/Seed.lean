import SampleData.Random.Words

/-! # Seeds of the streams

One seed serves many streams. Each stream has a key, its name, and starts from the FNV-1a hash of the key
with the seed folded into the offset basis.
-/
namespace SampleData.Random

def offsetBasis : UInt64 := 0xcbf29ce484222325

def fnvPrime : UInt64 := 0x100000001b3

def hashStep (h : UInt64) (b : UInt8) : UInt64 := (h ^^^ b.toUInt64) * fnvPrime

/-- FNV-1a of `bytes` from the offset basis mixed with `seed`. -/
def hashBytes (seed : UInt64) (bytes : List UInt8) : UInt64 :=
  bytes.foldl hashStep (seed ^^^ offsetBasis)

def hashSeed (seed : UInt64) (key : String) : UInt64 := hashBytes seed key.toUTF8.data.toList

def seeded {σ : Type} [SeededSource σ] (seed : UInt64) (key : String) : σ :=
  SeededSource.ofSeed (hashSeed seed key)

end SampleData.Random
