import SampleData.Random.Words
import SampleData.Rotation

/-! # The ChaCha8 keystream

A key of eight words and a block counter determine a block of sixteen words: eight rounds over a state
of constants, key, counter and two zero words, and the state added back. The keystream yields the words
of block 0, block 1, and so on; the words of the current block that are still to come are kept.
-/
namespace SampleData

namespace ChaCha

abbrev State := Vector UInt32 16

def quarterRound (a b c d : Fin 16) (s : State) : State :=
  let s := s.set a (s[a] + s[b])
  let s := s.set d (rotateLeft (s[d] ^^^ s[a]) 16)
  let s := s.set c (s[c] + s[d])
  let s := s.set b (rotateLeft (s[b] ^^^ s[c]) 12)
  let s := s.set a (s[a] + s[b])
  let s := s.set d (rotateLeft (s[d] ^^^ s[a]) 8)
  let s := s.set c (s[c] + s[d])
  s.set b (rotateLeft (s[b] ^^^ s[c]) 7)

def doubleRound (s : State) : State :=
  let s := quarterRound 0 4 8 12 s
  let s := quarterRound 1 5 9 13 s
  let s := quarterRound 2 6 10 14 s
  let s := quarterRound 3 7 11 15 s
  let s := quarterRound 0 5 10 15 s
  let s := quarterRound 1 6 11 12 s
  let s := quarterRound 2 7 8 13 s
  quarterRound 3 4 9 14 s

def initial (key : Vector UInt32 8) (counter : UInt64) : State :=
  #v[0x61707865, 0x3320646e, 0x79622d32, 0x6b206574,
    key[0], key[1], key[2], key[3], key[4], key[5], key[6], key[7],
    counter.toUInt32, (counter >>> 32).toUInt32, 0, 0]

def block (key : Vector UInt32 8) (counter : UInt64) : State :=
  let s := initial key counter
  Vector.zipWith (· + ·) (doubleRound (doubleRound (doubleRound (doubleRound s)))) s

end ChaCha

/-- The keystream of a key: the counter of the next block and the words before that block. -/
structure Keystream where
  key : Vector UInt32 8
  counter : UInt64
  pending : List UInt32

namespace Keystream

def start (key : Vector UInt32 8) : Keystream := ⟨key, 0, []⟩

def next (k : Keystream) : UInt32 × Keystream :=
  match k.pending with
  | w :: ws => (w, { k with pending := ws })
  | [] =>
    let words := ChaCha.block k.key k.counter
    (words[0], { k with counter := k.counter + 1, pending := words.toList.drop 1 })

/-- One step of the seed expansion: a linear congruential step, and a word from the new state by a
xor-shift and a rotation by its top five bits. -/
def expandStep (state : UInt64) : UInt32 × UInt64 :=
  let state := state * 6364136223846793005 + 11634580027462260723
  let mixed := (((state >>> 18) ^^^ state) >>> 27).toUInt32
  let turn := (state >>> 59).toUInt32
  (mixed >>> turn ||| mixed <<< ((32 - turn) % 32), state)

def expandSeed (seed : UInt64) : Vector UInt32 8 :=
  let (w₀, s) := expandStep seed
  let (w₁, s) := expandStep s
  let (w₂, s) := expandStep s
  let (w₃, s) := expandStep s
  let (w₄, s) := expandStep s
  let (w₅, s) := expandStep s
  let (w₆, s) := expandStep s
  let (w₇, _) := expandStep s
  #v[w₀, w₁, w₂, w₃, w₄, w₅, w₆, w₇]

def ofSeed (seed : UInt64) : Keystream := start (expandSeed seed)

instance : SeededSource Keystream where
  next := next
  ofSeed := ofSeed

instance : Inhabited Keystream := ⟨ofSeed 0⟩

end Keystream

end SampleData
