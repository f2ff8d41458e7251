import SampleData.Digest.Message
import SampleData.Rotation

/-! # SHA-1 -/
namespace SampleData.Digest.Sha1

structure State where
  a : UInt32
  b : UInt32
  c : UInt32
  d : UInt32
  e : UInt32

def initial : State := ⟨0x67452301, 0xefcdab89, 0x98badcfe, 0x10325476, 0xc3d2e1f0⟩

def schedule (block : List UInt8) : Array UInt32 :=
  let words := ((parts 4 block).map fun w => UInt32.ofNat (ofBytesHigh w)).toArray
  (List.range' 16 64).foldl (fun w i =>
    let x := w.getD (i - 3) 0 ^^^ w.getD (i - 8) 0 ^^^ w.getD (i - 14) 0 ^^^ w.getD (i - 16) 0
    w.push (rotateLeft x 1)) words

def step (words : Array UInt32) (s : State) (i : Nat) : State :=
  let (f, k) : UInt32 × UInt32 :=
    if i < 20 then ((s.b &&& s.c) ||| (~~~s.b &&& s.d), 0x5a827999)
    else if i < 40 then (s.b ^^^ s.c ^^^ s.d, 0x6ed9eba1)
    else if i < 60 then ((s.b &&& s.c) ||| (s.b &&& s.d) ||| (s.c &&& s.d), 0x8f1bbcdc)
    else (s.b ^^^ s.c ^^^ s.d, 0xca62c1d6)
  ⟨rotateLeft s.a 5 + f + s.e + k + words.getD i 0, s.a, rotateLeft s.b 30, s.c, s.d⟩

def absorb (s : State) (block : List UInt8) : State :=
  let t := (List.range 80).foldl (step (schedule block)) s
  ⟨s.a + t.a, s.b + t.b, s.c + t.c, s.d + t.d, s.e + t.e⟩

def digest (message : List UInt8) : List UInt8 :=
  let s := (parts 64 (complete 64 (bytesHigh 8 (8 * message.length)) message)).foldl absorb initial
  [s.a, s.b, s.c, s.d, s.e].flatMap fun w => bytesHigh 4 w.toNat

end SampleData.Digest.Sha1
