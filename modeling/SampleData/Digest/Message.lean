import SampleData.Text.Digits

/-! # Messages and blocks

The digests cut a message into blocks of words. The message is first completed: a single set bit, zero bytes
up to the place of the length, and the length in bits.
-/
namespace SampleData.Digest

def bytesLow : Nat → Nat → List UInt8
  | 0, _ => []
  | count + 1, n => UInt8.ofNat (n % 256) :: bytesLow count (n / 256)

def bytesHigh (count n : Nat) : List UInt8 := (bytesLow count n).reverse

/-- Completes a message to whole blocks; `length` are the bytes of its length in bits. -/
def complete (block : Nat) (length : List UInt8) (message : List UInt8) : List UInt8 :=
  let used := message.length + 1 + length.length
  message ++ 0x80 :: List.replicate ((block - used % block) % block) 0 ++ length

def chunks {α : Type} (size : Nat) : Nat → List α → List (List α)
  | 0, _ => []
  | fuel + 1, xs => if xs.isEmpty then [] else xs.take size :: chunks size fuel (xs.drop size)

def parts {α : Type} (size : Nat) (xs : List α) : List (List α) := chunks size xs.length xs

def ofBytesLow (bytes : List UInt8) : Nat := bytes.foldr (fun b n => 256 * n + b.toNat) 0

def ofBytesHigh (bytes : List UInt8) : Nat := ofBytesLow bytes.reverse

/-- Two hexadecimal digits for every byte. -/
def hex (bytes : List UInt8) : String :=
  String.ofList (bytes.flatMap fun b => [Text.hexDigit (b.toNat / 16), Text.hexDigit (b.toNat % 16)])

end SampleData.Digest
