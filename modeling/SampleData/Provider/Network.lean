import SampleData.Digest.Message
import SampleData.Provider.Stocked

/-! # Network addresses

IPv4 and IPv6 addresses and hardware addresses. An IPv6 address is written in its canonical form: groups in
hexadecimal without leading zeros, and the longest run of two or more zero groups, the first one of several,
left out between two colons.
-/
namespace SampleData.Network

def hexText (n : Nat) : String := String.ofList (Nat.toDigits 16 n)

/-- How many zero groups start at position `i`. -/
def zeroRun (groups : List Nat) (i : Nat) : Nat := ((groups.drop i).takeWhile (· == 0)).length

/-- Position and length of the longest run of zero groups, the first one of several. -/
def longestRun (groups : List Nat) : Nat × Nat :=
  (List.range groups.length).foldl (fun best i =>
    if best.2 < zeroRun groups i then (i, zeroRun groups i) else best) (0, 0)

def groupsText (groups : List Nat) : String := ":".intercalate (groups.map hexText)

def ipv6Text (groups : List Nat) : String :=
  let (start, length) := longestRun groups
  if length < 2 then groupsText groups
  else groupsText (groups.take start) ++ "::" ++ groupsText (groups.drop (start + length))

variable {σ : Type} [WordSource σ]

def octet : StateM σ UInt8 := do
  return (← Random.word).toUInt8

def group : StateM σ Nat := do
  return (← Random.word).toUInt16.toNat

def ipV4 : StateM σ String := do
  return ".".intercalate ((← Random.times 4 octet).map fun b => toString b.toNat)

/-- An address that starts with `2001`. -/
def ipV6 : StateM σ String := do
  return ipv6Text (0x2001 :: (← Random.times 7 group))

/-- A hardware address of one maker, whose fourth byte is below `80` in hexadecimal. -/
def macAddress : StateM σ String := do
  let fourth ← Random.unsigned 0 0x7f
  let rest ← Random.times 2 octet
  let octets := [0x00, 0x16, 0x3e, fourth.toUInt8] ++ rest
  return ":".intercalate (octets.map fun b => Digest.hex [b])

inductive Call where
  | ipV4
  | ipV6
  | macAddress

def perform : Call → Gen σ Json
  | .ipV4 => (Gen.draw ipV4).text
  | .ipV6 => (Gen.draw ipV6).text
  | .macAddress => (Gen.draw macAddress).text

def fields : List (String × Call) :=
  [("ip_v4", .ipV4), ("ip_v6", .ipV6), ("mac_address", .macAddress)]

end SampleData.Network
