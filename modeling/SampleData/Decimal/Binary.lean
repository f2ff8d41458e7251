/-! # Binary fractions

A double is a sign and either a fraction `m * 2 ^ q`, an infinity or no number at all. Everything
that writes a double decimally starts from this view of its bits and goes on in exact integer
arithmetic.
-/
namespace SampleData.Decimal

inductive Magnitude where
  | finite (m : Nat) (q : Int)
  | infinite
  | notANumber
  deriving DecidableEq, Repr

structure Binary where
  negative : Bool
  magnitude : Magnitude
  deriving DecidableEq, Repr

/-- Reads the sign, the eleven exponent bits and the fifty-two fraction bits. Subnormal numbers have
no implicit leading bit and share the least exponent. -/
def Binary.ofBits (bits : UInt64) : Binary where
  negative := bits >>> 63 == 1
  magnitude :=
    let exponent := ((bits >>> 52) &&& 0x7ff).toNat
    let fraction := (bits &&& 0xfffffffffffff).toNat
    if exponent = 0x7ff then (if fraction = 0 then .infinite else .notANumber)
    else if exponent = 0 then .finite fraction (-1074)
    else .finite (fraction + Nat.pow 2 52) (exponent - 1075)

def Binary.ofFloat (x : Float) : Binary := .ofBits x.toBits

/-- Numerator and denominator of `m * 2 ^ q / 10 ^ k`. -/
def ratio (m : Nat) (q k : Int) : Nat × Nat :=
  (m * Nat.pow 2 q.toNat * Nat.pow 10 (-k).toNat, Nat.pow 2 (-q).toNat * Nat.pow 10 k.toNat)

/-- The digits of a number after their trailing zeros are cut, and how many were cut. The fuel bounds
the cuts; a positive number has fewer trailing zeros than its size. -/
def cutZeros : Nat → Nat → Nat × Nat
  | 0, n => (n, 0)
  | fuel + 1, n =>
    if n % 10 = 0 then let (d, z) := cutZeros fuel (n / 10); (d, z + 1) else (n, 0)

end SampleData.Decimal
