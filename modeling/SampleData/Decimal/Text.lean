import SampleData.Decimal.Shortest

/-! # Decimal texts of doubles

Three written forms. `plain` has the shortest digits and never an exponent; error messages quote bounds
in it. `exact` is the form of JSON documents: the shortest digits, always with a fraction, and an exponent
only for very large or very small values. `fixed` has a given number of decimal places, the exact binary
value rounded to the nearest and a half to the even neighbour.
-/
namespace SampleData.Decimal

def zeros (n : Nat) : List Char := List.replicate n '0'

def signText (negative : Bool) : List Char := if negative then ['-'] else []

/-- The digits of `c * 10 ^ k` written out in full, without a fraction if there is none. -/
def positional (c : Nat) (k : Int) : List Char :=
  let digits := Nat.toDigits 10 c
  if 0 ≤ k then digits ++ zeros k.toNat
  else
    let places := (-k).toNat
    if places < digits.length then
      digits.take (digits.length - places) ++ '.' :: digits.drop (digits.length - places)
    else '0' :: '.' :: zeros (places - digits.length) ++ digits

/-- Shortest digits in full; of two equally near candidates the larger. -/
def plain (x : Float) : String :=
  let b := Binary.ofFloat x
  match b.magnitude with
  | .notANumber => "NaN"
  | .infinite => String.ofList (signText b.negative ++ ['i', 'n', 'f'])
  | .finite m q =>
    let (c, k) := if m = 0 then (0, 0) else shortest .upward m q
    String.ofList (signText b.negative ++ positional c k)

def scientific (c : Nat) (k : Int) : List Char :=
  let digits := Nat.toDigits 10 c
  let place := k + (digits.length - 1 : Nat)
  let mantissa := match digits with
    | [] => []
    | [d] => [d]
    | d :: rest => d :: '.' :: rest
  mantissa ++ 'e' :: (toString place).toList

/-- Shortest digits with a fraction, positional from `0.00001` to below `10 ^ 16` and with an exponent
elsewhere. A value that is no finite number has no such text and reads `null`. -/
def exact (x : Float) : String :=
  let b := Binary.ofFloat x
  match b.magnitude with
  | .notANumber => "null"
  | .infinite => "null"
  | .finite m q =>
    let (c, k) := if m = 0 then (0, 0) else shortest .toEven m q
    let place := k + (Nat.toDigits 10 c).length
    let body :=
      if 0 ≤ k ∧ place ≤ 16 then positional c k ++ ['.', '0']
      else if -5 < place ∧ place ≤ 16 then positional c k
      else scientific c k
    String.ofList (signText b.negative ++ body)

/-- `n / d` to the nearest whole number, a half to the even one. -/
def roundHalfEven (n d : Nat) : Nat :=
  let below := n / d
  let twice := 2 * (n % d)
  if twice < d then below
  else if d < twice then below + 1
  else if below % 2 = 0 then below else below + 1

/-- The exact value rounded to `places` decimals; the sign of a negative zero stays. -/
def fixed (places : Nat) (x : Float) : String :=
  let b := Binary.ofFloat x
  match b.magnitude with
  | .notANumber => "NaN"
  | .infinite => String.ofList (signText b.negative ++ ['i', 'n', 'f'])
  | .finite m q =>
    let (n, d) := ratio m q (-places)
    let digits := Nat.toDigits 10 (roundHalfEven n d)
    let padded := zeros (places + 1 - digits.length) ++ digits
    let whole := padded.take (padded.length - places)
    let fraction := if places = 0 then [] else '.' :: padded.drop (padded.length - places)
    String.ofList (signText b.negative ++ whole ++ fraction)

end SampleData.Decimal
