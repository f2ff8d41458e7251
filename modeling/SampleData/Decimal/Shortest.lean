import SampleData.Decimal.Binary

/-! # Shortest digits

The fewest decimal digits that read back as a given double, and of those the nearest ones. The reals
that round to `m * 2 ^ q` form an interval around it; the search walks the decimal grids with 1, 2, ...
17 digits and stops at the first one that has a point inside. If any point of a grid lies in the
interval, so does one of the two neighbours of the value on that grid, so only these two are tried.
-/
namespace SampleData.Decimal

inductive Tie where
  | toEven
  | upward
  deriving DecidableEq, Repr

/-- How often `n` has to be multiplied by ten to reach `d`. -/
def placesBelow (d : Nat) : Nat → Nat → Nat
  | 0, _ => 0
  | fuel + 1, n => if d ≤ n then 0 else placesBelow d fuel (10 * n) + 1

/-- The place of the leading digit of `n / d`: the greatest `e` with `10 ^ e ≤ n / d`. -/
def leadingPlace (n d : Nat) : Int :=
  if d ≤ n then ((Nat.toDigits 10 (n / d)).length : Int) - 1
  else -(placesBelow d (d.log2 + 1) n : Int)

/-- The grid point with step `10 ^ k` that reads back as `m * 2 ^ q`, if there is one. Bounds are
counted in quarters of the last bit: the interval reaches half a bit up, and half a bit down unless the
value is the least of its binade, where the doubles below are twice as dense. The ends belong to the
interval when `m` is even. -/
def gridPoint (tie : Tie) (m : Nat) (q k : Int) : Option Nat :=
  let below := if m = Nat.pow 2 52 ∧ -1074 < q then 1 else 2
  let (u, d) := ratio 1 (q - 2) k
  let value := 4 * m * u
  let low := (4 * m - below) * u
  let high := (4 * m + 2) * u
  let point := value / d
  let inside (lower upper : Nat) := if m % 2 = 0 then lower ≤ upper else lower < upper
  let lowerHit := decide (inside low (point * d))
  let upperHit := decide (inside ((point + 1) * d) high)
  let fromLower := value - point * d
  let fromUpper := (point + 1) * d - value
  match lowerHit, upperHit with
  | false, false => none
  | true, false => some point
  | false, true => some (point + 1)
  | true, true =>
    if fromLower < fromUpper then some point
    else if fromUpper < fromLower then some (point + 1)
    else match tie with
      | .upward => some (point + 1)
      | .toEven => some (if point % 2 = 0 then point else point + 1)

/-- Searches the grids from `n` digits on; `fuel` more grids are left. -/
def searchGrids (tie : Tie) (m : Nat) (q place : Int) : Nat → Nat → Nat × Int
  | 0, _ => (0, 0)
  | fuel + 1, n =>
    let k := place + 1 - n
    match gridPoint tie m q k with
    | some point => let (digits, cut) := cutZeros point point; (digits, k + cut)
    | none => searchGrids tie m q place fuel (n + 1)

/-- The shortest digits of `m * 2 ^ q` for `0 < m`, as a number `c` without trailing zero and an
exponent `k` with `c * 10 ^ k` near the value. Seventeen digits always suffice. -/
def shortest (tie : Tie) (m : Nat) (q : Int) : Nat × Int :=
  let (n, d) := ratio m q 0
  searchGrids tie m q (leadingPlace n d) 17 1

end SampleData.Decimal
