import SampleData.Random.Range

/-! # Choices from lists

A uniform choice draws a position, also where there is only one item; an empty list draws nothing. Several
distinct items are chosen by Floyd's algorithm: the position drawn in round `j` is at most `j`, and if it was
taken before, the round's own position `j` takes the place of the earlier one.
-/
namespace SampleData

structure Table (α : Type) where
  first : α
  rest : List α

def Table.toList {α : Type} (t : Table α) : List α := t.first :: t.rest

namespace Random

variable {σ α : Type} [WordSource σ]

/-- An item of the list, `none` and no draw if there is none. -/
def choose? : List α → StateM σ (Option α)
  | [] => pure none
  | items@(_ :: _) => do return items[← index items.length]?

def choose (t : Table α) : StateM σ α := do
  return t.toList.getD (← index t.toList.length) t.first

/-- One round: `j` replaces the drawn position where that was chosen before, and the drawn position
comes last. -/
def chooseStep (chosen : List Nat) (j : Nat) : StateM σ (List Nat) := do
  let t ← index (j + 1)
  return chosen.map (fun i => if i = t then j else i) ++ [t]

/-- `count` distinct positions below `size`. -/
def positions (size count : Nat) : StateM σ (List Nat) :=
  (List.range' (size - count) count).foldlM chooseStep []

/-- `count` items at distinct positions, or all of them where there are fewer. -/
def chooseSome (items : List α) (count : Nat) : StateM σ (List α) := do
  return (← positions items.length (min count items.length)).filterMap fun i => items[i]?

end Random

end SampleData
