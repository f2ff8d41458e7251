/-! # Slots

A slot holds one value that later generators derive from. An unset slot differs from every set one, also
from one that holds zero.
-/
namespace SampleData

inductive Slot (α : Type) where
  | unset
  | holding (value : α)
  deriving DecidableEq, Repr, Inhabited

namespace Slot

variable {α : Type}

def get? : Slot α → Option α
  | unset => none
  | holding value => some value

def store (value : α) : StateM (Slot α) α := fun _ => (value, .holding value)

def isSet : Slot α → Bool
  | unset => false
  | holding _ => true

end Slot

end SampleData
