import SampleData.Facade.Request

/-! # Sessions

Several facades side by side. Each works on one of the stores of the session, and facades may share one.
-/
namespace SampleData

/-- Stores, and facades with the number of the store that each works on. -/
structure Session (σ ι : Type) where
  stores : List Store
  members : List (Facade σ ι × Nat)

namespace Session

variable {σ ι α : Type}

def empty : Session σ ι := ⟨[], []⟩

def addStore (s : Session σ ι) (store : Store) : Session σ ι :=
  { s with stores := s.stores ++ [store] }

def addFacade (s : Session σ ι) (f : Facade σ ι) (store : Nat) : Session σ ι :=
  { s with members := s.members ++ [(f, store)] }

def put (s : Session σ ι) (i j : Nat) (after : Facade σ ι × Store) : Session σ ι :=
  ⟨s.stores.set j after.2, s.members.set i (after.1, j)⟩

def get? (s : Session σ ι) (i : Nat) : Option (Facade σ ι × Nat × Store) := do
  let (f, j) ← s.members[i]?
  return (f, j, ← s.stores[j]?)

/-- Runs a step on the facade with number `i`; there is no answer where there is no such facade. -/
def step (i : Nat) (act : Facade.Step σ ι α) (s : Session σ ι) :
    Option (Except Error α) × Session σ ι :=
  match s.get? i with
  | none => (none, s)
  | some (f, j, store) =>
    match act (f, store) with
    | .ok a after => (some (.ok a), s.put i j after)
    | .error e after => (some (.error e), s.put i j after)

end Session

end SampleData
