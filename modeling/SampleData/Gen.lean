import SampleData.Error

/-! # Steps that may fail

A generator is a step on a state: a random source, a provider, a store, or several of them. A step that
fails still leaves a state behind, so what it consumed or changed before failing stays consumed or changed.
-/
namespace SampleData

/-- A step on states `s` that answers with an `α` or fails. -/
abbrev Gen (s α : Type) := EStateM Error s α

namespace Gen

def draw {s α : Type} (step : StateM s α) : Gen s α := fun st =>
  let (a, st') := step st
  .ok a st'

/-- Runs a step on a part of the state. -/
def focus {s t α : Type} (get : t → s) (set : t → s → t) (step : Gen s α) : Gen t α := fun st =>
  match step (get st) with
  | .ok a part => .ok a (set st part)
  | .error e part => .error e (set st part)

def ofExcept {s α : Type} : Except Error α → Gen s α
  | .ok a => pure a
  | .error e => throw e

def onFirst {s t α : Type} (step : Gen s α) : Gen (s × t) α :=
  focus Prod.fst (fun p a => (a, p.2)) step

def onSecond {s t α : Type} (step : Gen t α) : Gen (s × t) α :=
  focus Prod.snd (fun p b => (p.1, b)) step

/-- The answers of up to `n` runs of a step, as far as none fails, and the first failure. -/
def answers {s α : Type} (step : Gen s α) : Nat → s → List α × Option Error
  | 0, _ => ([], none)
  | n + 1, st =>
    match step st with
    | .ok a st =>
      let (rest, failure) := answers step n st
      (a :: rest, failure)
    | .error e _ => ([], some e)

def answersFor {s α β : Type} (step : β → Gen s α) : List β → s → List α × Option Error
  | [], _ => ([], none)
  | b :: bs, st =>
    match step b st with
    | .ok a st =>
      let (rest, failure) := answersFor step bs st
      (a :: rest, failure)
    | .error e _ => ([], some e)

end Gen

end SampleData
