import Mathlib.Logic.Function.Iterate
import Mathlib.Order.Nat
import Mathlib.Tactic.ByContra
import SampleData.Proofs.Simulation

/-! # One call after the other

A step that is called again and again, each time in the state that the call before left, answers with a stream, failures
included. A loop that stops at the first failure makes a beginning of the stream: it ends with the stream's first failure,
or before it where the loop is shorter.
-/
namespace SampleData.Gen

variable {s t α : Type}

/-- The values are the first answers of the stream. -/
def Begins (values : List α) (stream : ℕ → Except Error α) : Prop :=
  ∀ k (hk : k < values.length), stream k = .ok values[k]

theorem Begins.cons {a : α} {values : List α} {stream : ℕ → Except Error α} (ha : stream 0 = .ok a)
    (h : Begins values fun k => stream (k + 1)) : Begins (a :: values) stream := by
  intro k hk
  cases k with
  | zero => exact ha
  | succ k => exact h k (Nat.lt_of_succ_lt_succ hk)

/-- The first `n` answers of a stream, or those before its first failure and that failure. -/
inductive UpToFailure (stream : ℕ → Except Error α) (n : ℕ) : List α × Option Error → Prop
  | whole {values : List α} (hn : values.length = n) (hv : Begins values stream) : UpToFailure stream n (values, none)
  | failed {values : List α} {e : Error} (hn : values.length < n) (hv : Begins values stream)
      (he : stream values.length = .error e) : UpToFailure stream n (values, some e)

namespace UpToFailure

variable {stream : ℕ → Except Error α} {m n : ℕ} {r r' : List α × Option Error}

theorem length_le (h : UpToFailure stream n r) : r.1.length ≤ n := by
  cases h with
  | whole hn _ => exact hn.le
  | failed hn _ _ => exact hn.le

theorem cons {a : α} (ha : stream 0 = .ok a) (h : UpToFailure (fun k => stream (k + 1)) n r) :
    UpToFailure stream (n + 1) (a :: r.1, r.2) := by
  cases h with
  | whole hn hv => exact .whole (congrArg Nat.succ hn) (hv.cons ha)
  | failed hn hv he => exact .failed (Nat.succ_lt_succ hn) (hv.cons ha) he

end UpToFailure

end SampleData.Gen
