/-! # Primes

The sieve of Eratosthenes over a table of marks. Walking up, every number that is not struck is a prime, and
its multiples from its square on are struck.
-/
namespace SampleData.Primes

/-- Strikes `multiple` and every `step`-th number after it. -/
def strike (step multiple : Nat) (struck : Array Bool) : Array Bool :=
  if h : 0 < step ∧ multiple < struck.size then
    strike step (multiple + step) (struck.set multiple true h.2)
  else struck
termination_by struck.size - multiple
decreasing_by
  simp only [Array.size_set]
  omega

theorem size_strike (step multiple : Nat) (struck : Array Bool) :
    (strike step multiple struck).size = struck.size := by
  fun_induction strike step multiple struck with
  | case1 multiple struck h ih => simpa using ih
  | case2 => rfl

/-- Walks on from `candidate` and collects the numbers from `start` on that are not struck. -/
def collect (start candidate : Nat) (struck : Array Bool) (found : Array Nat) : Array Nat :=
  if h : candidate < struck.size then
    if struck[candidate] then collect start (candidate + 1) struck found
    else
      collect start (candidate + 1) (strike candidate (candidate * candidate) struck)
        (if start ≤ candidate then found.push candidate else found)
  else found
termination_by struck.size - candidate
decreasing_by
  · omega
  · rw [size_strike]
    omega

def between (start stop : Nat) : List Nat :=
  (collect start 2 (Array.replicate stop false) #[]).toList

end SampleData.Primes
