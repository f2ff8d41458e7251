import Mathlib.Data.Nat.Prime.Basic
import SampleData.Provider.Numbers

/-! # The sieve

When the walk has come to a candidate, the numbers are struck that a smaller prime divides and whose square root that
prime does not exceed. A composite number has such a prime, its least prime factor, so the candidate itself is struck
just when it is composite, and the numbers that are collected are the primes. It is enough to strike from the square
of a prime on, since a smaller multiple has a smaller prime factor.
-/
namespace SampleData.Primes

theorem getElem?_strike {step : ℕ} (hs : 0 < step) (multiple : ℕ) (struck : Array Bool) (i : ℕ) :
    (strike step multiple struck)[i]? = some true ↔
      struck[i]? = some true ∨ i < struck.size ∧ ∃ k, i = multiple + k * step := by
  fun_induction strike step multiple struck with
  | case1 multiple struck h ih =>
    rw [ih, Array.size_set, Array.getElem?_set]
    by_cases hi : multiple = i
    · subst hi
      simp only [if_true, true_or, true_iff]
      exact .inr ⟨h.2, 0, by omega⟩
    · rw [if_neg hi]
      apply or_congr_right
      apply and_congr_right
      intro _
      constructor
      · rintro ⟨k, rfl⟩
        exact ⟨k + 1, by rw [Nat.succ_mul]; omega⟩
      · rintro ⟨k, rfl⟩
        cases k with
        | zero => exact absurd (by omega) hi
        | succ k => exact ⟨k, by rw [Nat.succ_mul]; omega⟩
  | case2 multiple struck h =>
    have hm : struck.size ≤ multiple := by omega
    constructor
    · exact .inl
    · rintro (hold | ⟨hi, k, rfl⟩)
      · exact hold
      · omega

/-- The numbers struck when the walk has come to `candidate`. -/
def Sieved (candidate : ℕ) (struck : Array Bool) : Prop :=
  ∀ i, 2 ≤ i → i < struck.size →
    (struck[i]? = some true ↔ ∃ p, p.Prime ∧ p < candidate ∧ p ∣ i ∧ p * p ≤ i)

theorem sieved_replicate (stop : ℕ) : Sieved 2 (Array.replicate stop false) := by
  intro i _ hi
  rw [Array.size_replicate] at hi
  constructor
  · intro hs
    simp [hi] at hs
  · rintro ⟨p, hp, hlt, _⟩
    have := hp.two_le
    omega

variable {candidate : ℕ} {struck : Array Bool}

/-- A number is composite just when its least prime factor comes before it and is at most its square root. -/
theorem not_prime_iff {n : ℕ} (h : 2 ≤ n) : ¬ n.Prime ↔ ∃ p, p.Prime ∧ p < n ∧ p ∣ n ∧ p * p ≤ n := by
  constructor
  · intro hn
    have hp := Nat.minFac_prime (n := n) (by omega)
    have hsq : n.minFac ^ 2 ≤ n := Nat.minFac_sq_le_self (by omega) hn
    rw [Nat.pow_two] at hsq
    have hlt : n.minFac < n := (Nat.not_prime_iff_minFac_lt h).mp hn
    exact ⟨n.minFac, hp, hlt, n.minFac_dvd, hsq⟩
  · rintro ⟨p, hp, hlt, hd, _⟩ hn
    have := (Nat.prime_dvd_prime_iff_eq hp hn).mp hd
    omega

/-- When the walk has come to a number, the number is struck exactly if it is not a prime. -/
theorem Sieved.struck_iff (h : Sieved candidate struck) (h2 : 2 ≤ candidate) (hc : candidate < struck.size) :
    struck[candidate] = true ↔ ¬ candidate.Prime := by
  rw [not_prime_iff h2, ← h candidate h2 hc, Array.getElem?_eq_getElem hc, Option.some_inj]

theorem Sieved.skip (h : Sieved candidate struck) (hc : ¬ candidate.Prime) : Sieved (candidate + 1) struck := by
  intro i h2 hi
  rw [h i h2 hi]
  constructor
  · rintro ⟨p, hp, hlt, hd⟩
    exact ⟨p, hp, by omega, hd⟩
  · rintro ⟨p, hp, hlt, hd⟩
    have hne : p ≠ candidate := fun he => hc (he ▸ hp)
    exact ⟨p, hp, by omega, hd⟩

/-- Striking the multiples of a prime from its square on is enough. -/
theorem Sieved.strike (h : Sieved candidate struck) (hc : candidate.Prime) :
    Sieved (candidate + 1) (strike candidate (candidate * candidate) struck) := by
  intro i h2 hi
  rw [size_strike] at hi
  rw [getElem?_strike hc.pos, h i h2 hi, and_iff_right hi]
  constructor
  · rintro (⟨p, hp, hlt, hd⟩ | ⟨k, rfl⟩)
    · exact ⟨p, hp, by omega, hd⟩
    · exact ⟨candidate, hc, by omega, Dvd.intro_left (candidate + k) (by rw [Nat.add_mul]), by omega⟩
  · rintro ⟨p, hp, hlt, hd, hsq⟩
    by_cases he : p = candidate
    · subst he
      right
      obtain ⟨m, rfl⟩ := hd
      have hm : p ≤ m := Nat.le_of_mul_le_mul_left hsq hp.pos
      exact ⟨m - p, by rw [Nat.mul_comm p m, ← Nat.add_mul, Nat.add_sub_cancel' hm]⟩
    · exact .inl ⟨p, hp, by omega, hd, hsq⟩

/-- From a candidate on, the primes of the table are collected. -/
theorem collect_eq (start : ℕ) (found : Array ℕ) (h : Sieved candidate struck) (h2 : 2 ≤ candidate) :
    (collect start candidate struck found).toList = found.toList ++
      (List.range' candidate (struck.size - candidate)).filter fun p => start ≤ p ∧ p.Prime := by
  have hrange : ∀ {n size : ℕ}, n < size →
      List.range' n (size - n) = n :: List.range' (n + 1) (size - (n + 1)) := by
    intro n size hn
    rw [← List.range'_succ]
    congr 1
    omega
  fun_induction collect start candidate struck found with
  | case1 candidate struck found hc hs ih =>
    have hn : ¬ candidate.Prime := (h.struck_iff h2 hc).mp hs
    rw [ih (h.skip hn) (by omega), hrange hc, List.filter_cons_of_neg (by simp [hn])]
  | case2 candidate struck found hc hs ih =>
    have hp : candidate.Prime := not_not.mp fun hn => hs ((h.struck_iff h2 hc).mpr hn)
    have hi := ih (h.strike hp) (by omega)
    rw [dite_eq_ite, size_strike] at hi
    rw [hi, hrange hc]
    by_cases hstart : start ≤ candidate
    · rw [if_pos hstart, List.filter_cons_of_pos (by simp [hstart, hp]), Array.toList_push, List.append_assoc]
      rfl
    · rw [if_neg hstart, List.filter_cons_of_neg (by simp [hstart])]
  | case3 candidate struck found hc =>
    have hz : struck.size - candidate = 0 := by omega
    rw [hz, List.range'_zero, List.filter_nil, List.append_nil]

/-- The walk over the table finds the primes. -/
theorem between_eq (start stop : ℕ) :
    between start stop = (List.range' 2 (stop - 2)).filter fun p => start ≤ p ∧ p.Prime := by
  unfold between
  rw [collect_eq start #[] (sieved_replicate stop) le_rfl, Array.size_replicate]
  rfl

theorem mem_between_iff {start stop p : ℕ} : p ∈ between start stop ↔ p.Prime ∧ start ≤ p ∧ p < stop := by
  rw [between_eq, List.mem_filter, List.mem_range'_1, decide_eq_true_eq]
  constructor
  · rintro ⟨⟨_, hlt⟩, hstart, hp⟩
    exact ⟨hp, hstart, by omega⟩
  · rintro ⟨hp, hstart, hlt⟩
    have := hp.two_le
    exact ⟨by omega, hstart, hp⟩

theorem pairwise_between (start stop : ℕ) : (between start stop).Pairwise (· < ·) := by
  rw [between_eq]
  exact List.Pairwise.filter _ List.pairwise_lt_range'

/-- `strike` on words below `words` and a table of its own size: no answer where there is no mark to set, or where
the next multiple is no word. -/
def strike? (words step stop multiple : ℕ) (struck : Array Bool) : Option (Array Bool) :=
  if 0 < step ∧ multiple < stop then
    if h : multiple < struck.size then
      if multiple + step < words then strike? words step stop (multiple + step) (struck.set multiple true h)
      else none
    else none
  else some struck
termination_by stop - multiple

/-- `collect` on words below `words`, where a square that is no word becomes the greatest word: no answer where there
is no mark to look at. -/
def collect? (words start stop candidate : ℕ) (struck : Array Bool) (found : Array ℕ) : Option (Array ℕ) :=
  if candidate < stop then
    if h : candidate < struck.size then
      if struck[candidate] then collect? words start stop (candidate + 1) struck found
      else
        match strike? words candidate stop (min (candidate * candidate) (words - 1)) struck with
        | none => none
        | some struck =>
          collect? words start stop (candidate + 1) struck
            (if start ≤ candidate then found.push candidate else found)
    else none
  else some found
termination_by stop - candidate

def between? (words start stop : ℕ) : Option (List ℕ) :=
  Array.toList <$> collect? words start stop 2 (Array.replicate stop false) #[]

theorem strike?_eq {words step stop : ℕ} (hstep : step < stop) (hw : 2 * stop ≤ words) (multiple : ℕ)
    {struck : Array Bool} (hs : struck.size = stop) :
    strike? words step stop multiple struck = some (strike step multiple struck) := by
  fun_induction strike step multiple struck with
  | case1 multiple struck h ih =>
    unfold strike?
    rw [if_pos (by omega), dif_pos h.2, if_pos (by omega)]
    exact ih (by rw [Array.size_set, hs])
  | case2 multiple struck h =>
    unfold strike?
    rw [if_neg (by omega)]

/-- A square past the table strikes nothing, no matter what becomes of it. -/
theorem strike_min {words : ℕ} (hw : struck.size < words) (step square : ℕ) :
    strike step (min square (words - 1)) struck = strike step square struck := by
  by_cases hsq : square ≤ words - 1
  · rw [Nat.min_eq_left hsq]
  · rw [Nat.min_eq_right (by omega), strike, dif_neg (by omega), strike, dif_neg (by omega)]

theorem collect?_eq {words : ℕ} (start candidate : ℕ) {struck : Array Bool} (found : Array ℕ)
    (hw : 2 * struck.size ≤ words) :
    collect? words start struck.size candidate struck found = some (collect start candidate struck found) := by
  fun_induction collect start candidate struck found with
  | case1 candidate struck found hc hs ih =>
    unfold collect?
    rw [if_pos hc, dif_pos hc, if_pos hs, ih hw]
  | case2 candidate struck found hc hs ih =>
    rw [size_strike] at ih
    unfold collect?
    rw [if_pos hc, dif_pos hc, if_neg hs, strike?_eq hc hw _ rfl, strike_min (by omega)]
    exact ih hw
  | case3 candidate struck found hc =>
    unfold collect?
    rw [if_neg hc]

/-- Neither the table nor the words are left where twice the end is a word. -/
theorem between?_eq {words stop : ℕ} (start : ℕ) (h : 2 * stop ≤ words) :
    between? words start stop = some (between start stop) := by
  have hs : (Array.replicate stop false).size = stop := Array.size_replicate
  have hw : 2 * (Array.replicate stop false).size ≤ words := by rwa [hs]
  have hc := collect?_eq start 2 #[] hw
  rw [hs] at hc
  unfold between?
  rw [hc]
  rfl

end SampleData.Primes

namespace SampleData.Numbers

variable {start stop : UInt32}

theorem primes_of_le (h : start ≤ stop) (hs : stop ≤ greatestStop) :
    primes start stop = .ok (Primes.between start.toNat stop.toNat) := by
  have hb : Bounds.whole "primes" start.toNat stop.toNat = .ok () := by
    rw [UInt32.le_iff_toNat_le] at h
    exact if_neg (by omega)
  unfold primes
  rw [hb]
  exact if_neg (UInt32.not_lt.mpr hs)

theorem primes_of_lt (h : stop < start) :
    primes start stop = .error (.reversedBounds "primes" (.whole start.toNat) (.whole stop.toNat)) := by
  have hb : Bounds.whole "primes" start.toNat stop.toNat =
      .error (.reversedBounds "primes" (.whole start.toNat) (.whole stop.toNat)) := by
    rw [UInt32.lt_iff_toNat_lt] at h
    exact if_pos (by omega)
  unfold primes
  rw [hb]
  rfl

theorem primes_of_far (h : start ≤ stop) (hs : greatestStop < stop) :
    primes start stop = .error (.primesTooFar stop.toNat greatestStop.toNat) := by
  have hb : Bounds.whole "primes" start.toNat stop.toNat = .ok () := by
    rw [UInt32.le_iff_toNat_le] at h
    exact if_neg (by omega)
  unfold primes
  rw [hb]
  exact if_pos hs

theorem exists_fault_of_not_le (h : ¬ (start ≤ stop ∧ stop ≤ greatestStop)) :
    ∃ fault, primes start stop = .error fault := by
  by_cases hle : start ≤ stop
  · have hs : greatestStop < stop := UInt32.not_le.mp fun hs => h ⟨hle, hs⟩
    exact ⟨_, primes_of_far hle hs⟩
  · exact ⟨_, primes_of_lt (UInt32.not_le.mp hle)⟩

variable {σ : Type} [WordSource σ]

/-- The call for the primes from `start` to below `stop` answers with them, ascending, where the bounds are in order
and near enough, and is refused elsewhere; it never draws. On words of 32 bits and more the sieve neither leaves its
table nor overflows. -/
theorem primes_sieved (start stop : UInt32) (words : σ) :
    ((∃ ps, primes start stop = .ok ps) ↔ start ≤ stop ∧ stop ≤ 10000000) ∧
    (∀ ps, primes start stop = .ok ps →
      perform (.primes start stop) words = .ok (.list (ps.map fun (p : ℕ) => .int p)) words ∧
      ps.Pairwise (· < ·) ∧ (∀ p, p ∈ ps ↔ p.Prime ∧ start.toNat ≤ p ∧ p < stop.toNat) ∧
      ∀ size, UInt32.size ≤ size → Primes.between? size start.toNat stop.toNat = some ps) ∧
    (¬ (start ≤ stop ∧ stop ≤ 10000000) →
      ∃ fault, perform (.primes start stop) words = .error (.invalidInput fault) words) := by
  have hlimit : greatestStop = 10000000 := rfl
  have hmade : ∀ ps, primes start stop = .ok ps → start ≤ stop ∧ stop ≤ greatestStop := by
    intro ps hps
    by_contra hn
    obtain ⟨fault, hf⟩ := exists_fault_of_not_le hn
    cases hps.symm.trans hf
  rw [← hlimit]
  refine ⟨⟨?_, ?_⟩, ?_, ?_⟩
  · rintro ⟨ps, hps⟩
    exact hmade ps hps
  · rintro ⟨hle, hs⟩
    exact ⟨_, primes_of_le hle hs⟩
  · intro ps hps
    obtain ⟨hle, hs⟩ := hmade ps hps
    obtain rfl := Except.ok.inj ((primes_of_le hle hs).symm.trans hps)
    refine ⟨?_, Primes.pairwise_between .., fun p => Primes.mem_between_iff, fun size hsize => ?_⟩
    · unfold perform
      dsimp only
      rw [hps]
      rfl
    · apply Primes.between?_eq
      have hw : UInt32.size = 4294967296 := rfl
      have hl : greatestStop.toNat = 10000000 := rfl
      rw [UInt32.le_iff_toNat_le] at hs
      omega
  · intro hn
    obtain ⟨fault, hf⟩ := exists_fault_of_not_le hn
    refine ⟨fault, ?_⟩
    unfold perform
    dsimp only
    rw [hf]
    rfl

end SampleData.Numbers
