import Mathlib.Tactic.Linarith
import SampleData.Random.Range

/-! # Draws stay in their range

Whatever words a source yields, a number drawn from a range lies in it. The correction by one never pushes a
draw past the end: where the high half is the last number of the range, the low half is too small for a
correction.
-/
namespace SampleData.Random

variable {σ : Type} [WordSource σ]

omit [WordSource σ] in
theorem bind_apply {α β : Type} (x : StateM σ α) (f : α → StateM σ β) (s : σ) :
    (x >>= f) s = f (x s).1 (x s).2 := rfl

omit [WordSource σ] in
theorem pure_apply {α : Type} (a : α) (s : σ) : (pure a : StateM σ α) s = (a, s) := rfl

theorem Width.draw_lt (w : Width) (s : σ) : (w.draw s).1 < w.size := by
  cases w with
  | single => exact (word s).1.toNat_lt
  | double => exact (doubleWord s).1.toNat_lt

theorem Width.size_pos (w : Width) : 0 < w.size := by
  cases w <;> simp [size]

/-- Where the high half is the last number below `range`, the low half asks for no correction. -/
theorem low_le_of_high_eq {size range draw : ℕ} (hd : draw < size) (hh : draw * range / size + 1 = range) :
    draw * range % size ≤ size - range := by
  have hs : 0 < size := by omega
  have hm := Nat.div_add_mod (draw * range) size
  have hle : draw * range + range ≤ size * range := by nlinarith
  have hq : size * (draw * range / size) + size = size * range := by
    rw [← Nat.mul_succ, Nat.succ_eq_add_one, hh]
  omega

/-- The number below `range` that one draw stands for, and a second one where the first asks for it. -/
def numberOf (size range first second : ℕ) : ℕ :=
  let high := first * range / size
  let low := first * range % size
  if size - range < low ∧ size ≤ low + second * range / size then high + 1 else high

theorem numberOf_lt {size range first second : ℕ} (h0 : 0 < range) (hf : first < size) (hs : second < size) :
    numberOf size range first second < range := by
  have hhigh : first * range / size < range :=
    Nat.div_lt_of_lt_mul ((Nat.mul_lt_mul_right h0).mpr hf)
  have hq : second * range / size < range :=
    Nat.div_lt_of_lt_mul ((Nat.mul_lt_mul_right h0).mpr hs)
  simp only [numberOf]
  split
  · next hc =>
    by_contra hge
    have hlow : first * range % size ≤ size - range := low_le_of_high_eq hf (by omega)
    omega
  · exact hhigh

theorem below_eq (w : Width) (range : ℕ) (s : σ) :
    (below w range s).1 = numberOf w.size range (w.draw s).1 (w.draw (w.draw s).2).1 := by
  simp only [below, numberOf, bind_apply]
  split
  · next h =>
    simp only [h, true_and, bind_apply, pure_apply]
  · next h =>
    simp only [h, false_and, ↓reduceIte, pure_apply]

theorem below_lt (w : Width) {range : ℕ} (h0 : 0 < range) (s : σ) : (below w range s).1 < range := by
  rw [below_eq]
  exact numberOf_lt h0 (w.draw_lt _) (w.draw_lt _)

/-- A number is drawn inside its range. -/
theorem between_mem (w : Width) {lo hi : ℤ} (h : lo ≤ hi) (s : σ) :
    lo ≤ (between w lo hi s).1 ∧ (between w lo hi s).1 ≤ hi := by
  simp only [between]
  split
  · next hs =>
    have hp := w.size_pos
    simp only [bind_apply, pure_apply]
    have h1 := Int.emod_nonneg (((w.draw s).1 : ℤ) - lo) (show (w.size : ℤ) ≠ 0 by omega)
    have h2 := Int.emod_lt_of_pos (((w.draw s).1 : ℤ) - lo) (show (0 : ℤ) < w.size by omega)
    omega
  · have hb : (below w (hi - lo + 1).toNat s).1 < (hi - lo + 1).toNat :=
      below_lt w (by omega) s
    simp only [bind_apply, pure_apply]
    omega

theorem unsigned_mem {lo hi : UInt32} (h : lo ≤ hi) (s : σ) :
    lo ≤ (unsigned lo hi s).1 ∧ (unsigned lo hi s).1 ≤ hi := by
  have hle : lo.toNat ≤ hi.toNat := UInt32.le_iff_toNat_le.mp h
  have hhi := hi.toNat_lt
  obtain ⟨h1, h2⟩ := between_mem .single (Int.ofNat_le.mpr hle) s
  simp only [unsigned, bind_apply, pure_apply, UInt32.le_iff_toNat_le, UInt32.toNat_ofNat']
  omega

theorem signed_mem {lo hi : Int32} (h : lo.toInt ≤ hi.toInt) (s : σ) :
    lo.toInt ≤ (signed lo hi s).1.toInt ∧ (signed lo hi s).1.toInt ≤ hi.toInt := by
  have hlo := lo.le_toInt
  have hhi := hi.toInt_lt
  obtain ⟨h1, h2⟩ := between_mem .single h s
  simp only [signed, bind_apply, pure_apply]
  rw [Int32.toInt_ofInt_of_le (by omega) (by omega)]
  exact ⟨h1, h2⟩

theorem signedWide_mem {lo hi : Int64} (h : lo.toInt ≤ hi.toInt) (s : σ) :
    lo.toInt ≤ (signedWide lo hi s).1.toInt ∧ (signedWide lo hi s).1.toInt ≤ hi.toInt := by
  have hlo := lo.le_toInt
  have hhi := hi.toInt_lt
  obtain ⟨h1, h2⟩ := between_mem .double h s
  simp only [signedWide, bind_apply, pure_apply]
  rw [Int64.toInt_ofInt_of_le (by omega) (by omega)]
  exact ⟨h1, h2⟩

theorem index_lt {n : ℕ} (h0 : 0 < n) (s : σ) : (index n s).1 < n := below_lt .single h0 s

end SampleData.Random
