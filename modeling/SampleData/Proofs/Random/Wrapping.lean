import Mathlib.Data.BitVec
import SampleData.Proofs.Random.Bounds

/-! # Ranges of words that wrap

On machine words the length of a range, the product of a draw and a length, and the sum of a bound and a number all
wrap. A range of all words has the length zero, and a correction shows as an overflow. The words come out as those of
the numbers that are drawn from the range of whole numbers, so it does not matter whether the bounds are read with a
sign, and nothing that wraps is lost.
-/
namespace SampleData.Random

variable {σ : Type} [WordSource σ]

def Width.bits : Width → ℕ
  | .single => 32
  | .double => 64

theorem Width.size_eq (w : Width) : w.size = 2 ^ w.bits := by
  cases w <;> rfl

def Width.drawWord (w : Width) : StateM σ (BitVec w.bits) := do
  return BitVec.ofNat w.bits (← w.draw)

/-- The upper half of the product of two words; the lower half is their product as words. -/
def upperHalf {n : ℕ} (x y : BitVec n) : BitVec n := BitVec.ofNat n (x.toNat * y.toNat / 2 ^ n)

def belowWords (w : Width) (range : BitVec w.bits) : StateM σ (BitVec w.bits) := do
  let first ← w.drawWord
  if -range < first * range then
    let second ← w.drawWord
    return if BitVec.uaddOverflow (first * range) (upperHalf second range) then upperHalf first range + 1#w.bits
      else upperHalf first range
  else
    return upperHalf first range

def betweenWords (w : Width) (lo hi : BitVec w.bits) : StateM σ (BitVec w.bits) := do
  let range := hi - lo + 1#w.bits
  if range = 0#w.bits then w.drawWord
  else return lo + (← belowWords w range)

theorem Width.drawWord_apply (w : Width) (s : σ) :
    w.drawWord s = (BitVec.ofNat w.bits (w.draw s).1, (w.draw s).2) := rfl

section Halves

variable {n range draw : ℕ}

theorem upperHalf_eq (hd : draw < 2 ^ n) (hr : range < 2 ^ n) :
    upperHalf (BitVec.ofNat n draw) (BitVec.ofNat n range) = BitVec.ofNat n (draw * range / 2 ^ n) := by
  unfold upperHalf
  rw [BitVec.toNat_ofNat, BitVec.toNat_ofNat, Nat.mod_eq_of_lt hd, Nat.mod_eq_of_lt hr]

theorem toNat_upperHalf (hd : draw < 2 ^ n) (hr : range < 2 ^ n) :
    (upperHalf (BitVec.ofNat n draw) (BitVec.ofNat n range)).toNat = draw * range / 2 ^ n := by
  have hlt : draw * range / 2 ^ n < 2 ^ n := Nat.div_lt_of_lt_mul (Nat.mul_lt_mul'' hd hr)
  rw [upperHalf_eq hd hr, BitVec.toNat_ofNat, Nat.mod_eq_of_lt hlt]

theorem toNat_lowerHalf (hd : draw < 2 ^ n) (hr : range < 2 ^ n) :
    (BitVec.ofNat n draw * BitVec.ofNat n range).toNat = draw * range % 2 ^ n := by
  rw [BitVec.toNat_mul, BitVec.toNat_ofNat, BitVec.toNat_ofNat, Nat.mod_eq_of_lt hd, Nat.mod_eq_of_lt hr]

theorem neg_lt_lowerHalf_iff (h0 : 0 < range) (hd : draw < 2 ^ n) (hr : range < 2 ^ n) :
    -BitVec.ofNat n range < BitVec.ofNat n draw * BitVec.ofNat n range ↔ 2 ^ n - range < draw * range % 2 ^ n := by
  rw [BitVec.lt_def, toNat_lowerHalf hd hr, BitVec.toNat_neg, BitVec.toNat_ofNat, Nat.mod_eq_of_lt hr,
    Nat.mod_eq_of_lt (Nat.sub_lt (by omega) h0)]

theorem overflows_iff {second : ℕ} (hd : draw < 2 ^ n) (hs : second < 2 ^ n) (hr : range < 2 ^ n) :
    BitVec.uaddOverflow (BitVec.ofNat n draw * BitVec.ofNat n range)
        (upperHalf (BitVec.ofNat n second) (BitVec.ofNat n range)) = true ↔
      2 ^ n ≤ draw * range % 2 ^ n + second * range / 2 ^ n := by
  unfold BitVec.uaddOverflow
  rw [decide_eq_true_iff, toNat_lowerHalf hd hr, toNat_upperHalf hs hr]

end Halves

/-- The sampler below a bound is the one on machine words. -/
theorem belowWords_eq (w : Width) {range : ℕ} (h0 : 0 < range) (hr : range < w.size) :
    belowWords w (BitVec.ofNat w.bits range) = BitVec.ofNat w.bits <$> (below w range : StateM σ ℕ) := by
  have hd : ∀ s : σ, (w.draw s).1 < 2 ^ w.bits := fun s => w.size_eq ▸ w.draw_lt s
  rw [w.size_eq] at hr
  funext s
  have hlow := neg_lt_lowerHalf_iff h0 (hd s) hr
  have hcarry := overflows_iff (hd s) (hd (w.draw s).2) hr
  unfold belowWords below
  rw [map_eq_pure_bind, bind_apply, bind_apply, bind_apply, Width.drawWord_apply, w.size_eq]
  dsimp only
  rw [upperHalf_eq (hd s) hr]
  by_cases hl : 2 ^ w.bits - range < (w.draw s).1 * range % 2 ^ w.bits
  · rw [if_pos hl, if_pos (hlow.mpr hl), bind_apply, bind_apply, Width.drawWord_apply]
    dsimp only
    by_cases hc : 2 ^ w.bits ≤ (w.draw s).1 * range % 2 ^ w.bits + (w.draw (w.draw s).2).1 * range / 2 ^ w.bits
    · rw [if_pos hc, if_pos (hcarry.mpr hc), pure_apply, pure_apply, pure_apply, BitVec.ofNat_add]
    · rw [if_neg hc, if_neg (hcarry.not.mpr hc)]
      rfl
  · rw [if_neg hl, if_neg (hlow.not.mpr hl)]
    rfl

theorem ofNat_eq_zero_iff {n range : ℕ} (h0 : 0 < range) (hr : range ≤ 2 ^ n) :
    BitVec.ofNat n range = 0#n ↔ range = 2 ^ n := by
  rw [← BitVec.toNat_inj, BitVec.toNat_ofNat, BitVec.toNat_ofNat, Nat.zero_mod, ← Nat.dvd_iff_mod_eq_zero]
  constructor
  · intro hd
    exact Nat.le_antisymm hr (Nat.le_of_dvd h0 hd)
  · rintro rfl
    exact Nat.dvd_refl _

/-- The word of a draw is the word of the number in a range of all words that the draw is congruent to. -/
theorem ofInt_congruent {n : ℕ} (lo : ℤ) (draw : ℕ) :
    BitVec.ofInt n (lo + ((draw : ℤ) - lo) % (2 ^ n : ℕ)) = BitVec.ofNat n draw := by
  rw [← BitVec.ofInt_natCast, ← BitVec.toNat_inj, BitVec.toNat_ofInt, BitVec.toNat_ofInt, Int.add_emod_emod]
  congr 2
  omega

/-- The sampler of a range is the one on machine words. -/
theorem betweenWords_eq (w : Width) {lo hi : ℤ} (h : lo ≤ hi) (hsize : hi - lo < w.size) :
    betweenWords w (BitVec.ofInt w.bits lo) (BitVec.ofInt w.bits hi) =
      BitVec.ofInt w.bits <$> (between w lo hi : StateM σ ℤ) := by
  have hrange : BitVec.ofInt w.bits hi - BitVec.ofInt w.bits lo + 1#w.bits =
      BitVec.ofNat w.bits (hi - lo + 1).toNat := by
    have hone : 1#w.bits = BitVec.ofInt w.bits 1 := (BitVec.ofInt_natCast w.bits 1).symm
    have hn : ((hi - lo + 1).toNat : ℤ) = hi + -lo + 1 := by omega
    rw [hone, BitVec.sub_eq_add_neg, ← BitVec.ofInt_neg, ← BitVec.ofInt_add, ← BitVec.ofInt_add, ← hn,
      BitVec.ofInt_natCast]
  have hzero : BitVec.ofNat w.bits (hi - lo + 1).toNat = 0#w.bits ↔ (hi - lo + 1).toNat = w.size := by
    rw [w.size_eq]
    exact ofNat_eq_zero_iff (by omega) (by rw [← w.size_eq]; omega)
  unfold betweenWords between
  dsimp only
  rw [hrange]
  by_cases hall : (hi - lo + 1).toNat = w.size
  · rw [if_pos hall, if_pos (hzero.mpr hall), map_eq_pure_bind, bind_assoc]
    unfold Width.drawWord
    simp only [pure_bind, w.size_eq, ofInt_congruent]
  · rw [if_neg hall, if_neg (hzero.not.mpr hall), belowWords_eq w (by omega) (by omega), map_eq_pure_bind,
      map_eq_pure_bind, bind_assoc, bind_assoc]
    simp only [pure_bind, BitVec.ofInt_add, BitVec.ofInt_natCast]

theorem unsigned_eq_words {lo hi : UInt32} (h : lo ≤ hi) :
    (unsigned lo hi : StateM σ UInt32) = UInt32.ofBitVec <$> betweenWords .single lo.toBitVec hi.toBitVec := by
  have hword : ∀ n : UInt32, n.toBitVec = BitVec.ofInt 32 n.toNat := by
    intro n
    rw [BitVec.ofInt_natCast]
    exact (BitVec.ofNat_toNat 32 n.toBitVec).symm
  have hle : (lo.toNat : ℤ) ≤ hi.toNat := Int.ofNat_le.mpr (UInt32.le_iff_toNat_le.mp h)
  have hlt := hi.toNat_lt
  have hw : Width.single.size = 4294967296 := rfl
  rw [hword lo, hword hi]
  funext s
  have hleast := (between_mem .single hle s).1
  obtain ⟨n, hn⟩ := Int.eq_ofNat_of_zero_le (show 0 ≤ (between .single (lo.toNat : ℤ) hi.toNat s).1 by omega)
  have hwords : betweenWords .single (BitVec.ofInt 32 lo.toNat) (BitVec.ofInt 32 hi.toNat) =
      BitVec.ofInt 32 <$> (between .single lo.toNat hi.toNat : StateM σ ℤ) := betweenWords_eq .single hle (by omega)
  rw [hwords]
  unfold unsigned
  rw [map_eq_pure_bind, map_eq_pure_bind, bind_assoc, bind_apply, bind_apply, hn, Int.toNat_natCast,
    BitVec.ofInt_natCast]
  rfl

theorem signed_eq_words {lo hi : Int32} (h : lo.toInt ≤ hi.toInt) :
    (signed lo hi : StateM σ Int32) =
      (fun word => Int32.ofUInt32 (UInt32.ofBitVec word)) <$> betweenWords .single lo.toBitVec hi.toBitVec := by
  have hword : ∀ n : Int32, n.toBitVec = BitVec.ofInt 32 n.toInt := fun n => (BitVec.ofInt_toInt (x := n.toBitVec)).symm
  have hleast := lo.le_toInt
  have hlt := hi.toInt_lt
  have hw : Width.single.size = 4294967296 := rfl
  have hwords : betweenWords .single (BitVec.ofInt 32 lo.toInt) (BitVec.ofInt 32 hi.toInt) =
      BitVec.ofInt 32 <$> (between .single lo.toInt hi.toInt : StateM σ ℤ) := betweenWords_eq .single h (by omega)
  rw [hword lo, hword hi, hwords]
  rfl

theorem signedWide_eq_words {lo hi : Int64} (h : lo.toInt ≤ hi.toInt) :
    (signedWide lo hi : StateM σ Int64) =
      (fun word => Int64.ofUInt64 (UInt64.ofBitVec word)) <$> betweenWords .double lo.toBitVec hi.toBitVec := by
  have hword : ∀ n : Int64, n.toBitVec = BitVec.ofInt 64 n.toInt := fun n => (BitVec.ofInt_toInt (x := n.toBitVec)).symm
  have hleast := lo.le_toInt
  have hlt := hi.toInt_lt
  have hw : Width.double.size = 18446744073709551616 := rfl
  have hwords : betweenWords .double (BitVec.ofInt 64 lo.toInt) (BitVec.ofInt 64 hi.toInt) =
      BitVec.ofInt 64 <$> (between .double lo.toInt hi.toInt : StateM σ ℤ) := betweenWords_eq .double h (by omega)
  rw [hword lo, hword hi, hwords]
  rfl

end SampleData.Random
