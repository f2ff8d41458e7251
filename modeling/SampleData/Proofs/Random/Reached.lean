import Mathlib.Data.List.Forall2
import SampleData.Proofs.Random.Bounds
import SampleData.Random.Choice

/-! # What some stream leads to

Every number below a range is drawn from some stream of words. A stream is made from its end: whatever is to be left
of it behind a step, the words that the step reads can be put in front of that so that it answers as wanted, and
so steps that follow each other are served one by one.
-/
namespace SampleData

def WordStream.cons (w : UInt32) (s : WordStream) : WordStream
  | 0 => w
  | n + 1 => s n

def WordStream.zeros : WordStream := fun _ => 0

namespace Random

variable {α β : Type}

def Reaches (step : StateM WordStream α) (a : α) : Prop := ∀ rest, ∃ s, step s = (a, rest)

theorem reaches_pure (a : α) : Reaches (pure a) a := fun rest => ⟨rest, rfl⟩

theorem Reaches.bind {x : StateM WordStream α} {f : α → StateM WordStream β} {a : α} {b : β} (hx : Reaches x a)
    (hf : Reaches (f a) b) : Reaches (x >>= f) b := by
  intro rest
  obtain ⟨mid, hm⟩ := hf rest
  obtain ⟨s, hs⟩ := hx mid
  refine ⟨s, ?_⟩
  rw [bind_apply, hs, hm]

theorem Reaches.mapM {f : α → StateM WordStream β} {as : List α} {bs : List β}
    (h : List.Forall₂ (fun a b => Reaches (f a) b) as bs) : Reaches (as.mapM f) bs := by
  induction h with
  | nil => exact reaches_pure []
  | cons ha _ ih =>
    rw [List.mapM_cons]
    exact ha.bind (ih.bind (reaches_pure _))

theorem reaches_word (w : UInt32) : Reaches word w := fun rest => ⟨rest.cons w, rfl⟩

/-- A double word is put together from its halves. -/
theorem toNat_halves {n : ℕ} (h : n < UInt64.size) :
    ((UInt32.ofNat n).toUInt64 ||| (UInt32.ofNat (n / 2 ^ 32)).toUInt64 <<< 32).toNat = n := by
  have hhigh : n / 2 ^ 32 < 2 ^ 32 := by
    unfold UInt64.size at h
    omega
  have hlow : n % 2 ^ 32 < 2 ^ 32 := Nat.mod_lt _ (by decide)
  have hshifted : (n / 2 ^ 32) <<< 32 < 2 ^ 64 := by
    rw [Nat.shiftLeft_eq]
    omega
  have hthirtyTwo : (32 : UInt64).toNat % 64 = 32 := rfl
  rw [UInt64.toNat_or, UInt64.toNat_shiftLeft, UInt32.toNat_toUInt64, UInt32.toNat_toUInt64, UInt32.toNat_ofNat',
    UInt32.toNat_ofNat', Nat.mod_eq_of_lt hhigh, hthirtyTwo, Nat.mod_eq_of_lt hshifted, Nat.or_comm,
    ← Nat.shiftLeft_add_eq_or_of_lt hlow, Nat.shiftLeft_eq, Nat.div_add_mod']

/-- Every value of the width is drawn for some words. -/
theorem reaches_draw (w : Width) {n : ℕ} (h : n < w.size) : Reaches w.draw n := by
  cases w with
  | single =>
    have hn : (UInt32.ofNat n).toNat = n := by
      rw [UInt32.toNat_ofNat']
      exact Nat.mod_eq_of_lt h
    refine (reaches_word (UInt32.ofNat n)).bind ?_
    rw [hn]
    exact reaches_pure n
  | double =>
    have hn := toNat_halves h
    refine Reaches.bind ((reaches_word (UInt32.ofNat n)).bind ((reaches_word (UInt32.ofNat (n / 2 ^ 32))).bind
      (reaches_pure _))) ?_
    rw [hn]
    exact reaches_pure n

/-- Some first draw stands for each number below the range, and a second draw of zero leaves it there. -/
theorem exists_numberOf {size range i : ℕ} (hi : i < range) (hr : range ≤ size) :
    ∃ first < size, numberOf size range first 0 = i := by
  let first := (i * size + (range - 1)) / range
  have hleast : i * size ≤ first * range ∧ first * range < i * size + range := by
    have hm := Nat.div_add_mod (i * size + (range - 1)) range
    have hlt := Nat.mod_lt (i * size + (range - 1)) (show 0 < range by omega)
    have hc : first * range = range * ((i * size + (range - 1)) / range) := Nat.mul_comm _ _
    omega
  have hnext : (i + 1) * size = i * size + size := Nat.succ_mul i size
  refine ⟨first, ?_, ?_⟩
  · have hle : (i + 1) * size ≤ range * size := Nat.mul_le_mul_right size hi
    rw [Nat.mul_comm range size] at hle
    exact Nat.lt_of_mul_lt_mul_right (show first * range < size * range by omega)
  · have hlow : first * range % size < size := Nat.mod_lt _ (by omega)
    have hhigh : first * range / size = i := Nat.div_eq_of_lt_le hleast.1 (by omega)
    simp only [numberOf, hhigh, Nat.zero_mul, Nat.zero_div, Nat.add_zero]
    exact if_neg (by omega)

/-- Every number below the bound is drawn for some words. -/
theorem reaches_below (w : Width) {range i : ℕ} (hi : i < range) (hr : range ≤ w.size) : Reaches (below w range) i := by
  obtain ⟨first, hfirst, hn⟩ := exists_numberOf hi hr
  refine (reaches_draw w hfirst).bind ?_
  simp only [numberOf] at hn
  dsimp only
  split
  · next hc =>
    refine (reaches_draw w w.size_pos).bind ?_
    rw [← hn]
    simp only [hc, true_and]
    exact reaches_pure _
  · next hc =>
    rw [← hn]
    simp only [hc, false_and, if_false]
    exact reaches_pure _

/-- What one source of words leads to, some stream leads to as well. -/
theorem reaches_of_below {σ : Type} [WordSource σ] (w : Width) (range : ℕ) (s : σ) :
    Reaches (below w range) (below w range s).1 := by
  unfold below
  refine (reaches_draw w (w.draw_lt s)).bind ?_
  rw [bind_apply]
  dsimp only
  split
  · exact (reaches_draw w (w.draw_lt _)).bind (reaches_pure _)
  · exact reaches_pure _

theorem reaches_of_choose? {σ : Type} [WordSource σ] (items : List α) (s : σ) :
    Reaches (choose? items) (choose? items s).1 := by
  cases items with
  | nil => exact reaches_pure none
  | cons item items => exact (reaches_of_below .single _ s).bind (reaches_pure _)

theorem reaches_index {n i : ℕ} (hi : i < n) (hn : n ≤ UInt32.size) : Reaches (index n) i := reaches_below .single hi hn

/-- Every number of a range is drawn for some words. -/
theorem reaches_between (w : Width) {lo hi n : ℤ} (hlo : lo ≤ n) (hhi : n ≤ hi) (hsize : hi - lo < w.size) :
    Reaches (between w lo hi) n := by
  unfold between
  dsimp only
  split
  · have hpos : (0 : ℤ) < w.size := Int.ofNat_lt.mpr w.size_pos
    have hfrom := Int.emod_nonneg n hpos.ne'
    have hto := Int.emod_lt_of_pos n hpos
    have hdraw : ((n % w.size).toNat : ℤ) = n % w.size := Int.toNat_of_nonneg hfrom
    have hn : lo + (((n % w.size).toNat : ℤ) - lo) % w.size = n := by
      rw [hdraw, Int.emod_sub_emod, Int.emod_eq_of_lt (by omega) (by omega)]
      omega
    refine (reaches_draw w (show (n % w.size).toNat < w.size by omega)).bind ?_
    rw [hn]
    exact reaches_pure n
  · have hn : lo + ((n - lo).toNat : ℤ) = n := by omega
    refine (reaches_below w (show (n - lo).toNat < (hi - lo + 1).toNat by omega) (by omega)).bind ?_
    rw [hn]
    exact reaches_pure n

theorem reaches_unsigned {lo hi n : UInt32} (hlo : lo ≤ n) (hhi : n ≤ hi) : Reaches (unsigned lo hi) n := by
  rw [UInt32.le_iff_toNat_le] at hlo hhi
  have hlt := hi.toNat_lt
  have hw : Width.single.size = 4294967296 := rfl
  refine (reaches_between .single (Int.ofNat_le.mpr hlo) (Int.ofNat_le.mpr hhi) (by omega)).bind ?_
  rw [Int.toNat_natCast, UInt32.ofNat_toNat]
  exact reaches_pure n

theorem reaches_signed {lo hi n : Int32} (hlo : lo.toInt ≤ n.toInt) (hhi : n.toInt ≤ hi.toInt) :
    Reaches (signed lo hi) n := by
  have hleast := lo.le_toInt
  have hlt := hi.toInt_lt
  have hw : Width.single.size = 4294967296 := rfl
  refine (reaches_between .single hlo hhi (by omega)).bind ?_
  rw [Int32.ofInt_toInt]
  exact reaches_pure n

theorem reaches_signedWide {lo hi n : Int64} (hlo : lo.toInt ≤ n.toInt) (hhi : n.toInt ≤ hi.toInt) :
    Reaches (signedWide lo hi) n := by
  have hleast := lo.le_toInt
  have hlt := hi.toInt_lt
  have hw : Width.double.size = 18446744073709551616 := rfl
  refine (reaches_between .double hlo hhi (by omega)).bind ?_
  rw [Int64.ofInt_toInt]
  exact reaches_pure n

end Random

end SampleData
