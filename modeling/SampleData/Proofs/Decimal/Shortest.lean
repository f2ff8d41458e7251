import Mathlib.Algebra.Order.Field.Power
import Mathlib.Data.Nat.Digits.Defs
import Mathlib.Data.Rat.Cast.Order
import Mathlib.Tactic.Linarith
import Mathlib.Tactic.NormNum
import Mathlib.Tactic.Ring
import SampleData.Decimal.Shortest

/-! # Decimals that stand for a double

The numbers that are rounded to a double form an interval around it. The search over the decimal grids ends with a
number of this interval: one with the fewest digits that any decimal in it has, and the nearest of those.
-/
namespace SampleData.Decimal

def ofTens (c : ℕ) (k : ℤ) : ℚ := c * 10 ^ k

def ofTwos (m : ℕ) (q : ℤ) : ℚ := m * 2 ^ q

def Within {α : Type} [LE α] [LT α] (m : ℕ) (a b : α) : Prop := if m % 2 = 0 then a ≤ b else a < b

def quartersBelow (m : ℕ) (q : ℤ) : ℕ := if m = 2 ^ 52 ∧ -1074 < q then 1 else 2

/-- The numbers that are rounded to `m * 2 ^ q`: up to half of the last bit above it and below it, but only a quarter
below where the doubles there lie twice as close. The ends belong to them where the significand is even. -/
structure RoundsTo (m : ℕ) (q : ℤ) (x : ℚ) : Prop where
  lower : Within m ((4 * m - quartersBelow m q : ℚ) * 2 ^ (q - 2)) x
  upper : Within m x ((4 * m + 2 : ℚ) * 2 ^ (q - 2))

variable {m n d p : ℕ} {q k place : ℤ} {x y : ℚ}

theorem Within.le {a b : ℚ} (h : Within m a b) : a ≤ b := by
  unfold Within at h
  split_ifs at h
  · exact h
  · exact h.le

theorem within_of_lt {α : Type} [Preorder α] {a b : α} (h : a < b) : Within m a b := by
  unfold Within
  split_ifs
  · exact h.le
  · exact h

theorem Within.of_not {a b : ℚ} (h : ¬ Within m a b) : b ≤ a := by
  by_contra hlt
  exact h (within_of_lt (not_le.mp hlt))

theorem Within.trans_le {a b c : ℚ} (h : Within m a b) (hc : b ≤ c) : Within m a c := by
  unfold Within at h ⊢
  split_ifs at h ⊢
  · exact h.trans hc
  · exact h.trans_le hc

theorem Within.of_le {a b c : ℚ} (hc : a ≤ b) (h : Within m b c) : Within m a c := by
  unfold Within at h ⊢
  split_ifs at h ⊢
  · exact hc.trans h
  · exact hc.trans_lt h

theorem within_natCast {a b : ℕ} : Within m (a : ℚ) b ↔ Within m a b := by
  unfold Within
  split_ifs
  · exact Nat.cast_le
  · exact Nat.cast_lt

theorem within_mul {a b c : ℚ} (hc : 0 < c) : Within m (a * c) (b * c) ↔ Within m a b := by
  unfold Within
  split_ifs
  · exact mul_le_mul_iff_left₀ hc
  · exact mul_lt_mul_iff_left₀ hc

theorem two_zpow_pos (q : ℤ) : (0 : ℚ) < 2 ^ q := zpow_pos two_pos q

theorem ten_zpow_pos (k : ℤ) : (0 : ℚ) < 10 ^ k := zpow_pos (by norm_num) k

theorem ofTwos_eq (m : ℕ) (q : ℤ) : ofTwos m q = 4 * m * 2 ^ (q - 2) := by
  unfold ofTwos
  rw [zpow_sub₀ two_ne_zero]
  norm_num
  ring

theorem ofTens_le_ofTens {a b : ℕ} : ofTens a k ≤ ofTens b k ↔ a ≤ b := by
  unfold ofTens
  rw [mul_le_mul_iff_left₀ (ten_zpow_pos k), Nat.cast_le]

theorem quartersBelow_cases (m : ℕ) (q : ℤ) : quartersBelow m q = 1 ∧ m = 2 ^ 52 ∨ quartersBelow m q = 2 := by
  unfold quartersBelow
  split_ifs with h
  · exact .inl ⟨rfl, h.1⟩
  · exact .inr rfl

/-- The interval has no gaps. -/
theorem RoundsTo.between (hx : RoundsTo m q x) (hy : RoundsTo m q y) {z : ℚ} (hxz : x ≤ z) (hzy : z ≤ y) :
    RoundsTo m q z := ⟨hx.lower.trans_le hxz, .of_le hzy hy.upper⟩

/-- A double is rounded to itself. -/
theorem roundsTo_self (m : ℕ) (q : ℤ) : RoundsTo m q (ofTwos m q) := by
  have hpos := two_zpow_pos (q - 2)
  have hbelow : (0 : ℚ) < quartersBelow m q := by
    obtain ⟨h, _⟩ | h := quartersBelow_cases m q <;> rw [h] <;> norm_num
  rw [ofTwos_eq]
  constructor
  · refine within_of_lt ?_
    nlinarith
  · refine within_of_lt ?_
    nlinarith

theorem pow_mul_zpow {a : ℚ} (ha : a ≠ 0) (n : ℤ) : a ^ (-n).toNat * a ^ n = a ^ n.toNat := by
  cases n with
  | ofNat n => simp
  | negSucc n =>
    rw [zpow_negSucc, Int.toNat_negSucc, pow_zero]
    exact mul_inv_cancel₀ (pow_ne_zero _ ha)

/-- A ratio is the quotient of its two numbers. -/
theorem ratio_spec (m : ℕ) (q k : ℤ) :
    0 < (ratio m q k).2 ∧ ((ratio m q k).1 : ℚ) * 10 ^ k = (ratio m q k).2 * ofTwos m q := by
  have htwo := pow_mul_zpow (two_ne_zero (α := ℚ)) q
  have hten := pow_mul_zpow (a := (10 : ℚ)) (by norm_num) k
  simp only [ratio, Nat.pow_eq, ofTwos]
  refine ⟨by positivity, ?_⟩
  push_cast
  calc (m : ℚ) * 2 ^ q.toNat * 10 ^ (-k).toNat * 10 ^ k
    _ = m * 2 ^ q.toNat * (10 ^ (-k).toNat * 10 ^ k) := by ring
    _ = m * (2 ^ (-q).toNat * 2 ^ q) * 10 ^ k.toNat := by rw [hten, htwo]
    _ = 2 ^ (-q).toNat * 10 ^ k.toNat * (m * 2 ^ q) := by ring

/-- A grid on which `10 ^ k` has the length `d` where a quarter of the last bit has the length `u`. -/
structure Scale (q k : ℤ) (u d : ℕ) : Prop where
  step_pos : 0 < d
  quarter : (u : ℚ) * 10 ^ k = d * 2 ^ (q - 2)

/-- What the search compares measures the grid and the quarters of the last bit. -/
theorem scale_ratio (q k : ℤ) : Scale q k (ratio 1 (q - 2) k).1 (ratio 1 (q - 2) k).2 := by
  obtain ⟨hd, hu⟩ := ratio_spec 1 (q - 2) k
  refine ⟨hd, ?_⟩
  rw [hu, ofTwos, Nat.cast_one, one_mul]

namespace Scale

variable {u : ℕ}

theorem quarter_pos (h : Scale q k u d) : 0 < u := by
  have hd : (0 : ℚ) < d := Nat.cast_pos.mpr h.step_pos
  have hpos : (0 : ℚ) < u * 10 ^ k := h.quarter ▸ mul_pos hd (two_zpow_pos _)
  exact Nat.cast_pos.mp (pos_of_mul_pos_left hpos (ten_zpow_pos k).le)

/-- Lengths on the scale. -/
theorem mul_quarters (h : Scale q k u d) (a : ℚ) : a * 2 ^ (q - 2) * d = a * u * 10 ^ k := by
  rw [mul_assoc, mul_comm _ (d : ℚ), ← h.quarter, mul_assoc]

theorem ofTens_mul (p : ℕ) : ofTens p k * d = (p * d : ℕ) * 10 ^ k := by
  unfold ofTens
  push_cast
  ring

theorem ofTwos_mul (h : Scale q k u d) (m : ℕ) : ofTwos m q * d = (4 * m * u : ℕ) * 10 ^ k := by
  rw [ofTwos_eq, h.mul_quarters]
  push_cast
  rfl

/-- Numbers are compared by their lengths on the scale. -/
theorem le_iff (h : Scale q k u d) {a b : ℕ} (hx : x * d = a * 10 ^ k) (hy : y * d = b * 10 ^ k) : x ≤ y ↔ a ≤ b := by
  rw [← mul_le_mul_iff_left₀ (Nat.cast_pos.mpr h.step_pos : (0 : ℚ) < d), hx, hy,
    mul_le_mul_iff_left₀ (ten_zpow_pos k), Nat.cast_le]

/-- Whether a point of the grid lies in the interval. -/
theorem roundsTo_iff (h : Scale q k u d) (hm : 0 < m) : RoundsTo m q (ofTens p k) ↔
    Within m ((4 * m - quartersBelow m q) * u) (p * d) ∧ Within m (p * d) ((4 * m + 2) * u) := by
  have hd : (0 : ℚ) < d := Nat.cast_pos.mpr h.step_pos
  have hbelow : quartersBelow m q ≤ 4 * m := by
    obtain ⟨h, _⟩ | h := quartersBelow_cases m q <;> rw [h] <;> omega
  have hlow : ((4 * m - quartersBelow m q : ℕ) : ℚ) = 4 * m - quartersBelow m q := by
    rw [Nat.cast_sub hbelow, Nat.cast_mul, Nat.cast_ofNat]
  have hends : RoundsTo m q (ofTens p k) ↔ Within m ((4 * m - quartersBelow m q : ℚ) * 2 ^ (q - 2)) (ofTens p k) ∧
      Within m (ofTens p k) ((4 * m + 2 : ℚ) * 2 ^ (q - 2)) := ⟨fun h => ⟨h.lower, h.upper⟩, fun h => ⟨h.1, h.2⟩⟩
  rw [hends, ← within_mul hd, ← within_mul (a := ofTens p k) hd, h.mul_quarters, h.mul_quarters, ofTens_mul,
    within_mul (ten_zpow_pos k), within_mul (ten_zpow_pos k), ← hlow, ← within_natCast, ← within_natCast]
  push_cast
  rfl

theorem twice_mul (h : Scale q k u d) (m : ℕ) : 2 * ofTwos m q * d = (2 * (4 * m * u) : ℕ) * 10 ^ k := by
  rw [mul_assoc, h.ofTwos_mul]
  push_cast
  ring

theorem neighbours_mul (p : ℕ) :
    (ofTens p k + ofTens (p + 1) k) * d = (p * d + (p + 1) * d : ℕ) * 10 ^ k := by
  rw [add_mul, ofTens_mul, ofTens_mul]
  push_cast
  ring

end Scale

inductive Chosen (m : ℕ) (q k : ℤ) (p : ℕ) : Option ℕ → Prop
  | neither (hl : ¬ RoundsTo m q (ofTens p k)) (hu : ¬ RoundsTo m q (ofTens (p + 1) k)) : Chosen m q k p none
  | lower (hl : RoundsTo m q (ofTens p k))
      (hu : RoundsTo m q (ofTens (p + 1) k) → 2 * ofTwos m q ≤ ofTens p k + ofTens (p + 1) k) :
      Chosen m q k p (some p)
  | upper (hu : RoundsTo m q (ofTens (p + 1) k))
      (hl : RoundsTo m q (ofTens p k) → ofTens p k + ofTens (p + 1) k ≤ 2 * ofTwos m q) :
      Chosen m q k p (some (p + 1))

/-- Of the two neighbours on the grid the search takes the nearer of those that are rounded to the double. -/
theorem chosen_gridPoint (tie : Tie) (hm : 0 < m) (q k : ℤ) : ∃ p : ℕ, ofTens p k ≤ ofTwos m q ∧
    ofTwos m q < ofTens (p + 1) k ∧ Chosen m q k p (gridPoint tie m q k) := by
  have hs := scale_ratio q k
  unfold gridPoint
  generalize ratio 1 (q - 2) k = r at hs
  obtain ⟨u, d⟩ := r
  dsimp only at hs ⊢
  have hu := hs.quarter_pos
  have hbelow : (4 * m * u / d) * d ≤ 4 * m * u := Nat.div_mul_le_self _ _
  have habove : 4 * m * u < (4 * m * u / d + 1) * d := Nat.lt_mul_of_div_lt (Nat.lt_succ_self _) hs.step_pos
  generalize 4 * m * u / d = p at hbelow habove
  have hlower : Within m ((4 * m - quartersBelow m q) * u) (p * d) ↔ RoundsTo m q (ofTens p k) := by
    rw [hs.roundsTo_iff hm]
    refine ⟨fun h => ⟨h, within_of_lt ?_⟩, fun h => h.1⟩
    nlinarith
  have hupper : Within m ((p + 1) * d) ((4 * m + 2) * u) ↔ RoundsTo m q (ofTens (p + 1) k) := by
    rw [hs.roundsTo_iff hm]
    refine ⟨fun h => ⟨within_of_lt ?_, h⟩, fun h => h.2⟩
    have hle : (4 * m - quartersBelow m q) * u ≤ 4 * m * u := Nat.mul_le_mul_right u (Nat.sub_le _ _)
    omega
  refine ⟨p, (hs.le_iff (Scale.ofTens_mul p) (hs.ofTwos_mul m)).mpr hbelow, ?_, ?_⟩
  · rw [← not_le, hs.le_iff (Scale.ofTens_mul _) (hs.ofTwos_mul m)]
    omega
  split
  · next hl hu =>
    have hl := of_decide_eq_false hl
    have hu := of_decide_eq_false hu
    exact .neither (fun h => hl (hlower.mpr h)) fun h => hu (hupper.mpr h)
  · next hl hu =>
    have hl := of_decide_eq_true hl
    have hu := of_decide_eq_false hu
    exact .lower (hlower.mp hl) fun h => absurd (hupper.mpr h) hu
  · next hl hu =>
    have hl := of_decide_eq_false hl
    have hu := of_decide_eq_true hu
    exact .upper (hupper.mp hu) fun h => absurd (hlower.mpr h) hl
  · next hl hu =>
    have hl := of_decide_eq_true hl
    have hu := of_decide_eq_true hu
    have hlow : 2 * (4 * m * u) ≤ p * d + (p + 1) * d → Chosen m q k p (some p) := fun h =>
      .lower (hlower.mp hl) fun _ => (hs.le_iff (hs.twice_mul m) (Scale.neighbours_mul p)).mpr h
    have hupp : p * d + (p + 1) * d ≤ 2 * (4 * m * u) → Chosen m q k p (some (p + 1)) := fun h =>
      .upper (hupper.mp hu) fun _ => (hs.le_iff (Scale.neighbours_mul p) (hs.twice_mul m)).mpr h
    split_ifs
    · exact hlow (by omega)
    · exact hupp (by omega)
    · cases tie with
      | upward => exact hupp (by omega)
      | toEven => exact hlow (by omega)
    · cases tie with
      | upward => exact hupp (by omega)
      | toEven => exact hupp (by omega)

section Neighbours

variable {r : ℕ} (hlow : ofTens r k ≤ ofTwos m q) (hhigh : ofTwos m q < ofTens (r + 1) k)
include hlow

/-- The chosen point does not lie behind a point beyond the value. -/
theorem Chosen.le (hc : Chosen m q k r (some n)) (h : ofTwos m q < ofTens p k) : n ≤ p := by
  have hlt : r < p := by
    rw [← not_le, ← ofTens_le_ofTens (k := k), not_le]
    exact hlow.trans_lt h
  cases hc with
  | lower => exact hlt.le
  | upper => exact hlt

include hhigh

/-- A point of the grid that lies in the interval has a neighbour of the value between itself and the value. -/
theorem neighbour_of_roundsTo (h : RoundsTo m q (ofTens p k)) :
    ofTens p k ≤ ofTens r k ∧ RoundsTo m q (ofTens r k) ∨
      ofTens (r + 1) k ≤ ofTens p k ∧ RoundsTo m q (ofTens (r + 1) k) := by
  rcases Nat.lt_or_ge r p with hlt | hle
  · have hbeyond := ofTens_le_ofTens (k := k).mpr (Nat.succ_le_of_lt hlt)
    exact .inr ⟨hbeyond, (roundsTo_self m q).between h hhigh.le hbeyond⟩
  · have hbefore := ofTens_le_ofTens (k := k).mpr hle
    exact .inl ⟨hbefore, h.between (roundsTo_self m q) hbefore hlow⟩

/-- What is chosen is rounded to the double, and no grid point that is rounded to it is nearer. -/
theorem Chosen.nearest (hc : Chosen m q k r (some n)) : RoundsTo m q (ofTens n k) ∧
    ∀ p, RoundsTo m q (ofTens p k) → |ofTens n k - ofTwos m q| ≤ |ofTens p k - ofTwos m q| := by
  have hleft : ∀ {z : ℚ}, z ≤ ofTwos m q → |z - ofTwos m q| = ofTwos m q - z := fun h => by
    rw [abs_of_nonpos (sub_nonpos.mpr h), neg_sub]
  have hright : ∀ {z : ℚ}, ofTwos m q ≤ z → |z - ofTwos m q| = z - ofTwos m q := fun h => abs_of_nonneg (sub_nonneg.mpr h)
  cases hc with
  | lower hl hu =>
    refine ⟨hl, fun p hp => ?_⟩
    rw [hleft hlow]
    obtain ⟨hle, _⟩ | ⟨hle, hup⟩ := neighbour_of_roundsTo hlow hhigh hp
    · rw [hleft (hle.trans hlow)]
      linarith
    · rw [hright (hhigh.le.trans hle)]
      linarith [hu hup]
  | upper hu hl =>
    refine ⟨hu, fun p hp => ?_⟩
    rw [hright hhigh.le]
    obtain ⟨hle, hdown⟩ | ⟨hle, _⟩ := neighbour_of_roundsTo hlow hhigh hp
    · rw [hleft (hle.trans hlow)]
      linarith [hl hdown]
    · rw [hright (hhigh.le.trans hle)]
      linarith

theorem Chosen.not_roundsTo (hc : Chosen m q k r none) (p : ℕ) : ¬ RoundsTo m q (ofTens p k) := by
  cases hc with
  | neither hl hu =>
    intro hp
    obtain ⟨_, hdown⟩ | ⟨_, hup⟩ := neighbour_of_roundsTo hlow hhigh hp
    · exact hl hdown
    · exact hu hup

end Neighbours

/-- A point that is found lies in the interval and is the nearest of the grid that does. -/
theorem nearest_of_gridPoint {tie : Tie} (hm : 0 < m) (h : gridPoint tie m q k = some n) : RoundsTo m q (ofTens n k) ∧
    ∀ p, RoundsTo m q (ofTens p k) → |ofTens n k - ofTwos m q| ≤ |ofTens p k - ofTwos m q| := by
  obtain ⟨r, hlow, hhigh, hc⟩ := chosen_gridPoint tie hm q k
  rw [h] at hc
  exact hc.nearest hlow hhigh

/-- Where no point is found, none of the grid lies in the interval. -/
theorem not_roundsTo_of_gridPoint {tie : Tie} (hm : 0 < m) (h : gridPoint tie m q k = none) (p : ℕ) :
    ¬ RoundsTo m q (ofTens p k) := by
  obtain ⟨r, hlow, hhigh, hc⟩ := chosen_gridPoint tie hm q k
  rw [h] at hc
  exact hc.not_roundsTo hlow hhigh p

theorem le_of_gridPoint {tie : Tie} (hm : 0 < m) (h : gridPoint tie m q k = some n) (hp : ofTwos m q < ofTens p k) :
    n ≤ p := by
  obtain ⟨r, hlow, _, hc⟩ := chosen_gridPoint tie hm q k
  rw [h] at hc
  exact hc.le hlow hp

/-- Seventeen digits are enough. -/
theorem gridPoint_ne_none {tie : Tie} (hm : 0 < m) (hsize : m < 2 ^ 53) (h : ofTens (10 ^ 16) k ≤ ofTwos m q) :
    gridPoint tie m q k ≠ none := by
  obtain ⟨r, hlow, hhigh, hc⟩ := chosen_gridPoint tie hm q k
  have hself := roundsTo_self m q
  intro hnone
  rw [hnone] at hc
  obtain ⟨hl, hu⟩ := hc
  have hbelow := Within.of_not fun hw => hl ⟨hw, .of_le hlow hself.upper⟩
  have habove := Within.of_not fun hw => hu ⟨hself.lower.trans_le hhigh.le, hw⟩
  have hstep : ofTens (r + 1) k = ofTens r k + 10 ^ k := by
    unfold ofTens
    push_cast
    ring
  have hpos := two_zpow_pos (q - 2)
  have hten := ten_zpow_pos k
  have hm53 : (m : ℚ) + 1 ≤ 2 ^ 53 := by exact_mod_cast hsize
  rw [ofTwos_eq] at h
  unfold ofTens at h
  push_cast at h
  obtain ⟨hq, rfl⟩ | hq := quartersBelow_cases m q
  · rw [hq] at hbelow
    push_cast at *
    nlinarith
  · rw [hq] at hbelow
    push_cast at *
    nlinarith

theorem placesBelow_spec {fuel : ℕ} (h : d ≤ 10 ^ fuel * n) :
    d ≤ 10 ^ placesBelow d fuel n * n ∧ ∀ j < placesBelow d fuel n, 10 ^ j * n < d := by
  induction fuel generalizing n with
  | zero => exact ⟨h, fun j hj => absurd hj (Nat.not_lt_zero j)⟩
  | succ fuel ih =>
    rw [placesBelow]
    split_ifs with hd
    · exact ⟨by simpa using hd, fun j hj => absurd hj (Nat.not_lt_zero j)⟩
    · rw [pow_succ, mul_assoc] at h
      obtain ⟨hle, hlt⟩ := ih h
      rw [pow_succ, mul_assoc]
      refine ⟨hle, fun j hj => ?_⟩
      cases j with
      | zero => simpa using hd
      | succ j =>
        rw [pow_succ, mul_assoc]
        exact hlt j (Nat.lt_of_succ_lt_succ hj)

/-- The place of the leading digit of a quotient. -/
theorem leadingPlace_spec (hn : 0 < n) (hd : 0 < d) :
    (10 : ℚ) ^ leadingPlace n d * d ≤ n ∧ (n : ℚ) < 10 ^ (leadingPlace n d + 1) * d := by
  unfold leadingPlace
  split_ifs with h
  · have hpos : 0 < n / d := Nat.div_pos h hd
    obtain ⟨len, hlen⟩ := Nat.exists_eq_succ_of_ne_zero (Nat.length_toDigits_pos (b := 10) (n := n / d)).ne'
    have hupper : n / d < 10 ^ (len + 1) := (Nat.length_toDigits_le_iff (by decide) len.succ_pos).mp hlen.le
    have hlower : 10 ^ len ≤ n / d := by
      cases len with
      | zero => exact hpos
      | succ len =>
        rw [← not_lt, ← Nat.length_toDigits_le_iff (by decide) len.succ_pos, hlen]
        omega
    rw [hlen, Nat.cast_succ, add_sub_cancel_right, zpow_natCast, ← Nat.cast_succ, zpow_natCast]
    constructor
    · exact_mod_cast (Nat.mul_le_mul_right d hlower).trans (Nat.div_mul_le_self n d)
    · exact_mod_cast (Nat.lt_mul_of_div_lt hupper hd)
  · have hfuel : d ≤ 10 ^ (d.log2 + 1) * n := by
      have hlog := Nat.lt_log2_self (n := d)
      have hpow : 2 ^ (d.log2 + 1) ≤ 10 ^ (d.log2 + 1) := Nat.pow_le_pow_left (by decide) _
      nlinarith
    obtain ⟨hle, hlt⟩ := placesBelow_spec hfuel
    generalize placesBelow d (d.log2 + 1) n = p at hle hlt
    have hten : (0 : ℚ) < 10 ^ p := by positivity
    constructor
    · rw [zpow_neg, zpow_natCast, inv_mul_le_iff₀ hten]
      exact_mod_cast hle
    · obtain ⟨j, rfl⟩ : ∃ j, p = j + 1 := by
        refine Nat.exists_eq_succ_of_ne_zero ?_
        rintro rfl
        omega
      have hj := hlt j (Nat.lt_succ_self j)
      have hexp : -((j + 1 : ℕ) : ℤ) + 1 = -(j : ℤ) := by
        push_cast
        ring
      rw [hexp, zpow_neg, zpow_natCast, ← div_eq_inv_mul, lt_div_iff₀ (by positivity), mul_comm]
      exact_mod_cast hj

theorem cutZeros_spec (fuel n : ℕ) : (cutZeros fuel n).1 * 10 ^ (cutZeros fuel n).2 = n := by
  induction fuel generalizing n with
  | zero => simp [cutZeros]
  | succ fuel ih =>
    rw [cutZeros]
    split_ifs with h
    · have hn : n / 10 * 10 = n := Nat.div_mul_cancel (Nat.dvd_of_mod_eq_zero h)
      rw [pow_succ, ← mul_assoc, ih, hn]
    · simp

theorem cutZeros_mod {fuel : ℕ} (h : n ≤ fuel) (hn : 0 < n) : (cutZeros fuel n).1 % 10 ≠ 0 := by
  induction fuel generalizing n with
  | zero => omega
  | succ fuel ih =>
    rw [cutZeros]
    split_ifs with hmod
    · exact ih (by omega) (by omega)
    · exact hmod

theorem cutZeros_lt {fuel : ℕ} (hfuel : p ≤ fuel) (hp : 0 < p) (hn : 0 < n) (h : p ≤ 10 ^ n) :
    (cutZeros fuel p).1 < 10 ^ n := by
  have hcut := cutZeros_spec fuel p
  have hmod := cutZeros_mod hfuel hp
  generalize (cutZeros fuel p).1 = c, (cutZeros fuel p).2 = z at hcut hmod
  have hzpos : 0 < 10 ^ z := by positivity
  rcases h.lt_or_eq with hlt | heq
  · exact (Nat.le_mul_of_pos_right c hzpos).trans_lt (hcut.trans_lt hlt)
  · have hz : n ≤ z := by
      by_contra hlt
      obtain ⟨j, rfl⟩ := Nat.exists_eq_add_of_lt (not_le.mp hlt)
      have hc : c = 10 ^ (j + 1) := by
        rw [heq, Nat.add_assoc, Nat.add_comm, pow_add] at hcut
        exact Nat.eq_of_mul_eq_mul_right hzpos hcut
      rw [hc, pow_succ, Nat.mul_mod_left] at hmod
      exact hmod rfl
    have hle : c * 10 ^ z ≤ 1 * 10 ^ z := by
      rw [hcut, heq, one_mul]
      exact Nat.pow_le_pow_right (by decide) hz
    exact (Nat.le_of_mul_le_mul_right hle hzpos).trans_lt (Nat.one_lt_pow hn.ne' (by decide))

/-- A decimal that is rounded to the double, with as few digits as any that is, and the nearest of those. -/
structure IsShortest (m : ℕ) (q : ℤ) (c : ℕ) (k : ℤ) : Prop where
  rounds : RoundsTo m q (ofTens c k)
  fewest : ∀ c' k', RoundsTo m q (ofTens c' k') → (Nat.toDigits 10 c).length ≤ (Nat.toDigits 10 c').length
  nearest : ∀ c' k', RoundsTo m q (ofTens c' k') → (Nat.toDigits 10 c').length = (Nat.toDigits 10 c).length →
    |ofTens c k - ofTwos m q| ≤ |ofTens c' k' - ofTwos m q|

theorem length_toDigits_le_iff {c n : ℕ} (hn : 0 < n) : (Nat.toDigits 10 c).length ≤ n ↔ c < 10 ^ n :=
  Nat.length_toDigits_le_iff (by decide) hn

theorem ofTens_mul_pow (c : ℕ) (z : ℕ) (k : ℤ) : ofTens (c * 10 ^ z) k = ofTens c (k + z) := by
  unfold ofTens
  rw [zpow_add₀ (by norm_num), zpow_natCast]
  push_cast
  ring

theorem RoundsTo.pos (hm : 0 < m) (h : RoundsTo m q x) : 0 < x := by
  have hpos := two_zpow_pos (q - 2)
  have hlow : (0 : ℚ) < (4 * m - quartersBelow m q : ℚ) * 2 ^ (q - 2) := by
    have hone : (1 : ℚ) ≤ m := by exact_mod_cast hm
    refine mul_pos ?_ hpos
    obtain ⟨hq, _⟩ | hq := quartersBelow_cases m q <;> rw [hq] <;> push_cast <;> linarith
  exact hlow.trans_le h.lower.le

/-- A decimal of up to `n` digits in the interval is no nearer than some point of the grid for `n` digits. -/
theorem exists_on_grid (hplace : 10 ^ place ≤ ofTwos m q) {c : ℕ} (hc : c < 10 ^ n) (hn : 0 < n)
    (h : RoundsTo m q (ofTens c k)) : ∃ p, RoundsTo m q (ofTens p (place + 1 - n)) ∧
      |ofTens p (place + 1 - n) - ofTwos m q| ≤ |ofTens c k - ofTwos m q| := by
  rcases le_or_gt (10 ^ place) (ofTens c k) with hle | hlt
  · have hk : place < n + k := by
      have hup : ofTens c k < 10 ^ (n + k) := by
        unfold ofTens
        rw [zpow_add₀ (by norm_num), zpow_natCast, mul_lt_mul_iff_left₀ (ten_zpow_pos k)]
        exact_mod_cast hc
      exact (zpow_lt_zpow_iff_right₀ (by norm_num)).mp (hle.trans_lt hup)
    obtain ⟨z, rfl⟩ : ∃ z : ℕ, k = place + 1 - n + z := ⟨(k - (place + 1 - n)).toNat, by omega⟩
    rw [← ofTens_mul_pow] at h ⊢
    exact ⟨_, h, le_rfl⟩
  · obtain ⟨j, rfl⟩ := Nat.exists_eq_succ_of_ne_zero hn.ne'
    have hpower : ofTens (1 * 10 ^ j) (place + 1 - (j + 1 : ℕ)) = 10 ^ place := by
      have hexp : place + 1 - (j + 1 : ℕ) + j = place := by
        push_cast
        ring
      rw [ofTens_mul_pow, ofTens, hexp, Nat.cast_one, one_mul]
    refine ⟨1 * 10 ^ j, ?_, ?_⟩
    · rw [hpower]
      exact h.between (roundsTo_self m q) hlt.le hplace
    · rw [hpower, abs_of_nonpos (sub_nonpos.mpr hplace), abs_of_nonpos (sub_nonpos.mpr (hlt.le.trans hplace))]
      linarith

theorem searchGrids_of_some {tie : Tie} (h : gridPoint tie m q (place + 1 - n) = some p) (fuel : ℕ) :
    searchGrids tie m q place (fuel + 1) n = ((cutZeros p p).1, place + 1 - n + (cutZeros p p).2) := by
  rw [searchGrids]
  simp only [h]

theorem searchGrids_of_none {tie : Tie} (h : gridPoint tie m q (place + 1 - n) = none) (fuel : ℕ) :
    searchGrids tie m q place (fuel + 1) n = searchGrids tie m q place fuel (n + 1) := by
  rw [searchGrids]
  simp only [h]

section Search

variable {tie : Tie} (hm : 0 < m) (hlow : 10 ^ place ≤ ofTwos m q) (hhigh : ofTwos m q < 10 ^ (place + 1))
include hm hlow hhigh

/-- The first grid with a point in the interval gives the shortest decimal. -/
theorem isShortest_of_gridPoint (hn : 0 < n) (h : gridPoint tie m q (place + 1 - n) = some p)
    (hbefore : ∀ c k, RoundsTo m q (ofTens c k) → 10 ^ (n - 1) ≤ c) :
    IsShortest m q (cutZeros p p).1 (place + 1 - n + (cutZeros p p).2) := by
  obtain ⟨hp, hnearest⟩ := nearest_of_gridPoint hm h
  have hpos : 0 < p := by
    refine Nat.pos_of_ne_zero ?_
    rintro rfl
    simpa [ofTens] using hp.pos hm
  have hle : p ≤ 10 ^ n := by
    refine le_of_gridPoint hm h (hhigh.trans_eq ?_)
    rw [← one_mul (10 ^ n), ofTens_mul_pow, ofTens, Nat.cast_one, one_mul, sub_add_cancel]
  have hlen := (length_toDigits_le_iff hn).mpr (cutZeros_lt le_rfl hpos hn hle)
  have hsame : ofTens (cutZeros p p).1 (place + 1 - n + (cutZeros p p).2) = ofTens p (place + 1 - n) := by
    rw [← ofTens_mul_pow, cutZeros_spec]
  rw [← hsame] at hp
  refine ⟨hp, ?_, ?_⟩
  · intro c' k' h'
    refine hlen.trans ?_
    by_contra hlt
    have hc' := hbefore c' k' h'
    have hpos' := Nat.length_toDigits_pos (b := 10) (n := c')
    rw [← not_lt, ← length_toDigits_le_iff (by omega)] at hc'
    omega
  · intro c' k' h' hlen'
    have hc' : c' < 10 ^ n := (length_toDigits_le_iff hn).mp (hlen'.trans_le hlen)
    obtain ⟨p', hp', hdist⟩ := exists_on_grid hlow hc' hn h'
    rw [hsame]
    exact (hnearest p' hp').trans hdist

/-- Where no decimal with fewer digits is rounded to the double, the search ends with a shortest one. -/
theorem isShortest_searchGrids (hsize : m < 2 ^ 53) (fuel : ℕ) (hn : 0 < n) (hfuel : n + fuel = 17)
    (hbefore : ∀ c k, RoundsTo m q (ofTens c k) → 10 ^ (n - 1) ≤ c) :
    IsShortest m q (searchGrids tie m q place (fuel + 1) n).1 (searchGrids tie m q place (fuel + 1) n).2 := by
  induction fuel generalizing n with
  | zero =>
    cases h : gridPoint tie m q (place + 1 - n) with
    | some p =>
      rw [searchGrids_of_some h]
      exact isShortest_of_gridPoint hm hlow hhigh hn h hbefore
    | none =>
      refine absurd h (gridPoint_ne_none hm hsize ?_)
      have hexp : place + 1 - n + (16 : ℕ) = place := by omega
      rwa [← one_mul (10 ^ 16), ofTens_mul_pow, hexp, ofTens, Nat.cast_one, one_mul]
  | succ fuel ih =>
    cases h : gridPoint tie m q (place + 1 - n) with
    | some p =>
      rw [searchGrids_of_some h]
      exact isShortest_of_gridPoint hm hlow hhigh hn h hbefore
    | none =>
      rw [searchGrids_of_none h]
      refine ih n.succ_pos (by omega) fun c k hc => ?_
      by_contra hlt
      obtain ⟨p, hp, _⟩ := exists_on_grid hlow (not_le.mp hlt) hn hc
      exact not_roundsTo_of_gridPoint hm h p hp

end Search

/-- The search finds a decimal for every positive significand of a double. -/
theorem isShortest_shortest (tie : Tie) (hm : 0 < m) (hsize : m < 2 ^ 53) (q : ℤ) :
    IsShortest m q (shortest tie m q).1 (shortest tie m q).2 := by
  obtain ⟨hd, hratio⟩ := ratio_spec m q 0
  unfold shortest
  generalize ratio m q 0 = r at hd hratio
  obtain ⟨n, d⟩ := r
  dsimp only at hd hratio ⊢
  have hdpos : (0 : ℚ) < d := Nat.cast_pos.mpr hd
  have hn : (n : ℚ) = ofTwos m q * d := by
    rw [zpow_zero, mul_one] at hratio
    rw [hratio, mul_comm]
  have hnpos : 0 < n := by
    have hpos : (0 : ℚ) < n := hn ▸ mul_pos ((roundsTo_self m q).pos hm) hdpos
    exact_mod_cast hpos
  obtain ⟨hlow, hhigh⟩ := leadingPlace_spec hnpos hd
  rw [hn, mul_le_mul_iff_left₀ hdpos] at hlow
  rw [hn, mul_lt_mul_iff_left₀ hdpos] at hhigh
  refine isShortest_searchGrids hm hlow hhigh hsize 16 one_pos rfl fun c k h => ?_
  refine Nat.pos_of_ne_zero ?_
  rintro rfl
  simpa [ofTens] using h.pos hm

end SampleData.Decimal
