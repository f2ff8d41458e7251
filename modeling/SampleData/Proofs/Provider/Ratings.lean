import Mathlib.Data.Rat.Floor
import Mathlib.Tactic.Linarith
import Mathlib.Tactic.NormNum
import SampleData.Proofs.Random.Draws
import SampleData.Proofs.Success
import SampleData.Provider.Numbers
import SampleData.Random.Keystream
import SampleData.Random.Seed

/-! # Ratings

A rating is drawn from its range and then rounded to tenths, and nothing is done to it afterwards. Over exact numbers
it lies within half a tenth of what was drawn, and it is a multiple of one tenth. It can leave the range at the upper
end, where the greatest rating is itself rounded up; where it is rounded down or is a multiple of one tenth, all
ratings stay in the range.
-/
namespace SampleData.Numbers

variable {σ : Type}

/-- The call over numbers that are checked, drawn and rounded in some way. -/
def ratingOver {α : Type} [Mul α] [Div α] (round : α → α) (zero ten : α) (check : α → α → Except InputFault Unit)
    (draw : α → α → StateM σ α) (greatest : α) : Gen σ α := do
  Gen.accept (check zero greatest)
  return toTenth round ten (← Gen.draw (draw zero greatest))

theorem rating_eq [WordSource σ] :
    (rating : Float → Gen σ Float) = ratingOver Float.round 0.0 10.0 (Bounds.real "rating") Random.real := rfl

theorem ratingOver_apply {α : Type} [Mul α] [Div α] {round : α → α} {zero ten greatest : α}
    {check : α → α → Except InputFault Unit} (hc : check zero greatest = .ok ()) (draw : α → α → StateM σ α) (w : σ) :
    ratingOver round zero ten check draw greatest w =
      .ok (toTenth round ten (draw zero greatest w).1) (draw zero greatest w).2 := by
  unfold ratingOver
  rw [hc]
  rfl

def roundAway (x : ℚ) : ℚ := if 0 ≤ x then ⌊x + 1 / 2⌋ else ⌈x - 1 / 2⌉

def exactRating (check : ℚ → ℚ → Except InputFault Unit) (draw : ℚ → ℚ → StateM σ ℚ) (greatest : ℚ) : Gen σ ℚ :=
  ratingOver roundAway 0 10 check draw greatest

def DrawsInRange (draw : ℚ → ℚ → StateM σ ℚ) : Prop :=
  ∀ lower upper, lower ≤ upper → Random.Draws (draw lower upper) fun x => lower ≤ x ∧ x ≤ upper

def IsTenths (x : ℚ) : Prop := ∃ n : ℕ, x = n / 10

structure IsRounded (greatest raw x : ℚ) : Prop where
  nonneg : 0 ≤ x
  tenths : IsTenths x
  near : |x - raw| ≤ 1 / 20
  /-- It is no more than the greatest rating if what was drawn lies below the middle between the last tenth up to the
  greatest rating and the next one. -/
  le_iff : x ≤ greatest ↔ raw * 10 < ⌊greatest * 10⌋ + 1 / 2

structure IsRating (greatest x : ℚ) : Prop where
  nonneg : 0 ≤ x
  le : x ≤ greatest
  tenths : IsTenths x

variable {raw greatest : ℚ}

theorem toTenth_of_nonneg (h : 0 ≤ raw) : toTenth roundAway 10 raw = ⌊raw * 10 + 1 / 2⌋ / 10 := by
  unfold toTenth roundAway
  rw [if_pos (by linarith)]

theorem isTenths_toTenth (h : 0 ≤ raw) : IsTenths (toTenth roundAway 10 raw) := by
  have hfloor : 0 ≤ ⌊raw * 10 + 1 / 2⌋ := Int.floor_nonneg.mpr (by linarith)
  obtain ⟨n, hn⟩ := Int.eq_ofNat_of_zero_le hfloor
  refine ⟨n, ?_⟩
  rw [toTenth_of_nonneg h, hn, Int.cast_natCast]

theorem toTenth_nonneg (h : 0 ≤ raw) : 0 ≤ toTenth roundAway 10 raw := by
  obtain ⟨n, hn⟩ := isTenths_toTenth h
  rw [hn]
  positivity

/-- No rating is more than a twentieth away from what was drawn. -/
theorem abs_toTenth_sub_le (h : 0 ≤ raw) : |toTenth roundAway 10 raw - raw| ≤ 1 / 20 := by
  have hlow := Int.floor_le (raw * 10 + 1 / 2)
  have hhigh := Int.lt_floor_add_one (raw * 10 + 1 / 2)
  rw [toTenth_of_nonneg h, abs_le]
  constructor <;> linarith

/-- Which draws are rounded to no more than the greatest rating. -/
theorem toTenth_le_iff (h : 0 ≤ raw) : toTenth roundAway 10 raw ≤ greatest ↔ raw * 10 < ⌊greatest * 10⌋ + 1 / 2 := by
  calc toTenth roundAway 10 raw ≤ greatest
    _ ↔ (⌊raw * 10 + 1 / 2⌋ : ℚ) ≤ greatest * 10 := by rw [toTenth_of_nonneg h, div_le_iff₀ (by norm_num)]
    _ ↔ ⌊raw * 10 + 1 / 2⌋ < ⌊greatest * 10⌋ + 1 := by rw [← Int.le_floor, Int.lt_add_one_iff]
    _ ↔ raw * 10 + 1 / 2 < ⌊greatest * 10⌋ + 1 := by rw [Int.floor_lt, Int.cast_add, Int.cast_one]
    _ ↔ raw * 10 < ⌊greatest * 10⌋ + 1 / 2 := by constructor <;> intro hlt <;> linarith

theorem isRounded_toTenth (h : 0 ≤ raw) : IsRounded greatest raw (toTenth roundAway 10 raw) :=
  ⟨toTenth_nonneg h, isTenths_toTenth h, abs_toTenth_sub_le h, toTenth_le_iff h⟩

theorem fract_lt_half_iff (x : ℚ) : Int.fract x < 1 / 2 ↔ x < ⌊x⌋ + 1 / 2 := by
  unfold Int.fract
  constructor <;> intro hlt <;> linarith

/-- The share of its range that a drawn number lies above the lower end: 52 bits, as in a draw of doubles. -/
def share (word : UInt64) : ℚ := (word >>> 12).toNat / 4503599627370496

/-- The draw of a double over exact numbers. -/
def exactReal [WordSource σ] (lower upper : ℚ) : StateM σ ℚ := do
  return share (← Random.doubleWord) * (upper - lower) + lower

theorem share_nonneg (word : UInt64) : 0 ≤ share word := by
  unfold share
  positivity

theorem share_le_one (word : UInt64) : share word ≤ 1 := by
  have hbits : (word >>> 12).toNat ≤ 4503599627370496 := by
    have hlt := word.toNat_lt
    have htwelve : (12 : UInt64).toNat % 64 = 12 := rfl
    rw [UInt64.toNat_shiftRight, Nat.shiftRight_eq_div_pow, htwelve]
    omega
  unfold share
  rw [div_le_one (by norm_num)]
  exact_mod_cast hbits

theorem drawsInRange_exactReal [WordSource σ] : DrawsInRange (exactReal : ℚ → ℚ → StateM σ ℚ) := by
  intro lower upper h w
  have hvalue : (exactReal lower upper w).1 = share (Random.doubleWord w).1 * (upper - lower) + lower := rfl
  have hwidth : 0 ≤ upper - lower := sub_nonneg.mpr h
  rw [hvalue]
  constructor
  · have hpos := mul_nonneg (share_nonneg (Random.doubleWord w).1) hwidth
    linarith
  · have hle := mul_le_of_le_one_left hwidth (share_le_one (Random.doubleWord w).1)
    linarith

structure Rates (σ : Type) [WordSource σ] (check : ℚ → ℚ → Except InputFault Unit) (greatest : ℚ) : Prop where
  /-- Over doubles this is the call of the provider. -/
  call : (rating : Float → Gen σ Float) = ratingOver Float.round 0.0 10.0 (Bounds.real "rating") Random.real
  rounded : ∀ draw : ℚ → ℚ → StateM σ ℚ, DrawsInRange draw → ∀ w, ∃ x,
    exactRating check draw greatest w = .ok x (draw 0 greatest w).2 ∧ IsRounded greatest (draw 0 greatest w).1 x
  /-- No draw leads out of the range exactly where the greatest rating is not itself rounded up. -/
  inRange : ∀ w : σ, (∀ draw, DrawsInRange draw → ∃ x w', exactRating check draw greatest w = .ok x w' ∧
    IsRating greatest x) ↔ Int.fract (greatest * 10) < 1 / 2

variable {check : ℚ → ℚ → Except InputFault Unit}

/-- A rating is the drawn number rounded to tenths. -/
theorem exists_rating (h : 0 ≤ greatest) (hc : check 0 greatest = .ok ()) {draw : ℚ → ℚ → StateM σ ℚ}
    (hd : DrawsInRange draw) (w : σ) : ∃ x, exactRating check draw greatest w = .ok x (draw 0 greatest w).2 ∧
      IsRounded greatest (draw 0 greatest w).1 x :=
  ⟨_, ratingOver_apply hc draw w, isRounded_toTenth (hd 0 greatest h w).1⟩

/-- Every accepted rating is made, is a multiple of one tenth and is not negative. All of them stay in the range exactly
where the greatest one lies less than half a tenth above a multiple of one tenth. -/
theorem ratings_rounded [WordSource σ] (h : 0 ≤ greatest) (hc : check 0 greatest = .ok ()) : Rates σ check greatest where
  call := rating_eq
  rounded := fun _ hd w => exists_rating h hc hd w
  inRange := by
    intro w
    rw [fract_lt_half_iff]
    constructor
    · intro hall
      have hupper : DrawsInRange fun _ upper => (pure upper : StateM σ ℚ) := fun lower upper hle _ => ⟨hle, le_rfl⟩
      obtain ⟨x, w', ho, hx⟩ := hall _ hupper
      obtain ⟨y, hy, hrounded⟩ := exists_rating h hc hupper w
      obtain rfl : x = y := (EStateM.Result.ok.inj (ho.symm.trans hy)).1
      exact hrounded.le_iff.mp hx.le
    · intro hg draw hd
      obtain ⟨x, hx, hrounded⟩ := exists_rating h hc hd w
      have hraw := (hd 0 greatest h w).2
      exact ⟨x, _, hx, hrounded.nonneg, hrounded.le_iff.mpr (by linarith), hrounded.tenths⟩

theorem ratings_rounded_five : (0 : ℚ) ≤ 5 ∧ Int.fract ((5 : ℚ) * 10) < 1 / 2 ∧
    ∃ x w', exactRating (fun _ _ => .ok ()) exactReal 5 (Random.seeded 1 "numbers" : Keystream) = .ok x w' ∧
      IsRating 5 x := by
  have hfive : (0 : ℚ) ≤ 5 := by norm_num
  have hfract : Int.fract ((5 : ℚ) * 10) < 1 / 2 := by norm_num
  exact ⟨hfive, hfract, ((ratings_rounded hfive rfl).inRange _).mpr hfract _ drawsInRange_exactReal⟩

/-- A rating of one tenth where the greatest one is less. -/
theorem rating_above_greatest :
    (∃ w', exactRating (fun _ _ => .ok ()) exactReal (3 / 50) (Random.seeded 1 "numbers" : Keystream) = .ok (1 / 10) w') ∧
      ¬ IsRating (3 / 50) (1 / 10) := by
  have htenth : toTenth roundAway 10 (exactReal 0 (3 / 50) (Random.seeded 1 "numbers" : Keystream)).1 = 1 / 10 := by
    decide +kernel
  have ho : exactRating (fun _ _ => .ok ()) exactReal (3 / 50) (Random.seeded 1 "numbers" : Keystream) = _ :=
    ratingOver_apply rfl exactReal _
  rw [htenth] at ho
  refine ⟨⟨_, ho⟩, fun h => ?_⟩
  have hle := h.le
  norm_num at hle

end SampleData.Numbers
