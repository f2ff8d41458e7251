import SampleData.Json.Number
import SampleData.Decimal.Text
import SampleData.Proofs.Decimal.Shortest
import SampleData.Proofs.DigitTexts

/-! # Numerals

A number of a JSON text is an optional minus sign, digits without a superfluous zero in front, and optionally a fraction
and an exponent. The texts of whole numbers and of doubles have this form, and the reader takes them apart into the same
parts. A whole number of 64 bits is read as itself. The parts of a double stand for its shortest decimal.
-/
namespace SampleData

namespace Json

def fractionText (digits : List Char) : List Char := if digits = [] then [] else '.' :: digits

inductive IsExponent : ℤ → List Char → Prop
  | absent : IsExponent 0 []
  | present (e : ℤ) : IsExponent e ('e' :: (toString e).toList)

structure IsNumeral (t : NumberText) (cs : List Char) : Prop where
  whole : t.whole ≠ [] ∧ Text.AreDigits t.whole
  leading : t.whole.head? = some '0' → t.whole.length = 1
  fraction : Text.AreDigits t.fraction
  text : ∃ es, cs = Decimal.signText t.negative ++ (t.whole ++ (fractionText t.fraction ++ es)) ∧
    IsExponent t.exponent es ∧ (t.plain = true ↔ t.fraction = [] ∧ es = [])

/-- The size of the number over exact numbers. -/
def NumberText.size (t : NumberText) : ℚ :=
  Decimal.ofTens (Text.number (t.whole ++ t.fraction)) (t.exponent - t.fraction.length)

def EndsNumber (rest : List Char) : Prop :=
  ∀ c ∈ rest.head?, Text.isDigit c = false ∧ c ≠ '.' ∧ c ≠ 'e' ∧ c ≠ 'E'

/-- The text of a double: a number with the sign of the double and the size of its shortest decimal, which can be told
from a whole number, or `null` where the double is no finite number. -/
inductive IsDouble (x : Float) (cs : List Char) : Prop
  | finite {m : ℕ} {q : ℤ} {t : NumberText} {c : ℕ} {k : ℤ} (hx : (Decimal.Binary.ofFloat x).magnitude = .finite m q)
      (ht : IsNumeral t cs) (hp : t.plain = false) (hs : t.negative = (Decimal.Binary.ofFloat x).negative)
      (hsize : t.size = Decimal.ofTens c k) (hc : Decimal.IsShortest m q c k)
  | infinite (hx : (Decimal.Binary.ofFloat x).magnitude = .infinite) (hcs : cs = "null".toList)
  | notANumber (hx : (Decimal.Binary.ofFloat x).magnitude = .notANumber) (hcs : cs = "null".toList)

end Json

namespace Text

theorem number_append_zeros (cs : List Char) (n : ℕ) : number (cs ++ Decimal.zeros n) = number cs * 10 ^ n := by
  induction n with
  | zero => simp [Decimal.zeros]
  | succ n ih =>
    have hz : cs ++ Decimal.zeros (n + 1) = (cs ++ Decimal.zeros n) ++ ['0'] := by
      rw [Decimal.zeros, List.replicate_succ', ← List.append_assoc]
      rfl
    have hstep : number ((cs ++ Decimal.zeros n) ++ ['0']) = 10 * number (cs ++ Decimal.zeros n) := by
      unfold number
      rw [List.foldl_append]
      rfl
    rw [hz, hstep, ih]
    ring

theorem number_zeros_append (n : ℕ) (cs : List Char) : number (Decimal.zeros n ++ cs) = number cs := by
  induction n with
  | zero => rfl
  | succ n ih => exact ih

theorem head?_toDigits {n : ℕ} (h : 0 < n) : (Nat.toDigits 10 n).head? ≠ some '0' := by
  induction n using Nat.strong_induction_on with
  | _ n ih =>
    rcases Nat.lt_or_ge n 10 with hlt | hge
    · rw [Nat.toDigits_of_lt_base hlt, List.head?_cons]
      have hall : ∀ n < 10, 0 < n → Nat.digitChar n ≠ '0' := by decide
      exact fun he => hall n hlt h (Option.some.inj he)
    · rw [Nat.toDigits_of_base_le (by decide) hge, List.head?_append_of_ne_nil _ Nat.toDigits_ne_nil]
      exact ih (n / 10) (Nat.div_lt_self h (by decide)) (Nat.div_pos hge (by decide))

theorem areDigits_zeros (n : ℕ) : AreDigits (Decimal.zeros n) := by
  intro c hc
  rw [List.eq_of_mem_replicate hc]
  rfl

end Text

namespace Json

variable {t : NumberText} {cs rest : List Char}

/-- A whole number is written with a sign, if it is negative, and its digits. -/
theorem isNumeral_toString (n : ℤ) :
    IsNumeral ⟨decide (n < 0), Nat.toDigits 10 n.natAbs, [], 0, true⟩ (toString n).toList where
  whole := ⟨Nat.toDigits_ne_nil, Text.areDigits_toDigits _⟩
  leading := by
    intro h
    rcases Nat.eq_zero_or_pos n.natAbs with hzero | hpos
    · rw [hzero]
      rfl
    · exact absurd h (Text.head?_toDigits hpos)
  fraction := nofun
  text := by
    refine ⟨[], ?_, .absent, by simp⟩
    cases n with
    | ofNat n => simp [Int.repr, toString, Nat.repr, fractionText, Decimal.signText]
    | negSucc n => simp [Int.repr, toString, Nat.repr, fractionText, Decimal.signText, Int.negSucc_lt_zero]

theorem IsNumeral.eq_cons (h : IsNumeral t cs) : ∃ c ds, cs = c :: ds ∧ (c = '-' ∨ Text.isDigit c = true) := by
  obtain ⟨⟨hne, hwhole⟩, _, _, es, rfl, _, _⟩ := h
  obtain ⟨d, ds, hd⟩ := List.exists_cons_of_ne_nil hne
  cases t.negative with
  | true => exact ⟨'-', _, rfl, .inl rfl⟩
  | false => exact ⟨d, _, by rw [hd]; rfl, .inr (hwhole d (hd ▸ List.mem_cons_self))⟩

end Json

namespace Decimal

open Json (IsNumeral)

variable {c : ℕ} {k : ℤ}

/-- Whole numbers in full get a fraction. -/
theorem exists_whole (negative : Bool) (hc : c = 0 → k = 0) (hk : 0 ≤ k) :
    ∃ t, IsNumeral t (signText negative ++ (positional c k ++ ['.', '0'])) ∧ t.plain = false ∧
      t.negative = negative ∧ t.size = ofTens c k := by
  have hdigits : positional c k = Nat.toDigits 10 c ++ zeros k.toNat := if_pos hk
  refine ⟨⟨negative, positional c k, ['0'], 0, false⟩, ⟨⟨?_, ?_⟩, ?_, ?_, ?_⟩, rfl, rfl, ?_⟩
  · rw [hdigits]
    exact List.append_ne_nil_of_left_ne_nil Nat.toDigits_ne_nil _
  · rw [hdigits]
    exact (Text.areDigits_toDigits c).append (Text.areDigits_zeros _)
  · rcases Nat.eq_zero_or_pos c with rfl | hpos
    · rw [hc rfl]
      exact fun _ => rfl
    · rw [hdigits, List.head?_append_of_ne_nil _ Nat.toDigits_ne_nil]
      exact fun h => absurd h (Text.head?_toDigits hpos)
  · exact Text.areDigits_zeros 1
  · refine ⟨[], ?_, .absent, by simp⟩
    simp [Json.fractionText]
  · have hvalue : Text.number (positional c k ++ zeros 1) = c * 10 ^ k.toNat * 10 ^ 1 := by
      rw [Text.number_append_zeros, hdigits, Text.number_append_zeros, Text.number_toDigits]
    unfold Json.NumberText.size
    have hone : ['0'] = zeros 1 := rfl
    rw [hone, hvalue, ofTens_mul_pow, ofTens_mul_pow, Int.toNat_of_nonneg hk]
    simp [zeros]

/-- A number with a fraction in full. -/
theorem exists_fraction (negative : Bool) (c : ℕ) (hk : k < 0) :
    ∃ t, IsNumeral t (signText negative ++ positional c k) ∧ t.plain = false ∧ t.negative = negative ∧
      t.size = ofTens c k := by
  have hall := Text.areDigits_toDigits c
  have hlen : ((-k).toNat : ℤ) = -k := Int.toNat_of_nonneg (by omega)
  unfold positional
  rw [if_neg (not_le.mpr hk)]
  dsimp only
  split_ifs with hplaces
  · generalize hn : (Nat.toDigits 10 c).length - (-k).toNat = n
    have hdrop : ((Nat.toDigits 10 c).drop n).length = (-k).toNat := by
      rw [List.length_drop]
      omega
    have hne : (Nat.toDigits 10 c).drop n ≠ [] := by
      rw [← List.length_pos_iff, hdrop]
      omega
    have hhead : ((Nat.toDigits 10 c).take n).head? = (Nat.toDigits 10 c).head? := by
      rw [List.head?_take, if_neg (by omega)]
    refine ⟨⟨negative, (Nat.toDigits 10 c).take n, (Nat.toDigits 10 c).drop n, 0, false⟩,
      ⟨⟨?_, ?_⟩, ?_, ?_, ?_⟩, rfl, rfl, ?_⟩
    · rw [← List.length_pos_iff, List.length_take]
      omega
    · exact fun d hd => hall d (List.mem_of_mem_take hd)
    · rw [hhead]
      refine fun h => absurd h (Text.head?_toDigits (Nat.pos_of_ne_zero ?_))
      rintro rfl
      rw [Nat.toDigits_zero, List.length_singleton] at hplaces
      omega
    · exact fun d hd => hall d (List.mem_of_mem_drop hd)
    · refine ⟨[], ?_, .absent, by simp [hne]⟩
      simp [Json.fractionText, hne]
    · unfold Json.NumberText.size
      dsimp only
      rw [List.take_append_drop, Text.number_toDigits, hdrop, hlen]
      simp
  · refine ⟨⟨negative, ['0'], zeros ((-k).toNat - (Nat.toDigits 10 c).length) ++ Nat.toDigits 10 c, 0, false⟩,
      ⟨⟨by simp, Text.areDigits_zeros 1⟩, by simp, (Text.areDigits_zeros _).append hall, ?_⟩, rfl, rfl, ?_⟩
    · refine ⟨[], ?_, .absent, by simp [Nat.toDigits_ne_nil]⟩
      simp [Json.fractionText, Nat.toDigits_ne_nil]
    · have hvalue : Text.number (['0'] ++ (zeros ((-k).toNat - (Nat.toDigits 10 c).length) ++ Nat.toDigits 10 c)) = c := by
        rw [← List.append_assoc]
        exact (Text.number_zeros_append (_ + 1) _).trans (Text.number_toDigits c)
      unfold Json.NumberText.size
      dsimp only
      rw [hvalue, List.length_append]
      congr 1
      simp only [zeros, List.length_replicate]
      omega

/-- The scientific form of a decimal is a numeral of its size. -/
theorem exists_scientific (negative : Bool) (c : ℕ) (k : ℤ) :
    ∃ t, IsNumeral t (signText negative ++ scientific c k) ∧ t.plain = false ∧ t.negative = negative ∧
      t.size = ofTens c k := by
  obtain ⟨d, ds, hdigits⟩ := List.exists_cons_of_ne_nil (Nat.toDigits_ne_nil (n := c) (b := 10))
  have hall := Text.areDigits_toDigits c
  have hvalue := Text.number_toDigits c
  rw [hdigits] at hall hvalue
  obtain ⟨hd, hds⟩ := List.forall_mem_cons.mp hall
  refine ⟨⟨negative, [d], ds, k + ds.length, false⟩, ⟨⟨by simp, by simpa [Text.AreDigits] using hd⟩, by simp, hds, ?_⟩, rfl, rfl, ?_⟩
  · refine ⟨_, ?_, .present _, by simp⟩
    unfold scientific Json.fractionText
    rw [hdigits]
    cases ds <;> simp
  · unfold Json.NumberText.size
    dsimp only
    rw [List.singleton_append, hvalue, add_sub_cancel_right]

theorem Binary.significand_lt {bits : UInt64} {m : ℕ} {q : ℤ} (h : (Binary.ofBits bits).magnitude = .finite m q) :
    m < 2 ^ 53 := by
  have hfraction : (bits &&& 0xfffffffffffff).toNat < 2 ^ 52 := by
    rw [UInt64.toNat_and]
    exact lt_of_le_of_lt Nat.and_le_right (by decide)
  unfold Binary.ofBits at h
  dsimp only at h
  split_ifs at h
  · obtain ⟨rfl, _⟩ := Magnitude.finite.inj h
    omega
  · obtain ⟨rfl, _⟩ := Magnitude.finite.inj h
    rw [Nat.pow_eq]
    omega

theorem isShortest_zero (q : ℤ) : IsShortest 0 q 0 0 := by
  have hself : ofTens 0 0 = ofTwos 0 q := by simp [ofTens, ofTwos]
  refine ⟨hself ▸ roundsTo_self 0 q, fun c k _ => Nat.length_toDigits_pos, fun c k _ _ => ?_⟩
  rw [hself, sub_self, abs_zero]
  exact abs_nonneg _

/-- The digits that are written of a significand. -/
theorem isShortest_digits {m c : ℕ} {q k : ℤ} (hsize : m < 2 ^ 53)
    (h : (if m = 0 then (0, 0) else shortest .toEven m q) = (c, k)) : IsShortest m q c k ∧ (c = 0 → k = 0) := by
  rcases Nat.eq_zero_or_pos m with rfl | hm
  · obtain ⟨rfl, rfl⟩ := Prod.mk.inj h
    exact ⟨isShortest_zero q, fun _ => rfl⟩
  · rw [if_neg hm.ne'] at h
    have hs := isShortest_shortest .toEven hm hsize q
    rw [h] at hs
    refine ⟨hs, fun hc => ?_⟩
    have hpos := hs.rounds.pos hm
    rw [hc] at hpos
    simp [ofTens] at hpos

/-- The text of a double is a number with its sign and the size of its shortest decimal. -/
theorem isDouble_exact (x : Float) : Json.IsDouble x (exact x).toList := by
  unfold exact
  cases hx : (Binary.ofFloat x).magnitude with
  | infinite => exact .infinite hx (by simp only [hx])
  | notANumber => exact .notANumber hx (by simp only [hx])
  | finite m q =>
    simp only [hx]
    generalize hr : (if m = 0 then (0, 0) else shortest .toEven m q) = r
    obtain ⟨c, k⟩ := r
    obtain ⟨hshortest, hzero⟩ := isShortest_digits (Binary.significand_lt hx) hr
    dsimp only
    have hnumeral : ∀ {body : List Char}, (∃ t, IsNumeral t (signText (Binary.ofFloat x).negative ++ body) ∧
        t.plain = false ∧ t.negative = (Binary.ofFloat x).negative ∧ t.size = ofTens c k) →
        Json.IsDouble x (String.ofList (signText (Binary.ofFloat x).negative ++ body)).toList := by
      rintro body ⟨t, ht, hp, hs, hsize⟩
      rw [String.toList_ofList]
      exact .finite hx ht hp hs hsize hshortest
    split_ifs with hwhole hfraction
    · exact hnumeral (exists_whole _ hzero hwhole.1)
    · exact hnumeral (exists_fraction _ c (by omega))
    · exact hnumeral (exists_scientific _ c k)

end Decimal

namespace Json

variable {t : NumberText} {cs ds behind rest : List Char}

theorem span_digits (hd : Text.AreDigits ds) (hb : ∀ c ∈ behind.head?, Text.isDigit c = false) :
    (ds ++ behind).takeWhile Text.isDigit = ds ∧ (ds ++ behind).dropWhile Text.isDigit = behind := by
  rw [List.takeWhile_append_of_pos hd, List.dropWhile_append_of_pos hd]
  cases behind with
  | nil => simp
  | cons c behind => simp [hb c rfl]

theorem EndsNumber.not_digit (h : EndsNumber rest) : ∀ c ∈ rest.head?, Text.isDigit c = false := fun c hc => (h c hc).1

theorem ne_sign_of_isDigit {d : Char} (h : Text.isDigit d = true) : d ≠ '-' ∧ d ≠ '+' := by
  constructor
  · rintro rfl
    cases h
  · rintro rfl
    cases h

theorem readSign_append (negative : Bool) {d : Char} (hd : Text.isDigit d = true) (behind : List Char) :
    readSign (Decimal.signText negative ++ d :: behind) = (negative, d :: behind) := by
  cases negative with
  | true => rfl
  | false => simp [Decimal.signText, readSign, (ne_sign_of_isDigit hd).1]

theorem readFraction_append (hd : Text.AreDigits ds) (hdigit : ∀ c ∈ behind.head?, Text.isDigit c = false)
    (hpoint : ∀ c ∈ behind.head?, c ≠ '.') :
    readFraction (fractionText ds ++ behind) = some (if ds = [] then none else some ds, behind) := by
  obtain ⟨htake, hdrop⟩ := span_digits hd hdigit
  cases ds with
  | nil =>
    cases behind with
    | nil => rfl
    | cons c behind => simp [fractionText, readFraction, hpoint c rfl]
  | cons d ds =>
    rw [List.cons_append] at htake hdrop
    simp [fractionText, readFraction, htake, hdrop]

/-- A written exponent is read back. -/
theorem readExponent_toString (e : ℤ) (hr : EndsNumber rest) :
    readExponent ((toString e).toList ++ rest) = some (e, rest) := by
  cases e with
  | ofNat n =>
    have htext : (toString (Int.ofNat n)).toList = Nat.toDigits 10 n := Text.toList_toString n
    have hvalue := Text.number_toDigits n
    obtain ⟨htake, hdrop⟩ := span_digits (Text.areDigits_toDigits n) hr.not_digit
    obtain ⟨d, ds, hdigits⟩ := List.exists_cons_of_ne_nil (Nat.toDigits_ne_nil (n := n) (b := 10))
    obtain ⟨hminus, hplus⟩ := ne_sign_of_isDigit (Text.areDigits_toDigits n d (hdigits ▸ List.mem_cons_self))
    rw [htext]
    rw [hdigits] at htake hdrop hvalue ⊢
    rw [List.cons_append] at htake hdrop ⊢
    simp [readExponent, hminus, hplus, htake, hdrop, hvalue]
  | negSucc n =>
    have htext : (toString (Int.negSucc n)).toList = '-' :: Nat.toDigits 10 (n + 1) := by
      simp [Int.repr, toString, Nat.repr]
    obtain ⟨htake, hdrop⟩ := span_digits (Text.areDigits_toDigits (n + 1)) hr.not_digit
    rw [htext]
    simp [readExponent, htake, hdrop, Text.number_toDigits, Nat.toDigits_ne_nil, Int.negSucc_eq]

theorem readPower_append {e : ℤ} {es : List Char} (he : IsExponent e es) (hr : EndsNumber rest) :
    readPower (es ++ rest) = some (if es = [] then none else some e, rest) := by
  cases he with
  | absent =>
    cases rest with
    | nil => rfl
    | cons c rest =>
      obtain ⟨_, _, hsmall, hcapital⟩ := hr c rfl
      simp [readPower, hsmall, hcapital]
  | present e =>
    rw [List.cons_append, readPower, if_pos (.inl rfl), readExponent_toString e hr]
    rfl

theorem IsExponent.ends {e : ℤ} {es : List Char} (he : IsExponent e es) (hr : EndsNumber rest) :
    ∀ c ∈ (es ++ rest).head?, Text.isDigit c = false ∧ c ≠ '.' := by
  cases he with
  | absent => exact fun c hc => ⟨(hr c hc).1, (hr c hc).2.1⟩
  | present e =>
    rintro c ⟨⟩
    exact ⟨rfl, by decide⟩

theorem fractionText_ends (ds : List Char) (hb : ∀ c ∈ behind.head?, Text.isDigit c = false) :
    ∀ c ∈ (fractionText ds ++ behind).head?, Text.isDigit c = false := by
  unfold fractionText
  split_ifs
  · exact hb
  · rintro c ⟨⟩
    rfl

theorem getD_ite_nil (ds : List Char) : (if ds = [] then none else some ds).getD [] = ds := by
  split_ifs with h
  · exact h.symm
  · rfl

theorem IsExponent.getD_ite {e : ℤ} {es : List Char} (he : IsExponent e es) :
    (if es = [] then none else some e).getD 0 = e := by
  cases he with
  | absent => rfl
  | present e => rfl

/-- The reader takes a numeral apart into its parts. -/
theorem readNumber_of_isNumeral (h : IsNumeral t cs) (hr : EndsNumber rest) :
    readNumber (cs ++ rest) = t.value.map fun v => (v, rest) := by
  obtain ⟨⟨hne, hwhole⟩, hleading, hfraction, es, rfl, he, hplain⟩ := h
  obtain ⟨negative, whole, fraction, exponent, plain⟩ := t
  dsimp only at *
  have hexponent := he.ends hr
  have hbehind := fractionText_ends fraction fun c hc => (hexponent c hc).1
  obtain ⟨d, ds, rfl⟩ := List.exists_cons_of_ne_nil hne
  obtain ⟨htake, hdrop⟩ := span_digits hwhole hbehind
  have hsign := readSign_append negative (hwhole d List.mem_cons_self) (ds ++ (fractionText fraction ++ (es ++ rest)))
  have hzero : ((d :: ds).isEmpty || (d :: ds).head? == some '0' && (d :: ds).length != 1) = false := by
    rw [List.isEmpty_cons, Bool.false_or, Bool.and_eq_false_imp]
    intro hz
    simpa using hleading (beq_iff_eq.mp hz)
  have hparts : NumberText.mk negative (d :: ds) ((if fraction = [] then none else some fraction).getD [])
      ((if es = [] then none else some exponent).getD 0)
      ((if fraction = [] then none else some fraction).isNone && (if es = [] then none else some exponent).isNone) =
      ⟨negative, d :: ds, fraction, exponent, plain⟩ := by
    have hflag : ((if fraction = [] then none else some fraction).isNone &&
        (if es = [] then none else some exponent).isNone) = plain := by
      rw [Bool.eq_iff_iff, hplain]
      split_ifs <;> simp_all
    rw [getD_ite_nil, he.getD_ite, hflag]
  unfold readNumber
  simp only [List.append_assoc, List.cons_append] at htake hdrop hsign ⊢
  rw [hsign]
  dsimp only
  rw [htake, hdrop, readFraction_append hfraction (fun c hc => (hexponent c hc).1) fun c hc => (hexponent c hc).2, hzero]
  simp only [Bool.false_eq_true, if_false, Option.bind_eq_bind, Option.bind_some, readPower_append he hr, hparts]
  rw [Option.map_eq_bind]
  rfl

theorem le_foldl_digits (n : ℕ) (cs : List Char) : n ≤ cs.foldl (fun n c => 10 * n + Text.digitValue c) n := by
  induction cs generalizing n with
  | nil => exact le_rfl
  | cons c cs ih =>
    have hstep : n ≤ 10 * n + Text.digitValue c := by omega
    exact hstep.trans (ih _)

theorem appendDigit_of_lt {s : ℕ} {c : Char} (h : 10 * s + Text.digitValue c < UInt64.size) :
    appendDigit s c = some (10 * s + Text.digitValue c) := by
  unfold appendDigit
  rw [mul_comm s]
  simp only [h, if_true]

attribute [local irreducible] appendDigit in
theorem collectWhole_cons (s : ℕ) (c : Char) (cs : List Char) : collectWhole s (c :: cs) =
    match appendDigit s c with
    | some n => collectWhole n cs
    | none => (s, cs.length + 1) := rfl

/-- Digits whose value is below `2 ^ 64` are all collected. -/
theorem collectWhole_eq {s : ℕ} (h : cs.foldl (fun n c => 10 * n + Text.digitValue c) s < UInt64.size) :
    collectWhole s cs = (cs.foldl (fun n c => 10 * n + Text.digitValue c) s, 0) := by
  induction cs generalizing s with
  | nil => rfl
  | cons c cs ih =>
    rw [List.foldl_cons] at h ⊢
    have hfits : 10 * s + Text.digitValue c < UInt64.size := lt_of_le_of_lt (le_foldl_digits _ cs) h
    rw [collectWhole_cons, appendDigit_of_lt hfits]
    exact ih h

def IsWord (n : ℤ) : Prop := Int64.minValue.toInt ≤ n ∧ n < UInt64.size

instance : DecidablePred IsWord := fun _ => inferInstanceAs (Decidable (_ ∧ _))

/-- A whole number is read back from its text. -/
theorem readNumber_toString {n : ℤ} (hn : IsWord n) (hr : EndsNumber rest) :
    readNumber ((toString n).toList ++ rest) = some (.int n, rest) := by
  obtain ⟨hmin, hmax⟩ := hn
  have hvalue := Text.number_toDigits n.natAbs
  have hcollect : n.natAbs < UInt64.size → collectWhole 0 (Nat.toDigits 10 n.natAbs) = (n.natAbs, 0) := by
    intro hfits
    rw [collectWhole_eq (hvalue.trans_lt hfits)]
    exact congrArg (·, 0) hvalue
  rw [readNumber_of_isNumeral (isNumeral_toString n) hr]
  unfold NumberText.value
  rcases le_or_gt 0 n with hpos | hneg
  · have habs : (n.natAbs : ℤ) = n := Int.natAbs_of_nonneg hpos
    rw [← habs, Nat.cast_lt] at hmax
    simp only [hcollect hmax, Bool.true_and, beq_self_eq_true, if_true, not_lt.mpr hpos, decide_false, Bool.not_false,
      Option.map_some, habs]
  · have habs : -(n.natAbs : ℤ) = n := by omega
    have hleast : Int64.minValue.toInt = -9223372036854775808 := rfl
    have hsize : UInt64.size = 18446744073709551616 := rfl
    have hfits : n.natAbs < UInt64.size := by omega
    have hcond : 0 < n.natAbs ∧ Int64.minValue.toInt ≤ n := ⟨by omega, hmin⟩
    simp only [hcollect hfits, Bool.true_and, beq_self_eq_true, if_true, hneg, decide_true, Bool.not_true,
      Bool.false_eq_true, if_false, habs, if_pos hcond, Option.map_some]

end Json

end SampleData
