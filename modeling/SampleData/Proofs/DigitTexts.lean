import Mathlib.Data.List.Basic
import SampleData.Checksum
import SampleData.Mask
import SampleData.Proofs.Success

/-! # Texts of digits

Check digits and digit groups ask for texts of digits. Decimal numbers are such texts, and so is what a mask of
digit symbols is expanded to; a check digit can be appended to any that is not empty. Digits are ASCII characters.
-/
namespace SampleData

def Text.AreDigits (cs : List Char) : Prop := ∀ c ∈ cs, isDigit c = true

def Text.AreAscii (cs : List Char) : Prop := ∀ c ∈ cs, c.toNat < 128

namespace Text

theorem isDigit_digitChar {n : ℕ} (h : n < 10) : isDigit (digitChar n) = true := by
  have hall : ∀ n < 10, isDigit (digitChar n) = true := by decide
  exact hall n h

theorem isDigit_eq (c : Char) : isDigit c = c.isDigit := by
  rw [Bool.eq_iff_iff]
  simp only [isDigit, Char.isDigit, ge_iff_le, Bool.and_eq_true, decide_eq_true_eq, UInt32.le_iff_toNat_le]
  exact Iff.rfl

theorem digitValue_lt {c : Char} (h : isDigit c = true) : digitValue c < 10 := by
  simp only [isDigit, Bool.and_eq_true, decide_eq_true_eq] at h
  obtain ⟨h0, h9⟩ := h
  have hn : '9'.toNat = '0'.toNat + 9 := rfl
  unfold digitValue
  omega

theorem digitValue_digitChar {n : ℕ} (h : n < 10) : digitValue (digitChar n) = n := by
  have hall : ∀ n < 10, digitValue (digitChar n) = n := by decide
  exact hall n h

theorem digitChar_digitValue {c : Char} (h : isDigit c = true) : digitChar (digitValue c) = c := by
  simp only [isDigit, Bool.and_eq_true, decide_eq_true_eq] at h
  unfold digitChar digitValue
  rw [Nat.add_sub_cancel' h.1, Char.ofNat_toNat]

theorem digitValue_eq_iff {c : Char} (h : isDigit c = true) {n : ℕ} (hn : n < 10) :
    digitValue c = n ↔ c = digitChar n := by
  constructor
  · rintro rfl
    exact (digitChar_digitValue h).symm
  · rintro rfl
    exact digitValue_digitChar hn

theorem AreDigits.append {cs ds : List Char} (hc : AreDigits cs) (hd : AreDigits ds) : AreDigits (cs ++ ds) :=
  fun c h => (List.mem_append.mp h).elim (hc c) (hd c)

theorem AreDigits.areAscii {cs : List Char} (h : AreDigits cs) : AreAscii cs := by
  intro c hc
  have hd := h c hc
  simp only [isDigit, Bool.and_eq_true, decide_eq_true_eq] at hd
  have h9 : '9'.toNat = 57 := rfl
  omega

theorem number_toDigits (n : ℕ) : number (Nat.toDigits 10 n) = n := Nat.ofDigitChars_toDigits (by decide) (by decide)

theorem toList_toString (n : ℕ) : (toString n).toList = Nat.toDigits 10 n := by simp [toString, Nat.repr]

theorem areDigits_toDigits (n : ℕ) : AreDigits (Nat.toDigits 10 n) := by
  intro c hc
  rw [isDigit_eq]
  exact Nat.isDigit_of_mem_toDigits (by decide) (by decide) hc

theorem areDigits_toString (n : ℕ) : AreDigits (toString n).toList := toList_toString n ▸ areDigits_toDigits n

theorem length_toString_le {n k : ℕ} (hk : 0 < k) (h : n < 10 ^ k) : (toString n).toList.length ≤ k := by
  rw [toList_toString]
  exact (Nat.length_toDigits_le_iff (by decide) hk).mpr h

theorem areDigits_padded (width n : ℕ) : AreDigits (padded width n).toList := by
  have hsign : ¬ ((n : ℤ) < 0) := by omega
  unfold padded
  rw [if_neg hsign, String.toList_ofList, List.nil_append, Int.natAbs_natCast]
  refine AreDigits.append ?_ (areDigits_toDigits n)
  intro c hc
  rw [List.eq_of_mem_replicate hc]
  rfl

/-- Digits can be told from what stands behind them. -/
theorem AreDigits.append_cons_inj {ds es r r' : List Char} {c : Char} (hd : AreDigits ds) (he : AreDigits es)
    (hc : isDigit c = false) (h : ds ++ c :: r = es ++ c :: r') : ds = es ∧ r = r' := by
  have hbefore : ∀ {cs rest : List Char}, AreDigits cs → (cs ++ c :: rest).takeWhile isDigit = cs := by
    intro cs rest hcs
    rw [List.takeWhile_append_of_pos hcs, List.takeWhile_cons_of_neg (by simp [hc]), List.append_nil]
  have heq : ds = es := by
    rw [← hbefore hd, h, hbefore he]
  subst heq
  exact ⟨rfl, (List.cons.inj (List.append_cancel_left h)).2⟩

end Text

namespace Luhn

/-- A check digit can be appended to all digits. -/
theorem exists_append {number : String} (hne : number.toList ≠ []) (hd : Text.AreDigits number.toList) :
    ∃ c, Text.isDigit c = true ∧ append number = .ok (number.push c) := by
  obtain ⟨ds, hds⟩ : ∃ ds, digits number = .ok ds := by
    unfold digits
    rw [if_neg hne]
    refine exists_mapM_ok fun c hc => ⟨Text.digitValue c, ?_⟩
    simp only [Text.digit?, hd c hc, if_true]
  refine ⟨Text.digitChar ((10 - sum true ds.reverse % 10) % 10), Text.isDigit_digitChar (Nat.mod_lt _ (by decide)), ?_⟩
  unfold append checkDigit
  rw [hds]
  rfl

end Luhn

namespace Mask

variable {σ : Type} [WordSource σ]

/-- A mask of digit symbols only becomes a text of as many digits. -/
theorem draws_digits (count : ℕ) : Random.Draws (expand (String.ofList (List.replicate count '#')) : StateM σ String)
    fun text => text.toList.length = count ∧ Text.AreDigits text.toList := by
  have hf : ∀ c ∈ List.replicate count '#', Random.Draws (fill .standard c : StateM σ Char) (Text.isDigit · = true) := by
    intro c hc
    obtain rfl := List.eq_of_mem_replicate hc
    exact (Random.draws_index (by decide)).bind fun i hi => Random.draws_pure (Text.isDigit_digitChar hi)
  unfold expand expandWith
  rw [String.toList_ofList]
  refine (Random.Draws.mapM hf).bind ?_
  rintro cs ⟨hlen, hall⟩
  rw [List.length_replicate] at hlen
  exact Random.draws_pure ⟨by simp [hlen], by simpa [Text.AreDigits] using hall⟩

end Mask

end SampleData
