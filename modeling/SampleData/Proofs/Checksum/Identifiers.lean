import Mathlib.Order.Interval.Set.Defs
import SampleData.Proofs.Checksum.CheckDigits
import SampleData.Proofs.Checksum.Groups
import SampleData.Provider.Code
import SampleData.Provider.Personal

/-! # Card and device numbers

Card numbers and device numbers are digits of a known start, random digits and a check digit. They can always be made:
the random digits fill what the groups leave behind the start and before the check digit, so the groups take up all
the digits, and without the blanks between the groups what is left is a valid number.
-/
namespace SampleData

open Gen

namespace Text

theorem number_toString (n : ℕ) : number (toString n).toList = n := by rw [toList_toString, number_toDigits]

theorem length_toString {n k : ℕ} (hk : 0 < k) (hleast : 10 ^ k ≤ n) (hmost : n < 10 ^ (k + 1)) :
    (toString n).toList.length = k + 1 := by
  have hle := length_toString_le (Nat.succ_pos k) hmost
  have hlt : ¬ (Nat.toDigits 10 n).length ≤ k := by
    rw [Nat.length_toDigits_le_iff (by decide) hk]
    omega
  rw [toList_toString] at hle ⊢
  omega

end Text

theorem filter_intercalate {groups : List (List Char)} (h : ∀ g ∈ groups, ' ' ∉ g) :
    ([' '].intercalate groups).filter (· ≠ ' ') = groups.flatten := by
  have hkept : ∀ g ∈ groups, g.filter (· ≠ ' ') = g := by
    intro g hg
    exact List.filter_eq_self.mpr fun c hc => decide_eq_true (ne_of_mem_of_not_mem hc (h g hg))
  induction groups with
  | nil => rfl
  | cons g groups ih =>
    obtain ⟨hg, hgs⟩ := List.forall_mem_cons.mp h
    obtain ⟨kg, kgs⟩ := List.forall_mem_cons.mp hkept
    cases groups with
    | nil => simpa [List.intercalate] using kg
    | cons g' groups =>
      have hi := ih hgs kgs
      simp only [List.intercalate, List.intersperse_cons_cons, List.flatten_cons, List.filter_append, kg] at hi ⊢
      rw [hi]
      rfl

/-- The text is made of digits in groups of the given sizes, with one blank between two groups. -/
def IsGrouped (sizes : List ℕ) (text : String) : Prop :=
  ∃ groups : List (List Char), text.toList = [' '].intercalate groups ∧ groups.map List.length = sizes ∧
    ∀ g ∈ groups, Text.AreDigits g

def unspaced (text : String) : List Char := text.toList.filter (· ≠ ' ')

/-- Digits can be grouped wherever the sizes fit, and come back from the groups without the blanks. -/
theorem exists_groupDigits {number : String} {sizes : List ℕ} (hd : Text.AreDigits number.toList)
    (hl : number.toList.length = sizes.foldr (· + ·) 0) :
    ∃ text, groupDigits number sizes = .ok text ∧ IsGrouped sizes text ∧ unspaced text = number.toList := by
  obtain ⟨hflat, hlengths⟩ := cut_spec hl
  have hgroups : ∀ g ∈ cut sizes number.toList, Text.AreDigits g := by
    intro g hg c hc
    refine hd c ?_
    rw [← hflat]
    exact List.mem_flatten_of_mem hg hc
  have hblank : ∀ g ∈ cut sizes number.toList, ' ' ∉ g := by
    intro g hg hc
    have hdigit : Text.isDigit ' ' = true := hgroups g hg ' ' hc
    cases hdigit
  refine ⟨_, groupDigits_of_ascii hd.areAscii hl, ⟨_, String.toList_ofList, hlengths, hgroups⟩, ?_⟩
  unfold unspaced
  rw [String.toList_ofList, filter_intercalate hblank, hflat]

/-- Every number that is not empty can be completed to a valid one. -/
theorem Luhn.exists_valid_append {number : String} (hne : number.toList ≠ []) (hd : Text.AreDigits number.toList) :
    ∃ c, Text.isDigit c = true ∧ append number = .ok (number.push c) ∧ isValid (number.push c) = true := by
  obtain ⟨c, hc, ha⟩ := exists_append hne hd
  have hfilled : number ≠ "" := fun he => hne (by rw [he]; rfl)
  exact ⟨c, hc, ha, (isValid_push_iff_append hfilled).mpr ha⟩

variable {σ : Type} [WordSource σ]

namespace Personal

def issuerLength : CardType → ℕ
  | .visa => 4
  | .masterCard => 4
  | .americanExpress => 2

def Issues : CardType → ℕ → Prop
  | .visa, n => n ∈ Set.Icc 4000 4999
  | .masterCard, n => n ∈ Set.Icc 2221 2720 ∨ n ∈ Set.Icc 5100 5500
  | .americanExpress, n => n = 34 ∨ n = 37

def groupSizes : CardType → List ℕ
  | .visa => [4, 4, 4, 4]
  | .masterCard => [4, 4, 4, 4]
  | .americanExpress => [4, 6, 5]

def cardLength : CardType → ℕ
  | .visa => 16
  | .masterCard => 16
  | .americanExpress => 15

structure IsCardNumber (card : CardType) (text : String) : Prop where
  grouped : IsGrouped (groupSizes card) text
  length : (unspaced text).length = cardLength card
  issued : Issues card (Text.number ((unspaced text).take (issuerLength card)))
  valid : Luhn.isValid (String.ofList (unspaced text)) = true

/-- The first digits of a card number name an issuer of its network. -/
theorem draws_issuer (card : CardType) : Random.Draws (issuer card : StateM σ UInt32) fun n => Issues card n.toNat := by
  have hcoin : Random.Draws (Random.coin : StateM σ Bool) fun _ => True := fun _ => trivial
  cases card with
  | visa => exact Random.draws_unsigned (by decide)
  | masterCard =>
    refine hcoin.bind fun first _ => ?_
    cases first with
    | true => exact Random.Draws.imp (Random.draws_unsigned (by decide)) fun _ => .inl
    | false => exact Random.Draws.imp (Random.draws_unsigned (by decide)) fun _ => .inr
  | americanExpress =>
    refine hcoin.bind fun first _ => ?_
    cases first with
    | true => exact Random.draws_pure (.inl rfl)
    | false => exact Random.draws_pure (.inr rfl)

theorem length_issuer {card : CardType} {n : ℕ} (h : Issues card n) :
    (toString n).toList.length = issuerLength card := by
  cases card with
  | visa =>
    obtain ⟨hleast, hmost⟩ := h
    exact Text.length_toString (by decide) (by omega) (by omega)
  | masterCard =>
    rcases h with ⟨hleast, hmost⟩ | ⟨hleast, hmost⟩
    · exact Text.length_toString (by decide) (by omega) (by omega)
    · exact Text.length_toString (by decide) (by omega) (by omega)
  | americanExpress =>
    rcases h with rfl | rfl
    · rfl
    · rfl

/-- Behind the issuer, digits enough to leave one place in the groups can be completed to a card number. -/
theorem exists_cardNumber {card : CardType} {n : ℕ} (hn : Issues card n) {random : List Char}
    (hr : Text.AreDigits random) (hl : random.length = cardDigits card - 1 - (toString n).toList.length) :
    ∃ number text, Luhn.append (String.ofList ((toString n).toList ++ random)) = .ok number ∧
      groupDigits number (cardGroups card) = .ok text ∧ IsCardNumber card text := by
  have hstart := length_issuer hn
  have hfits : issuerLength card < cardDigits card ∧ 0 < issuerLength card := by cases card <;> decide
  have hsizes : cardDigits card = (cardGroups card).foldr (· + ·) 0 := by cases card <;> rfl
  have hdigits : Text.AreDigits (String.ofList ((toString n).toList ++ random)).toList := by
    rw [String.toList_ofList]
    exact (Text.areDigits_toString n).append hr
  have hne : (String.ofList ((toString n).toList ++ random)).toList ≠ [] := by
    rw [String.toList_ofList]
    refine List.ne_nil_of_length_pos ?_
    rw [List.length_append]
    omega
  obtain ⟨c, hc, ha, hv⟩ := Luhn.exists_valid_append hne hdigits
  generalize hnumber : (String.ofList ((toString n).toList ++ random)).push c = number at ha hv
  have hchars : number.toList = (toString n).toList ++ (random ++ [c]) := by
    rw [← hnumber, String.toList_push, String.toList_ofList, List.append_assoc]
  have hall : Text.AreDigits number.toList := (Luhn.isValid_iff.mp hv).1.2
  have htotal : number.toList.length = (cardGroups card).foldr (· + ·) 0 := by
    rw [hchars, List.length_append, List.length_append, List.length_singleton]
    omega
  obtain ⟨text, ht, hgrouped, hunspaced⟩ := exists_groupDigits hall htotal
  refine ⟨number, text, ha, ht, ?_, ?_, ?_, ?_⟩
  · cases card <;> exact hgrouped
  · rw [hunspaced, htotal]
    cases card <;> rfl
  · rw [hunspaced, hchars, ← hstart, List.take_left, Text.number_toString]
    exact hn
  · rwa [hunspaced, String.ofList_toList]

theorem succeeds_creditCardNumber (card : CardType) :
    Succeeds Anywhere (creditCardNumber card : Gen σ String) (IsCardNumber card) := by
  have hdigit : Random.Draws (do return Text.digitChar (← Random.index 10) : StateM σ Char) (Text.isDigit · = true) :=
    (Random.draws_index (by decide)).bind fun i hi => Random.draws_pure (Text.isDigit_digitChar hi)
  refine (succeeds_draw (draws_issuer card)).bind fun issued hissued => ?_
  refine (succeeds_draw (hdigit.times _)).bind fun random hrandom => ?_
  obtain ⟨number, text, ha, ht, hcard⟩ := exists_cardNumber hissued hrandom.2 hrandom.1
  refine Succeeds.bind (Q := fun whole => whole = number) (succeeds_accept ha rfl) ?_
  rintro _ rfl
  exact succeeds_accept ht hcard

end Personal

namespace Coder

structure IsDeviceNumber (text : String) : Prop where
  length : text.length = 15
  type : String.ofList (text.toList.take 8) ∈ deviceTypes.toList
  valid : Luhn.isValid text = true

theorem areDigits_deviceTypes : ∀ type ∈ deviceTypes.toList, type.toList.length = 8 ∧ Text.AreDigits type.toList := by
  have hdigits : ∀ type ∈ deviceTypes.toList, type.toList.length = 8 ∧ type.toList.all Text.isDigit = true := by decide
  intro type ht
  obtain ⟨hlength, hall⟩ := hdigits type ht
  exact ⟨hlength, List.all_eq_true.mp hall⟩

/-- A device number can always be made. -/
theorem succeeds_imei : Succeeds Anywhere (imei : Gen σ String) IsDeviceNumber := by
  have hs : Mask.expandDigits .standard 6 (digitMask 6) = (Gen.draw (Mask.expand (digitMask 6)) : Gen σ String) := rfl
  unfold imei
  rw [hs]
  refine (succeeds_draw (Random.draws_choose deviceTypes)).bind fun type ht => ?_
  refine (succeeds_draw (Mask.draws_digits 6)).bind fun serial hserial => ?_
  obtain ⟨hlength, hdigits⟩ := areDigits_deviceTypes type ht
  have hall : Text.AreDigits (type ++ serial).toList := by
    rw [String.toList_append]
    exact hdigits.append hserial.2
  have hne : (type ++ serial).toList ≠ [] := by
    refine List.ne_nil_of_length_pos ?_
    rw [String.toList_append, List.length_append]
    omega
  obtain ⟨c, _, ha, hv⟩ := Luhn.exists_valid_append hne hall
  refine succeeds_accept ha ⟨?_, ?_, hv⟩
  · rw [← String.length_toList, String.toList_push, String.toList_append, List.length_append, List.length_append]
    rw [hlength, hserial.1, List.length_singleton]
  · rw [String.toList_push, String.toList_append, List.append_assoc, ← hlength, List.take_left, String.ofList_toList]
    exact ht

end Coder

/-- Whatever the source yields, card numbers of every type and device numbers are made, and made as they should be. -/
theorem identifiers_checked :
    (∀ card, Succeeds Anywhere (Personal.creditCardNumber card : Gen σ String) (Personal.IsCardNumber card)) ∧
      Succeeds Anywhere (Coder.imei : Gen σ String) Coder.IsDeviceNumber :=
  ⟨Personal.succeeds_creditCardNumber, Coder.succeeds_imei⟩

end SampleData
