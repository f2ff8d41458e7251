import SampleData.Proofs.DigitTexts

/-! # Check digits

A check digit makes a number valid, and no other digit in its place does, so the valid numbers of two digits and more
are those that end in the check digit of what stands before it. Walking from the right, the test leaves the last
digit alone and doubles the next one, while a check digit is made by doubling the last digit at once: the sum of a
number with one more digit behind it is that digit and the sum that its check digit is made of.
-/
namespace SampleData.Luhn

/-- What a digit adds to the sum. -/
def weigh (doubled : Bool) (d : ℕ) : ℕ := if doubled then double d else d

theorem sum_cons (doubled : Bool) (d : ℕ) (ds : List ℕ) :
    sum doubled (d :: ds) = weigh doubled d + sum (!doubled) ds := rfl

theorem weigh_lt {d : ℕ} (h : d < 10) (doubled : Bool) : weigh doubled d < 10 := by
  unfold weigh double
  split_ifs <;> omega

theorem sum_le (doubled : Bool) {ds : List ℕ} (h : ∀ d ∈ ds, d < 10) : sum doubled ds ≤ 9 * ds.length := by
  induction ds generalizing doubled with
  | nil => exact Nat.zero_le _
  | cons d ds ih =>
    obtain ⟨hd, hds⟩ := List.forall_mem_cons.mp h
    have hw := weigh_lt hd doubled
    have hs := ih (!doubled) hds
    rw [sum_cons, List.length_cons]
    omega

def fromRight (cs : List Char) : List ℕ := (cs.map Text.digitValue).reverse

theorem fromRight_concat (cs : List Char) (c : Char) : fromRight (cs ++ [c]) = Text.digitValue c :: fromRight cs := by
  simp [fromRight]

theorem lt_of_mem_fromRight {cs : List Char} (h : Text.AreDigits cs) {d : ℕ} (hd : d ∈ fromRight cs) : d < 10 := by
  obtain ⟨c, hc, rfl⟩ := List.mem_map.mp (List.mem_reverse.mp hd)
  exact Text.digitValue_lt (h c hc)

variable {number : String} {c : Char}

def IsNumber (number : String) : Prop := number.toList ≠ [] ∧ Text.AreDigits number.toList

theorem isNumber_iff : IsNumber number ↔ number ≠ "" ∧ Text.AreDigits number.toList := by
  unfold IsNumber
  rw [Ne, String.toList_eq_nil_iff]

theorem digits_eq_ok_iff {ds : List ℕ} :
    digits number = .ok ds ↔ IsNumber number ∧ ds = number.toList.map Text.digitValue := by
  unfold digits IsNumber
  by_cases hne : number.toList = []
  · simp [hne]
  · rw [if_neg hne, mapM_eq_ok_iff (P := fun c => Text.isDigit c = true) (g := Text.digitValue), and_iff_right hne]
    · rfl
    · intro c d
      cases hc : Text.isDigit c <;> simp [Text.digit?, hc, eq_comm]

theorem reverse_of_digits {ds : List ℕ} (h : digits number = .ok ds) : ds.reverse = fromRight number.toList := by
  obtain ⟨_, rfl⟩ := digits_eq_ok_iff.mp h
  rfl

theorem not_isNumber_of_error {fault : InputFault} (h : digits number = .error fault) : ¬ IsNumber number := by
  intro hn
  cases h.symm.trans (digits_eq_ok_iff.mpr ⟨hn, rfl⟩)

/-- The check digit takes the sum to the next multiple of ten. -/
theorem checkDigit_eq_ok_iff : checkDigit number = .ok c ↔
    IsNumber number ∧ c = Text.digitChar ((10 - sum true (fromRight number.toList) % 10) % 10) := by
  unfold checkDigit
  cases hd : digits number with
  | error fault => exact ⟨nofun, fun h => absurd h.1 (not_isNumber_of_error hd)⟩
  | ok ds =>
    have hn := (digits_eq_ok_iff.mp hd).1
    rw [← reverse_of_digits hd]
    exact ⟨fun h => ⟨hn, (Except.ok.inj h).symm⟩, fun h => h.2 ▸ rfl⟩

theorem isDigit_of_checkDigit (h : checkDigit number = .ok c) : Text.isDigit c = true := by
  obtain ⟨_, rfl⟩ := checkDigit_eq_ok_iff.mp h
  exact Text.isDigit_digitChar (Nat.mod_lt _ (by decide))

theorem append_of_checkDigit (h : checkDigit number = .ok c) : append number = .ok (number.push c) := by
  unfold append
  rw [h]
  rfl

theorem append_eq_ok_iff {whole : String} :
    append number = .ok whole ↔ ∃ c, checkDigit number = .ok c ∧ whole = number.push c := by
  constructor
  · intro h
    cases hc : checkDigit number with
    | error fault =>
      unfold append at h
      rw [hc] at h
      cases h
    | ok c => exact ⟨c, rfl, Except.ok.inj (h.symm.trans (append_of_checkDigit hc))⟩
  · rintro ⟨c, hc, rfl⟩
    exact append_of_checkDigit hc

/-- A valid number is one whose sum is a multiple of ten. -/
theorem isValid_iff : isValid number = true ↔ IsNumber number ∧ sum false (fromRight number.toList) % 10 = 0 := by
  unfold isValid
  cases hd : digits number with
  | error fault => exact ⟨nofun, fun h => absurd h.1 (not_isNumber_of_error hd)⟩
  | ok ds =>
    have hn := (digits_eq_ok_iff.mp hd).1
    simp [reverse_of_digits hd, hn]

/-- A number with a character behind it is valid just when that is a digit which rounds the sum up to a ten. -/
theorem isValid_push_iff : isValid (number.push c) = true ↔
    Text.AreDigits number.toList ∧ Text.isDigit c = true ∧
      (Text.digitValue c + sum true (fromRight number.toList)) % 10 = 0 := by
  have hd : IsNumber (number.push c) ↔ Text.AreDigits number.toList ∧ Text.isDigit c = true := by
    simp [IsNumber, Text.AreDigits, or_imp, forall_and]
  rw [isValid_iff, hd, String.toList_push, fromRight_concat, sum_cons, and_assoc]
  rfl

theorem rounds_up_iff (h : Text.isDigit c = true) (s : ℕ) :
    (Text.digitValue c + s) % 10 = 0 ↔ c = Text.digitChar ((10 - s % 10) % 10) := by
  have hlt := Text.digitValue_lt h
  have hm : (10 - s % 10) % 10 < 10 := Nat.mod_lt _ (by decide)
  constructor
  · intro hs
    have hv : Text.digitValue c = (10 - s % 10) % 10 := by omega
    rw [← hv, Text.digitChar_digitValue h]
  · intro hc
    have hv : Text.digitValue c = (10 - s % 10) % 10 := by
      rw [hc]
      exact Text.digitValue_digitChar hm
    omega

/-- The check digit is the one character that makes a number valid. -/
theorem isValid_push_iff_checkDigit (h : number ≠ "") :
    isValid (number.push c) = true ↔ checkDigit number = .ok c := by
  constructor
  · intro hv
    obtain ⟨hall, hc, hs⟩ := isValid_push_iff.mp hv
    exact checkDigit_eq_ok_iff.mpr ⟨isNumber_iff.mpr ⟨h, hall⟩, (rounds_up_iff hc _).mp hs⟩
  · intro hk
    have hc := isDigit_of_checkDigit hk
    obtain ⟨hn, heq⟩ := checkDigit_eq_ok_iff.mp hk
    exact isValid_push_iff.mpr ⟨hn.2, hc, (rounds_up_iff hc _).mpr heq⟩

/-- Of all characters behind a number only the appended digit makes it valid. -/
theorem isValid_push_iff_append (h : number ≠ "") :
    isValid (number.push c) = true ↔ append number = .ok (number.push c) := by
  rw [isValid_push_iff_checkDigit h, append_eq_ok_iff]
  constructor
  · intro hk
    exact ⟨c, hk, rfl⟩
  · rintro ⟨d, hk, heq⟩
    have hl : number.toList ++ [c] = number.toList ++ [d] := by
      rw [← String.toList_push, heq, String.toList_push]
    obtain rfl : c = d := List.singleton_inj.mp (List.append_cancel_left hl)
    exact hk

/-- A single character is valid just when it is a zero. -/
theorem isValid_singleton_iff : isValid (String.singleton c) = true ↔ c = '0' := by
  have hs : String.singleton c = "".push c := rfl
  have hz : sum true (fromRight "".toList) = 0 := rfl
  rw [hs, isValid_push_iff, hz, Nat.add_zero]
  constructor
  · rintro ⟨_, hc, hv⟩
    rw [← Text.digitChar_digitValue hc, ← Nat.mod_eq_of_lt (Text.digitValue_lt hc), hv]
    rfl
  · rintro rfl
    exact ⟨fun _ h => absurd h List.not_mem_nil, rfl, rfl⟩

/-- The valid numbers are zero and the numbers that a check digit was appended to. -/
theorem isValid_iff_appended : isValid number = true ↔ number = "0" ∨ ∃ body, append body = .ok number := by
  constructor
  · intro hv
    obtain ⟨cs, c, hcs⟩ := List.eq_nil_or_concat' number.toList |>.resolve_left (isValid_iff.mp hv).1.1
    obtain rfl : number = (String.ofList cs).push c := by
      apply String.toList_inj.mp
      rw [hcs, String.toList_push, String.toList_ofList]
    by_cases hb : String.ofList cs = ""
    · left
      rw [hb] at hv ⊢
      obtain rfl : c = '0' := isValid_singleton_iff.mp hv
      rfl
    · exact .inr ⟨_, (isValid_push_iff_append hb).mp hv⟩
  · rintro (rfl | ⟨body, ha⟩)
    · exact isValid_singleton_iff.mpr rfl
    · obtain ⟨c, hk, rfl⟩ := append_eq_ok_iff.mp ha
      have hb := (isNumber_iff.mp (checkDigit_eq_ok_iff.mp hk).1).1
      exact (isValid_push_iff_append hb).mpr ha

/-- However far the walk from the right has come, no digit has added more than nine. -/
theorem runningTotal_le {ds : List ℕ} (h : digits number = .ok ds) (doubled : Bool) (k : ℕ) :
    sum doubled (ds.reverse.take k) ≤ 9 * number.length := by
  have hn := (digits_eq_ok_iff.mp h).1
  rw [reverse_of_digits h]
  have hd : ∀ d ∈ (fromRight number.toList).take k, d < 10 :=
    fun d hd => lt_of_mem_fromRight hn.2 (List.mem_of_mem_take hd)
  have hl : (fromRight number.toList).length = number.length := by
    rw [fromRight, List.length_reverse, List.length_map, String.length_toList]
  apply (sum_le doubled hd).trans
  rw [List.length_take, hl]
  omega

/-- The greatest length of a number whose sum, with a check digit behind it, is surely a 32-bit word. -/
def greatestLength : ℕ := 477218587

structure Checks (number : String) : Prop where
  made : (∃ c, checkDigit number = .ok c) ↔ number ≠ "" ∧ Text.AreDigits number.toList
  appended : ∀ c, checkDigit number = .ok c → Text.isDigit c = true ∧ append number = .ok (number.push c)
  valid : number ≠ "" → ∀ c, isValid (number.push c) = true ↔ append number = .ok (number.push c)
  single : ∀ c, isValid (String.singleton c) = true ↔ c = '0'
  image : isValid number = true ↔ number = "0" ∨ ∃ body, append body = .ok number
  /-- No running total of the walk that makes the check digit leaves the 32-bit words, -/
  making : ∀ ds, digits number = .ok ds → ∀ k, sum true (ds.reverse.take k) < UInt32.size
  /-- and none of the walk that tests the number with one more digit. -/
  testing : ∀ c ds, digits (number.push c) = .ok ds → ∀ k, sum false (ds.reverse.take k) < UInt32.size

/-- Short enough numbers are valid exactly where they end in the check digit of the rest, and no sum overflows. -/
theorem checks_of_length {number : String} (h : number.length ≤ greatestLength) : Checks number where
  made := by
    rw [← isNumber_iff]
    constructor
    · rintro ⟨c, hc⟩
      exact (checkDigit_eq_ok_iff.mp hc).1
    · intro hn
      exact ⟨_, checkDigit_eq_ok_iff.mpr ⟨hn, rfl⟩⟩
  appended := by
    intro c hc
    exact ⟨isDigit_of_checkDigit hc, append_of_checkDigit hc⟩
  valid := by
    intro hne c
    exact isValid_push_iff_append hne
  single := by
    intro c
    exact isValid_singleton_iff
  image := isValid_iff_appended
  making := by
    intro ds hd k
    have ht := runningTotal_le hd true k
    unfold greatestLength at h
    have hw : UInt32.size = 4294967296 := rfl
    omega
  testing := by
    intro c ds hd k
    have ht := runningTotal_le hd false k
    rw [String.length_push] at ht
    unfold greatestLength at h
    have hw : UInt32.size = 4294967296 := rfl
    omega

theorem checks_of_length_reference :
    "7992739871".length ≤ greatestLength ∧ Checks "7992739871" ∧ append "7992739871" = .ok "79927398713" := by
  have hl : "7992739871".length ≤ greatestLength := by decide
  exact ⟨hl, checks_of_length hl, rfl⟩

end SampleData.Luhn
