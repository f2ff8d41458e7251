import SampleData.Proofs.Checksum.CheckDigits

/-! # What the test detects

A slip at one place of a valid number, and the exchange of two neighbours, change the sum in one or two summands
only, so whether they are noticed is a question about what single digits add. Doubling permutes the digits, so a
wrong digit is always noticed. An exchange goes unnoticed for the one pair that doubling moves equally far, zero and
nine.
-/
namespace SampleData.Luhn

/-- Behind some digits the walk goes on as it would from there, doubling or not. -/
theorem exists_sum_append (doubled : Bool) (xs : List ℕ) :
    ∃ next, ∀ ys, sum doubled (xs ++ ys) = sum doubled xs + sum next ys := by
  induction xs generalizing doubled with
  | nil => exact ⟨doubled, fun ys => (Nat.zero_add _).symm⟩
  | cons x xs ih =>
    obtain ⟨next, hn⟩ := ih (!doubled)
    refine ⟨next, fun ys => ?_⟩
    rw [List.cons_append, sum_cons, sum_cons, hn, Nat.add_assoc]

theorem fromRight_split (before : List Char) (a : Char) (after : List Char) :
    fromRight (before ++ a :: after) = fromRight after ++ Text.digitValue a :: fromRight before := by
  simp [fromRight]

/-- No two digits add the same to the sum, doubled or not. -/
theorem weigh_injective (doubled : Bool) {x y : ℕ} (hx : x < 10) (hy : y < 10)
    (h : weigh doubled x = weigh doubled y) : x = y := by
  have hall : ∀ doubled, ∀ x < 10, ∀ y < 10, weigh doubled x = weigh doubled y → x = y := by decide
  exact hall doubled x hx y hy h

/-- Of two different digits, only zero and nine add as much to a sum one way round as the other. -/
theorem weigh_exchange_iff (doubled : Bool) {x y : ℕ} (hx : x < 10) (hy : y < 10) :
    (weigh doubled x + weigh (!doubled) y) % 10 = (weigh doubled y + weigh (!doubled) x) % 10 ↔
      x = y ∨ x = 0 ∧ y = 9 ∨ x = 9 ∧ y = 0 := by
  have hall : ∀ doubled, ∀ x < 10, ∀ y < 10,
      (weigh doubled x + weigh (!doubled) y) % 10 = (weigh doubled y + weigh (!doubled) x) % 10 ↔
        x = y ∨ x = 0 ∧ y = 9 ∨ x = 9 ∧ y = 0 := by decide
  exact hall doubled x hx y hy

theorem isValid_ofList_iff {cs : List Char} : isValid (String.ofList cs) = true ↔
    cs ≠ [] ∧ Text.AreDigits cs ∧ sum false (fromRight cs) % 10 = 0 := by
  rw [isValid_iff, IsNumber, String.toList_ofList, and_assoc]

/-- Valid numbers that agree in all but one place agree in that place. -/
theorem eq_of_isValid_of_isValid {before after : List Char} {a b : Char}
    (ha : isValid (String.ofList (before ++ a :: after)) = true)
    (hb : isValid (String.ofList (before ++ b :: after)) = true) : a = b := by
  obtain ⟨_, hda, hsa⟩ := isValid_ofList_iff.mp ha
  obtain ⟨_, hdb, hsb⟩ := isValid_ofList_iff.mp hb
  obtain ⟨next, hn⟩ := exists_sum_append false (fromRight after)
  rw [fromRight_split, hn, sum_cons] at hsa hsb
  have hca := hda a List.mem_append_cons_self
  have hcb := hdb b List.mem_append_cons_self
  have hva := Text.digitValue_lt hca
  have hvb := Text.digitValue_lt hcb
  have hwa := weigh_lt hva next
  have hwb := weigh_lt hvb next
  have hv : Text.digitValue a = Text.digitValue b := by
    apply weigh_injective next hva hvb
    omega
  rw [← Text.digitChar_digitValue hca, hv, Text.digitChar_digitValue hcb]

/-- The exchange of two different digits of a valid number goes unnoticed for zero and nine, and for no others. -/
theorem isValid_exchange_iff {before after : List Char} {a b : Char}
    (h : isValid (String.ofList (before ++ a :: b :: after)) = true) (hne : a ≠ b) :
    isValid (String.ofList (before ++ b :: a :: after)) = true ↔ a = '0' ∧ b = '9' ∨ a = '9' ∧ b = '0' := by
  obtain ⟨_, hd, hs⟩ := isValid_ofList_iff.mp h
  have hp : (before ++ b :: a :: after).Perm (before ++ a :: b :: after) := .append_left before (.swap a b after)
  have hd' : Text.AreDigits (before ++ b :: a :: after) := fun c hc => hd c (hp.mem_iff.mp hc)
  have hca : Text.isDigit a = true := hd a (by simp)
  have hcb : Text.isDigit b = true := hd b (by simp)
  have hva := Text.digitValue_lt hca
  have hvb := Text.digitValue_lt hcb
  have hv : Text.digitValue a ≠ Text.digitValue b := by
    intro hv
    apply hne
    rw [← Text.digitChar_digitValue hca, hv, Text.digitChar_digitValue hcb]
  obtain ⟨next, hn⟩ := exists_sum_append false (fromRight after)
  have hsum : ∀ x y, sum false (fromRight (before ++ x :: y :: after)) = sum false (fromRight after) +
      (weigh next (Text.digitValue y) + (weigh (!next) (Text.digitValue x) + sum next (fromRight before))) := by
    intro x y
    rw [List.append_cons, fromRight_split, hn, sum_cons, fromRight_concat, sum_cons, Bool.not_not]
  rw [hsum] at hs
  have hpair : Text.digitValue a = 0 ∧ Text.digitValue b = 9 ∨ Text.digitValue a = 9 ∧ Text.digitValue b = 0 ↔
      a = '0' ∧ b = '9' ∨ a = '9' ∧ b = '0' := by
    rw [Text.digitValue_eq_iff hca (by decide), Text.digitValue_eq_iff hca (by decide),
      Text.digitValue_eq_iff hcb (by decide), Text.digitValue_eq_iff hcb (by decide)]
    rfl
  have hw := weigh_exchange_iff next hva hvb
  rw [or_iff_right hv, hpair] at hw
  rw [isValid_ofList_iff, and_iff_right (by simp), and_iff_right hd', hsum, ← hw]
  omega

/-- In a valid number every wrong character is detected, and every exchange of two different neighbours but that of
zero and nine. -/
theorem errors_detected {number : String} (h : isValid number = true) :
    (∀ before a after, number.toList = before ++ a :: after → ∀ b, b ≠ a →
      isValid (String.ofList (before ++ b :: after)) = false) ∧
    ∀ before a b after, number.toList = before ++ a :: b :: after → a ≠ b →
      (isValid (String.ofList (before ++ b :: a :: after)) = true ↔ a = '0' ∧ b = '9' ∨ a = '9' ∧ b = '0') := by
  have hn : ∀ cs, number.toList = cs → isValid (String.ofList cs) = true := by
    rintro _ rfl
    rwa [String.ofList_toList]
  constructor
  · intro before a after hcs b hb
    rw [← Bool.not_eq_true]
    intro hv
    exact hb (eq_of_isValid_of_isValid hv (hn _ hcs))
  · intro before a b after hcs hab
    exact isValid_exchange_iff (hn _ hcs) hab

theorem errors_detected_in_091 : isValid "091" = true ∧ isValid "081" = false ∧ isValid "901" = true ∧
    isValid "019" = false := by
  have hv : isValid "091" = true := by decide +kernel
  obtain ⟨hwrong, hexchanged⟩ := errors_detected hv
  refine ⟨hv, hwrong ['0'] '9' ['1'] rfl '8' (by decide), ?_, ?_⟩
  · exact (hexchanged [] '0' '9' ['1'] rfl (by decide)).mpr (by decide)
  · exact Bool.eq_false_iff.mpr fun hx => absurd ((hexchanged ['0'] '9' '1' [] rfl (by decide)).mp hx) (by decide)

end SampleData.Luhn
