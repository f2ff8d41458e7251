/-! # Order of keys

Everything the library lists by name (cached bundles, registered providers, the fields of an
object) is listed in ascending order of code points. `KeyOrder` states what such an order has to
satisfy; the instances compare texts by their first differing character and pairs by their first
component, then by their second.
-/
namespace SampleData

/-- A strict total order on keys, given as a test. -/
class KeyOrder (κ : Type) where
  before : κ → κ → Bool
  irrefl : ∀ a, before a a = false
  trans : ∀ {a b c}, before a b = true → before b c = true → before a c = true
  total : ∀ {a b}, a ≠ b → before a b = true ∨ before b a = true

namespace KeyOrder

theorem asymm {κ : Type} [KeyOrder κ] {a b : κ} (h : before a b = true) : before b a = false := by
  cases hb : before b a with
  | false => rfl
  | true => rw [← irrefl a, trans h hb]

theorem ne_of_before {κ : Type} [KeyOrder κ] {a b : κ} (h : before a b = true) : a ≠ b := by
  rintro rfl
  rw [irrefl] at h
  exact Bool.false_ne_true h

end KeyOrder

namespace Text

/-- `s` stands before `t` when, where they first differ, `s` ends or has the smaller code point. -/
def charsBefore : List Char → List Char → Bool
  | [], [] => false
  | [], _ :: _ => true
  | _ :: _, [] => false
  | a :: s, b :: t => if a = b then charsBefore s t else a.toNat.blt b.toNat

theorem charsBefore_irrefl (s : List Char) : charsBefore s s = false := by
  induction s with
  | nil => rfl
  | cons a s ih => simp [charsBefore, ih]

theorem charsBefore_trans {s t u : List Char} (h₁ : charsBefore s t = true)
    (h₂ : charsBefore t u = true) : charsBefore s u = true := by
  induction s generalizing t u with
  | nil =>
    cases t with
    | nil => simp [charsBefore] at h₁
    | cons b t =>
      cases u with
      | nil => simp [charsBefore] at h₂
      | cons c u => rfl
  | cons a s ih =>
    cases t with
    | nil => simp [charsBefore] at h₁
    | cons b t =>
      cases u with
      | nil => simp [charsBefore] at h₂
      | cons c u =>
        simp only [charsBefore] at h₁ h₂ ⊢
        by_cases hab : a = b
        · subst hab
          by_cases hac : a = c
          · subst hac
            simp only [↓reduceIte] at h₁ h₂ ⊢
            exact ih h₁ h₂
          · simpa [hac] using h₂
        · by_cases hbc : b = c
          · subst hbc
            simp only [hab, ↓reduceIte] at h₁ ⊢
            exact h₁
          · simp only [hab, hbc, ↓reduceIte, Nat.blt_eq] at h₁ h₂
            have hlt : a.toNat < c.toNat := Nat.lt_trans h₁ h₂
            have hac : a ≠ c := by
              rintro rfl
              exact Nat.lt_irrefl _ hlt
            simpa only [hac, ↓reduceIte, Nat.blt_eq] using hlt

theorem charsBefore_total {s t : List Char} (h : s ≠ t) :
    charsBefore s t = true ∨ charsBefore t s = true := by
  induction s generalizing t with
  | nil =>
    cases t with
    | nil => exact absurd rfl h
    | cons b t => exact .inl rfl
  | cons a s ih =>
    cases t with
    | nil => exact .inr rfl
    | cons b t =>
      simp only [charsBefore]
      by_cases hab : a = b
      · subst hab
        simp only [↓reduceIte]
        exact ih fun hst => h (by rw [hst])
      · have hba : b ≠ a := fun hba => hab hba.symm
        simp only [hab, hba, ↓reduceIte, Nat.blt_eq]
        have hne : a.toNat ≠ b.toNat := fun hn =>
          hab (by rw [← Char.ofNat_toNat a, ← Char.ofNat_toNat b, hn])
        exact Nat.lt_or_gt_of_ne hne

end Text

instance : KeyOrder String where
  before s t := Text.charsBefore s.toList t.toList
  irrefl s := Text.charsBefore_irrefl s.toList
  trans := Text.charsBefore_trans
  total h := Text.charsBefore_total fun hl => h (String.toList_inj.mp hl)

/-- Pairs are ordered by their first component, and by their second where the first ones agree. -/
instance {κ ι : Type} [DecidableEq κ] [KeyOrder κ] [KeyOrder ι] : KeyOrder (κ × ι) where
  before a b := if a.1 = b.1 then KeyOrder.before a.2 b.2 else KeyOrder.before a.1 b.1
  irrefl a := by simp [KeyOrder.irrefl]
  trans {a b c} h₁ h₂ := by
    by_cases hab : a.1 = b.1
    · by_cases hbc : b.1 = c.1
      · simp only [hab, hbc, ↓reduceIte] at h₁ h₂ ⊢
        exact KeyOrder.trans h₁ h₂
      · simp only [hab, hbc, ↓reduceIte] at h₂ ⊢
        exact h₂
    · by_cases hbc : b.1 = c.1
      · simp only [hab, ↓reduceIte] at h₁
        simp only [← hbc, hab, ↓reduceIte]
        exact h₁
      · simp only [hab, hbc, ↓reduceIte] at h₁ h₂
        have hac : KeyOrder.before a.1 c.1 = true := KeyOrder.trans h₁ h₂
        simpa only [KeyOrder.ne_of_before hac, ↓reduceIte] using hac
  total {a b} h := by
    by_cases hab : a.1 = b.1
    · have h₂ : a.2 ≠ b.2 := fun h₂ => h (Prod.ext hab h₂)
      simpa only [hab, ↓reduceIte] using KeyOrder.total h₂
    · have hba : b.1 ≠ a.1 := fun h' => hab h'.symm
      simpa only [hab, hba, ↓reduceIte] using KeyOrder.total hab

end SampleData
