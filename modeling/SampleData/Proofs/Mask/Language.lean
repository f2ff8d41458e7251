import Mathlib.Data.List.Forall2
import SampleData.Proofs.DigitTexts
import SampleData.Proofs.Random.Reached

/-! # The language of a mask

A mask describes the texts with a capital letter in the place of each letter symbol, a digit in the place of each
digit symbol, and its own characters elsewhere. Its expansions are these texts and no others, and an expansion makes
one draw for each symbol, in the order in which they stand. Nothing is asked of the symbols but that they differ;
they may be capital letters or digits themselves.
-/
namespace SampleData.Mask

theorem isUpper_capital {i : ℕ} (h : i < 26) : (capital i).isUpper = true := by
  have hall : ∀ i < 26, (capital i).isUpper = true := by decide
  exact hall i h

theorem exists_capital {c : Char} (h : c.isUpper = true) : ∃ i < 26, capital i = c := by
  have hbetween : 'A'.val ≤ c.val ∧ c.val ≤ 'Z'.val := of_decide_eq_true h
  have hfirst : 'A'.toNat ≤ c.toNat := UInt32.le_iff_toNat_le.mp hbetween.1
  have hlast : c.toNat ≤ 'A'.toNat + 25 := UInt32.le_iff_toNat_le.mp hbetween.2
  refine ⟨c.toNat - 'A'.toNat, by omega, ?_⟩
  unfold capital
  rw [Nat.add_sub_cancel' hfirst, Char.ofNat_toNat]

theorem exists_digitChar {c : Char} (h : c.isDigit = true) : ∃ i < 10, Text.digitChar i = c := by
  rw [← Text.isDigit_eq] at h
  exact ⟨Text.digitValue c, Text.digitValue_lt h, Text.digitChar_digitValue h⟩

variable {σ : Type} [WordSource σ] (p : Placeholders)

def Fills (c d : Char) : Prop :=
  if c = p.letter then d.isUpper = true else if c = p.digit then d.isDigit = true else d = c

def Fits (mask text : String) : Prop := List.Forall₂ (Fills p) mask.toList text.toList

theorem draws_fill (c : Char) : Random.Draws (fill p c : StateM σ Char) (Fills p c) := by
  unfold fill Fills
  split_ifs with hl hd
  · exact (Random.draws_index (by decide)).bind fun i hi => Random.draws_pure (isUpper_capital hi)
  · refine (Random.draws_index (by decide)).bind fun i hi => Random.draws_pure ?_
    rw [← Text.isDigit_eq]
    exact Text.isDigit_digitChar hi
  · exact Random.draws_pure rfl

theorem reaches_fill {c d : Char} (h : Fills p c d) : Random.Reaches (fill p c) d := by
  unfold Fills at h
  unfold fill
  split_ifs at h ⊢ with hl hd
  · obtain ⟨i, hi, rfl⟩ := exists_capital h
    exact (Random.reaches_index hi (by decide)).bind (Random.reaches_pure _)
  · obtain ⟨i, hi, rfl⟩ := exists_digitChar h
    exact (Random.reaches_index hi (by decide)).bind (Random.reaches_pure _)
  · rw [h]
    exact Random.reaches_pure c

/-- Whatever is drawn, the expansion of a mask fits the mask. -/
theorem draws_expandWith (mask : String) : Random.Draws (expandWith p mask : StateM σ String) (Fits p mask) := by
  have hfilled : ∀ cs : List Char, Random.Draws (cs.mapM (fill p) : StateM σ (List Char)) (List.Forall₂ (Fills p) cs) := by
    intro cs
    induction cs with
    | nil => exact Random.draws_pure .nil
    | cons c cs ih =>
      rw [List.mapM_cons]
      exact (draws_fill p c).bind fun d hd => ih.bind fun ds hds => Random.draws_pure (.cons hd hds)
  refine (hfilled mask.toList).bind fun ds hds => Random.draws_pure ?_
  unfold Fits
  rwa [String.toList_ofList]

/-- Every text that fits a mask is drawn for some words. -/
theorem reaches_expandWith {mask text : String} (h : Fits p mask text) : Random.Reaches (expandWith p mask) text := by
  have hchars : Random.Reaches (mask.toList.mapM (fill p)) text.toList := .mapM (h.imp fun _ _ => reaches_fill p)
  refine hchars.bind ?_
  rw [String.ofList_toList]
  exact Random.reaches_pure text

/-- How many values the draw for a character of a mask has, where one is made. -/
def drawSize? (c : Char) : Option ℕ :=
  if c = p.letter then some 26 else if c = p.digit then some 10 else none

def drawSizes (cs : List Char) : List ℕ := cs.filterMap (drawSize? p)

/-- A mask with the numbers that were drawn for it written into the places of its symbols, from left to right. -/
def filled : List Char → List ℕ → List Char
  | [], _ => []
  | c :: cs, numbers =>
    if c = p.letter then capital numbers.headI :: filled cs numbers.tail
    else if c = p.digit then Text.digitChar numbers.headI :: filled cs numbers.tail
    else c :: filled cs numbers

theorem mapM_fill_eq (cs : List Char) :
    cs.mapM (fill p) = filled p cs <$> (drawSizes p cs).mapM (Random.index : ℕ → StateM σ ℕ) := by
  induction cs with
  | nil => rfl
  | cons c cs ih =>
    rw [List.mapM_cons, ih]
    unfold drawSizes
    rw [List.filterMap_cons]
    unfold fill drawSize?
    split_ifs with hl hd
    · simp only [List.mapM_cons, map_eq_pure_bind, bind_assoc, pure_bind, filled, if_pos hl, List.headI_cons,
        List.tail_cons]
    · simp only [List.mapM_cons, map_eq_pure_bind, bind_assoc, pure_bind, filled, if_neg hl, if_pos hd,
        List.headI_cons, List.tail_cons]
    · simp only [map_eq_pure_bind, bind_assoc, pure_bind, filled, if_neg hl, if_neg hd]

/-- A mask draws once for every symbol, from left to right, and writes the numbers into their places. -/
theorem expandWith_eq (mask : String) : expandWith p mask = (fun numbers => String.ofList (filled p mask.toList numbers)) <$>
    (drawSizes p mask.toList).mapM (Random.index : ℕ → StateM σ ℕ) := by
  unfold expandWith
  rw [mapM_fill_eq]
  simp only [map_eq_pure_bind, bind_assoc, pure_bind]

theorem drawSize?_eq_letters_iff (c : Char) : drawSize? p c = some 26 ↔ c = p.letter := by
  unfold drawSize?
  split_ifs <;> simp_all

theorem drawSize?_eq_digits_iff (c : Char) : drawSize? p c = some 10 ↔ c = p.digit := by
  have hne := p.distinct
  unfold drawSize?
  split_ifs with hl hd
  · simp [hl, hne]
  · simp [hd]
  · simp [hd]

theorem count_drawSizes (mask : String) : (drawSizes p mask.toList).count 26 = p.countLetters mask ∧
    (drawSizes p mask.toList).count 10 = p.countDigits mask := by
  unfold drawSizes Placeholders.countLetters Placeholders.countDigits
  rw [List.count_filterMap, List.count_filterMap]
  constructor
  · exact List.countP_congr fun c _ => by simp [drawSize?_eq_letters_iff]
  · exact List.countP_congr fun c _ => by simp [drawSize?_eq_digits_iff]

theorem eq_of_mem_drawSizes {cs : List Char} {n : ℕ} (h : n ∈ drawSizes p cs) : n = 26 ∨ n = 10 := by
  obtain ⟨c, _, hc⟩ := List.mem_filterMap.mp h
  unfold drawSize? at hc
  split_ifs at hc
  · exact .inl (Option.some.inj hc).symm
  · exact .inr (Option.some.inj hc).symm

variable {digits : ℕ} {mask : String}

/-- A mask with the wanted digits and no letters is expanded like any other. -/
theorem expandDigits_of_counts (hl : p.countLetters mask = 0) (hd : p.countDigits mask = digits) :
    expandDigits p digits mask = (Gen.draw (expandWith p mask) : Gen σ String) := by
  unfold expandDigits
  rw [if_neg (not_not_intro hl), if_neg (not_not_intro hd)]

theorem expandDigits_of_not_counts (h : ¬ (p.countLetters mask = 0 ∧ p.countDigits mask = digits)) (w : σ) :
    ∃ fault, expandDigits p digits mask w = .error (.invalidInput fault) w := by
  unfold expandDigits
  by_cases hl : p.countLetters mask = 0
  · have hd : p.countDigits mask ≠ digits := fun hd => h ⟨hl, hd⟩
    rw [if_neg (not_not_intro hl), if_pos hd]
    exact ⟨_, rfl⟩
  · rw [if_pos hl]
    exact ⟨_, rfl⟩

structure Expands (σ : Type) [WordSource σ] (p : Placeholders) (mask : String) : Prop where
  length : ∀ w : σ, (expandWith p mask w).1.length = mask.length
  fits : ∀ w : σ, Fits p mask (expandWith p mask w).1
  /-- The draws are those of the symbols, and nothing else is drawn. -/
  drawn : expandWith p mask = (fun numbers => String.ofList (filled p mask.toList numbers)) <$>
    (drawSizes p mask.toList).mapM (Random.index : ℕ → StateM σ ℕ)
  letters : (drawSizes p mask.toList).count 26 = p.countLetters mask
  digits : (drawSizes p mask.toList).count 10 = p.countDigits mask
  sizes : ∀ n ∈ drawSizes p mask.toList, n = 26 ∨ n = 10
  language : ∀ text, (∃ s : WordStream, (expandWith p mask s).1 = text) ↔ Fits p mask text
  /-- A mask of so many digits is accepted where there are so many and no letters, -/
  accepted : ∀ digits (w : σ), (∃ text w', expandDigits p digits mask w = .ok text w') ↔
    p.countLetters mask = 0 ∧ p.countDigits mask = digits
  /-- and then expanded like any other; -/
  expanded : ∀ digits, p.countLetters mask = 0 → p.countDigits mask = digits →
    expandDigits p digits mask = (Gen.draw (expandWith p mask) : Gen σ String)
  /-- where it is refused nothing is drawn. -/
  untouched : ∀ digits (w w' : σ) e, expandDigits p digits mask w = .error e w' → w' = w

theorem expands (p : Placeholders) (mask : String) : Expands σ p mask where
  length := by
    intro w
    rw [← String.length_toList, ← String.length_toList]
    exact (draws_expandWith p mask w).length_eq.symm
  fits := draws_expandWith p mask
  drawn := expandWith_eq p mask
  letters := (count_drawSizes p mask).1
  digits := (count_drawSizes p mask).2
  sizes := fun n hn => eq_of_mem_drawSizes p hn
  language := by
    intro text
    constructor
    · rintro ⟨s, rfl⟩
      exact draws_expandWith p mask s
    · intro hf
      obtain ⟨s, hs⟩ := reaches_expandWith p hf .zeros
      exact ⟨s, by rw [hs]⟩
  accepted := by
    intro digits w
    constructor
    · rintro ⟨text, w', ho⟩
      by_contra hc
      obtain ⟨fault, he⟩ := expandDigits_of_not_counts p hc w
      cases ho.symm.trans he
    · rintro ⟨hl, hd⟩
      rw [expandDigits_of_counts p hl hd]
      exact ⟨_, _, rfl⟩
  expanded := fun digits hl hd => expandDigits_of_counts p hl hd
  untouched := by
    intro digits w w' e ho
    by_cases hc : p.countLetters mask = 0 ∧ p.countDigits mask = digits
    · rw [expandDigits_of_counts p hc.1 hc.2] at ho
      cases ho
    · obtain ⟨fault, he⟩ := expandDigits_of_not_counts p hc w
      rw [he] at ho
      cases ho
      rfl

end SampleData.Mask
