import SampleData.Proofs.Mask.Renaming
import SampleData.Proofs.Text.Fields
import SampleData.Provider.Code
import SampleData.Random.Keystream
import SampleData.Random.Seed

/-! # Book numbers

The mask of a book number is made of parts with hyphens between them, and an expansion fills each part on its own: a
hyphen is no symbol and is never drawn. All parts but the group of the locale are runs of random digits, and their
lengths leave room for a group of one digit. The only locale with a longer group gets book numbers with more digits
than their format has.
-/
namespace SampleData

namespace Mask

variable (p : Placeholders) {separator : Char}

/-- The character stands for itself and comes out of no symbol. -/
structure Separates (separator : Char) : Prop where
  not_symbol : separator ≠ p.letter ∧ separator ≠ p.digit
  not_drawable : ¬ IsDrawable separator

variable {p}

theorem Separates.fills_self (h : Separates p separator) : Fills p separator separator := by
  unfold Fills
  rw [if_neg h.not_symbol.1, if_neg h.not_symbol.2]

theorem Separates.eq_iff (h : Separates p separator) {c d : Char} (hf : Fills p c d) :
    d = separator ↔ c = separator := by
  have hdrawn : IsDrawable d → d ≠ separator := fun hd he => h.not_drawable (he ▸ hd)
  unfold Fills at hf
  split_ifs at hf with hl hd
  · exact iff_of_false (hdrawn (.inl hf)) fun he => h.not_symbol.1 (he ▸ hl)
  · exact iff_of_false (hdrawn (.inr hf)) fun he => h.not_symbol.2 (he ▸ hd)
  · rw [hf]

/-- What fits a mask falls into pieces that fit the pieces of the mask. -/
theorem Separates.forall₂_pieces (h : Separates p separator) {cs ds : List Char} (hf : List.Forall₂ (Fills p) cs ds) :
    List.Forall₂ (List.Forall₂ (Fills p)) (Text.pieces separator cs) (Text.pieces separator ds) := by
  induction hf with
  | nil => exact .cons .nil .nil
  | @cons c d cs ds hcd _ ih =>
    have he := h.eq_iff hcd
    by_cases hc : c = separator
    · rw [Text.pieces, Text.pieces, if_pos hc, if_pos (he.mpr hc)]
      exact .cons .nil ih
    · rw [Text.pieces, Text.pieces, if_neg hc, if_neg fun hd => hc (he.mp hd)]
      generalize Text.pieces separator cs = ps, Text.pieces separator ds = qs at ih ⊢
      cases ih with
      | nil => exact .cons (.cons hcd .nil) .nil
      | cons hfirst hrest => exact .cons (.cons hcd hfirst) hrest

theorem forall₂_intercalate {α β : Type} {R : α → β → Prop} {a : α} {b : β} (hab : R a b) {ps : List (List α)}
    {qs : List (List β)} (h : List.Forall₂ (List.Forall₂ R) ps qs) :
    List.Forall₂ R ([a].intercalate ps) ([b].intercalate qs) := by
  induction h with
  | nil => exact .nil
  | cons hfirst hrest ih =>
    cases hrest with
    | nil =>
      rw [List.intercalate_singleton, List.intercalate_singleton]
      exact hfirst
    | cons hsecond hbehind =>
      rw [List.intercalate_cons_cons, List.intercalate_cons_cons]
      exact List.rel_append (List.rel_append hfirst (.cons hab .nil)) ih

/-- A mask is filled part by part. -/
theorem Separates.fits_iff (h : Separates p separator) {mask text : String} : Fits p mask text ↔
    List.Forall₂ (List.Forall₂ (Fills p)) (Text.pieces separator mask.toList) (Text.pieces separator text.toList) := by
  constructor
  · exact h.forall₂_pieces
  · intro hparts
    have hjoined : ∀ cs : List Char, [separator].intercalate (Text.pieces separator cs) = cs :=
      fun cs => (Text.pieces_eq_iff.mp rfl).2.1.symm
    have hf := forall₂_intercalate h.fills_self hparts
    rwa [hjoined, hjoined] at hf

end Mask

namespace Profile

variable {code : String}

theorem areDigits_isbnGroup (h : isKnown code = true) : Text.AreDigits (ofCode code).isbnGroup.toList := by
  have hall : ∀ p ∈ known, p.isbnGroup.toList.all Text.isDigit = true := by decide
  exact List.all_eq_true.mp (hall _ (ofCode_of_isKnown h).1)

/-- Ukrainian has a group of three digits, and every other locale one of one digit. -/
theorem length_isbnGroup (code : String) : (ofCode code).isbnGroup.toList.length = if code = "uk" then 3 else 1 := by
  cases h : isKnown code with
  | true =>
    have hall : ∀ p ∈ known, p.isbnGroup.toList.length = if p.code = "uk" then 3 else 1 := by decide
    obtain ⟨hp, hc⟩ := ofCode_of_isKnown h
    have hl := hall _ hp
    rwa [hc] at hl
  | false =>
    have hne : code ≠ "uk" := by
      rintro rfl
      cases h
    rw [ofCode_of_not_isKnown h, if_neg hne]
    rfl

end Profile

namespace Coder

def parts (number : String) : List (List Char) := Text.pieces '-' number.toList

def IsRun (n : ℕ) (part : List Char) : Prop := part.length = n ∧ Text.AreDigits part

/-- The group of the locale; any digit where the locale is not known. -/
def IsGroupOf (locale : String) (part : List Char) : Prop :=
  if Profile.isKnown locale then part = (Profile.ofCode locale).isbnGroup.toList else IsRun 1 part

/-- What the parts of a book number are, from left to right. -/
def partsOf (locale : String) : IsbnFormat → List (List Char → Prop)
  | .isbn10 => [IsGroupOf locale, IsRun 5, IsRun 3, IsRun 1]
  | .isbn13 => [IsRun 3, IsGroupOf locale, IsRun 5, IsRun 3, IsRun 1]

def HasParts (locale : String) (format : IsbnFormat) (number : String) : Prop :=
  List.Forall₂ (fun Is part => Is part) (partsOf locale format) (parts number)

def maskParts (group : List Char) : IsbnFormat → List (List Char)
  | .isbn10 => [group, List.replicate 5 '#', List.replicate 3 '#', List.replicate 1 '#']
  | .isbn13 => [List.replicate 3 '#', group, List.replicate 5 '#', List.replicate 3 '#', List.replicate 1 '#']

theorem pieces_isbnMask {group : String} (h : '-' ∉ group.toList) (format : IsbnFormat) :
    Text.pieces '-' (isbnMask group format).toList = maskParts group.toList format := by
  rw [Text.pieces_eq_iff]
  cases format with
  | isbn10 => exact ⟨List.cons_ne_nil _ _, by simp [isbnMask, maskParts, List.intercalate], by simp [maskParts, h]⟩
  | isbn13 => exact ⟨List.cons_ne_nil _ _, by simp [isbnMask, maskParts, List.intercalate], by simp [maskParts, h]⟩

theorem forall₂_fills_run {n : ℕ} {part : List Char} :
    List.Forall₂ (Mask.Fills .standard) (List.replicate n '#') part ↔ IsRun n part := by
  induction n generalizing part with
  | zero =>
    rw [List.replicate_zero, List.forall₂_nil_left_iff]
    unfold IsRun
    constructor
    · rintro rfl
      exact ⟨rfl, List.forall_mem_nil _⟩
    · exact fun h => List.eq_nil_of_length_eq_zero h.1
  | succ n ih =>
    have hdigit : ∀ c, Mask.Fills .standard '#' c ↔ Text.isDigit c = true := fun c => by rw [Text.isDigit_eq]; rfl
    rw [List.replicate_succ, List.forall₂_cons_left_iff]
    constructor
    · rintro ⟨c, cs, hc, hcs, rfl⟩
      obtain ⟨hl, hd⟩ := ih.mp hcs
      exact ⟨by rw [List.length_cons, hl], List.forall_mem_cons.mpr ⟨(hdigit c).mp hc, hd⟩⟩
    · rintro ⟨hl, hd⟩
      obtain ⟨c, cs, rfl⟩ := List.exists_cons_of_length_eq_add_one hl
      obtain ⟨hc, hcs⟩ := List.forall_mem_cons.mp hd
      exact ⟨c, cs, (hdigit c).mpr hc, ih.mpr ⟨Nat.succ.inj hl, hcs⟩, rfl⟩

/-- Digits of a mask stand for themselves. -/
theorem forall₂_fills_digits {digits part : List Char} (h : Text.AreDigits digits) :
    List.Forall₂ (Mask.Fills .standard) digits part ↔ part = digits := by
  have hsame : ∀ c ∈ digits, ∀ d, Mask.Fills .standard c d ↔ d = c := by
    intro c hc d
    have hd := h c hc
    have hl : c ≠ Placeholders.standard.letter := by
      rintro rfl
      cases hd
    have hs : c ≠ Placeholders.standard.digit := by
      rintro rfl
      cases hd
    unfold Mask.Fills
    rw [if_neg hl, if_neg hs]
  induction digits generalizing part with
  | nil => exact List.forall₂_nil_left_iff
  | cons c cs ih =>
    obtain ⟨_, hcs⟩ := List.forall_mem_cons.mp h
    obtain ⟨hc, hrest⟩ := List.forall_mem_cons.mp hsame
    simp [List.forall₂_cons_left_iff, hc, ih hcs hrest]

theorem forall₂_fills_group (locale : String) (part : List Char) :
    List.Forall₂ (Mask.Fills .standard) (Profile.ofCode locale).isbnGroup.toList part ↔ IsGroupOf locale part := by
  unfold IsGroupOf
  split_ifs with h
  · exact forall₂_fills_digits (Profile.areDigits_isbnGroup h)
  · rw [Profile.ofCode_of_not_isKnown (Bool.not_eq_true _ ▸ h)]
    exact forall₂_fills_run (n := 1)

theorem separates_hyphen : Mask.Separates .standard '-' := ⟨by decide, by decide⟩

theorem notMem_isbnGroup (locale : String) : '-' ∉ (Profile.ofCode locale).isbnGroup.toList := by
  cases h : Profile.isKnown locale with
  | true =>
    intro hm
    cases Profile.areDigits_isbnGroup h '-' hm
  | false =>
    rw [Profile.ofCode_of_not_isKnown h]
    decide

/-- The texts that fit the mask of a book number are those with the right parts. -/
theorem fits_isbnMask_iff {locale : String} {format : IsbnFormat} {number : String} :
    Mask.Fits .standard (isbnMask (Profile.ofCode locale).isbnGroup format) number ↔ HasParts locale format number := by
  rw [separates_hyphen.fits_iff, pieces_isbnMask (notMem_isbnGroup locale)]
  unfold HasParts parts
  generalize Text.pieces '-' number.toList = ps
  cases format <;>
    simp only [maskParts, partsOf, List.forall₂_cons_left_iff, forall₂_fills_run, forall₂_fills_group,
      List.forall₂_nil_left_iff]

def partCount : IsbnFormat → ℕ
  | .isbn10 => 4
  | .isbn13 => 5

def digitCount : IsbnFormat → ℕ
  | .isbn10 => 10
  | .isbn13 => 13

def groupPlace : IsbnFormat → ℕ
  | .isbn10 => 0
  | .isbn13 => 1

structure IsBookNumber (locale : String) (format : IsbnFormat) (number : String) : Prop where
  count : (parts number).length = partCount format
  digits : ∀ part ∈ parts number, part ≠ [] ∧ Text.AreDigits part
  total : (parts number).flatten.length = digitCount format
  group : ∃ part, (parts number)[groupPlace format]? = some part ∧ IsGroupOf locale part

theorem IsGroupOf.isRun {locale : String} {part : List Char} (h : IsGroupOf locale part) :
    IsRun (if locale = "uk" then 3 else 1) part := by
  rw [← Profile.length_isbnGroup]
  unfold IsGroupOf at h
  split_ifs at h with hk
  · rw [h]
    exact ⟨rfl, Profile.areDigits_isbnGroup hk⟩
  · rwa [Profile.ofCode_of_not_isKnown (Bool.not_eq_true _ ▸ hk)]

def partLengths (group : ℕ) : IsbnFormat → List ℕ
  | .isbn10 => [group, 5, 3, 1]
  | .isbn13 => [3, group, 5, 3, 1]

section Runs

variable {lengths : List ℕ} {ps : List (List Char)}

theorem map_length_of_runs (h : List.Forall₂ IsRun lengths ps) : ps.map List.length = lengths := by
  induction h with
  | nil => rfl
  | cons hrun _ ih => rw [List.map_cons, hrun.1, ih]

theorem areDigits_of_runs (h : List.Forall₂ IsRun lengths ps) (hpos : ∀ n ∈ lengths, 0 < n) :
    ∀ part ∈ ps, part ≠ [] ∧ Text.AreDigits part := by
  induction h with
  | nil => exact List.forall_mem_nil _
  | cons hrun _ ih =>
    obtain ⟨hn, hns⟩ := List.forall_mem_cons.mp hpos
    exact List.forall_mem_cons.mpr ⟨⟨List.ne_nil_of_length_pos (hrun.1 ▸ hn), hrun.2⟩, ih hns⟩

end Runs

section HasParts

variable {locale : String} {format : IsbnFormat} {number : String}

theorem HasParts.runs (h : HasParts locale format number) :
    List.Forall₂ IsRun (partLengths (if locale = "uk" then 3 else 1) format) (parts number) := by
  unfold HasParts at h
  generalize parts number = ps at h ⊢
  cases format with
  | isbn10 =>
    match h with
    | .cons hgroup (.cons hregistrant (.cons hpublication (.cons hcheck .nil))) =>
      exact .cons hgroup.isRun (.cons hregistrant (.cons hpublication (.cons hcheck .nil)))
  | isbn13 =>
    match h with
    | .cons hlead (.cons hgroup (.cons hregistrant (.cons hpublication (.cons hcheck .nil)))) =>
      exact .cons hlead (.cons hgroup.isRun (.cons hregistrant (.cons hpublication (.cons hcheck .nil))))

theorem HasParts.count (h : HasParts locale format number) : (parts number).length = partCount format := by
  rw [← h.length_eq]
  cases format <;> rfl

theorem HasParts.digits (h : HasParts locale format number) : ∀ part ∈ parts number, part ≠ [] ∧ Text.AreDigits part := by
  refine areDigits_of_runs h.runs ?_
  cases format <;> split <;> decide

/-- The digits of a number are those of its format, and two more with the group of three. -/
theorem HasParts.total (h : HasParts locale format number) :
    (parts number).flatten.length = digitCount format + if locale = "uk" then 2 else 0 := by
  rw [List.length_flatten, map_length_of_runs h.runs]
  cases format <;> split <;> rfl

theorem HasParts.group (h : HasParts locale format number) :
    ∃ part, (parts number)[groupPlace format]? = some part ∧ IsGroupOf locale part := by
  unfold HasParts at h
  generalize parts number = ps at h ⊢
  cases format with
  | isbn10 =>
    match h with
    | .cons hgroup _ => exact ⟨_, rfl, hgroup⟩
  | isbn13 =>
    match h with
    | .cons _ (.cons hgroup _) => exact ⟨_, rfl, hgroup⟩

theorem HasParts.isBookNumber_iff (h : HasParts locale format number) :
    IsBookNumber locale format number ↔ locale ≠ "uk" := by
  have htotal := h.total
  constructor
  · rintro hb rfl
    rw [hb.total, if_pos rfl] at htotal
    omega
  · intro hne
    rw [if_neg hne] at htotal
    exact ⟨h.count, h.digits, htotal, h.group⟩

end HasParts

variable {σ : Type} [WordSource σ]

/-- Whatever is drawn, a book number has the parts of its format. -/
theorem draws_isbn (locale : String) (format : IsbnFormat) :
    Random.Draws (isbn locale format : StateM σ String) (HasParts locale format) :=
  (Mask.draws_expandWith .standard _).imp fun _ => fits_isbnMask_iff.mp

/-- Every number with the right parts is drawn for some words. -/
theorem reaches_isbn {locale : String} {format : IsbnFormat} {number : String} (h : HasParts locale format number) :
    Random.Reaches (isbn locale format) number :=
  Mask.reaches_expandWith .standard (fits_isbnMask_iff.mpr h)

structure IssuesBookNumbers (σ : Type) [WordSource σ] (locale : String) (format : IsbnFormat) : Prop where
  /-- The numbers with the right parts are issued, every one of them for some words, and no others. -/
  issued : ∀ number, (∃ s : WordStream, (isbn locale format s).1 = number) ↔ HasParts locale format number
  parted : ∀ w : σ, (parts (isbn locale format w).1).length = partCount format ∧
    ∀ part ∈ parts (isbn locale format w).1, part ≠ [] ∧ Text.AreDigits part
  grouped : ∀ w : σ, ∃ part, (parts (isbn locale format w).1)[groupPlace format]? = some part ∧ IsGroupOf locale part
  /-- They are as long as their format says in every locale but one, where each of them is two digits too long. -/
  sized : ∀ w : σ, (parts (isbn locale format w).1).flatten.length = digitCount format + if locale = "uk" then 2 else 0
  sound : ∀ w : σ, IsBookNumber locale format (isbn locale format w).1 ↔ locale ≠ "uk"

/-- For every locale, known or not, book numbers consist of parts of digits with the group of the locale in its place, or
any digit where the locale has none. They have as many digits as their format exactly where the locale is not
Ukrainian. -/
theorem issues_bookNumbers (locale : String) (format : IsbnFormat) : IssuesBookNumbers σ locale format where
  issued := by
    intro number
    constructor
    · rintro ⟨s, rfl⟩
      exact draws_isbn locale format s
    · intro h
      obtain ⟨s, hs⟩ := reaches_isbn h .zeros
      exact ⟨s, by rw [hs]⟩
  parted := fun w => ⟨(draws_isbn locale format w).count, (draws_isbn locale format w).digits⟩
  grouped := fun w => (draws_isbn locale format w).group
  sized := fun w => (draws_isbn locale format w).total
  sound := fun w => (draws_isbn locale format w).isBookNumber_iff

/-- A number of a format of ten digits that has twelve. -/
theorem ukrainian_number_too_long :
    (isbn "uk" .isbn10 (Random.seeded 1 domain : Keystream)).1 = "966-21805-058-1" ∧
      ¬ IsBookNumber "uk" .isbn10 "966-21805-058-1" := by
  refine ⟨by decide +kernel, fun h => ?_⟩
  cases h.total

end Coder

end SampleData
