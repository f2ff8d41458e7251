import Mathlib.Data.List.Forall2
import SampleData.Locale.Profile
import SampleData.Proofs.DigitTexts
import SampleData.Proofs.Entries
import SampleData.Text.Lowercase

/-! # Transliteration

Alphabets are written down by their small letters. A capital is a character whose small letter, by the case tables of
all scripts, is another character and a letter of the alphabet; the tables lead nowhere else into the rows from which
the small letters are taken. The Latin texts hold no letter of the alphabet and get none by their capitalization, so
romanized text holds none and is romanized to itself.
-/
namespace SampleData

namespace Alphabet

variable {a : Alphabet} {c : Char}

def IsSmall (a : Alphabet) (c : Char) : Prop := c ∈ a.map Prod.fst

def IsCapital (a : Alphabet) (c : Char) : Prop := Text.smallLetter c ≠ c ∧ Text.smallLetter c ∈ a.map Prod.fst

def IsLetter (a : Alphabet) (c : Char) : Prop := a.IsSmall c ∨ a.IsCapital c

inductive Renders (a : Alphabet) : Char → List Char → Prop
  | small {c : Char} {latin : String} (h : (c, latin) ∈ a) : Renders a c latin.toList
  | capital {c first : Char} {latin : String} {rest : List Char} (hc : Text.smallLetter c ≠ c)
      (h : (Text.smallLetter c, latin) ∈ a) (hl : latin.toList = first :: rest) : Renders a c (first.toUpper :: rest)
  | silent {c : Char} (hc : Text.smallLetter c ≠ c) (h : (Text.smallLetter c, "") ∈ a) : Renders a c []
  | other {c : Char} (h : ¬ a.IsLetter c) : Renders a c [c]

/-- The rows that small letters are taken from. -/
def InRows (c : Char) : Prop := 0x430 ≤ c.toNat ∧ c.toNat ≤ 0x45f ∨ c.toNat = 0x491

def InCased (c : Char) : Prop := 0x400 ≤ c.toNat ∧ c.toNat ≤ 0x45f ∨ c.toNat = 0x490 ∨ c.toNat = 0x491

theorem smallLetter_eq_small (h : InCased c) : Text.smallLetter c = small c := by
  have hrows : ∀ n < 0x60, Text.smallLetter (Char.ofNat (0x400 + n)) = small (Char.ofNat (0x400 + n)) := by
    decide +kernel
  have hc := Char.ofNat_toNat c
  rcases h with h | h | h
  · have hn := hrows (c.toNat - 0x400) (by omega)
    rwa [Nat.add_sub_cancel' h.1, hc] at hn
  · rw [h] at hc
    rw [← hc]
    rfl
  · rw [h] at hc
    rw [← hc]
    rfl

theorem small_of_not_inCased (h : ¬ InCased c) : small c = c := by
  unfold InCased at h
  unfold small
  rw [if_neg (by omega), if_neg (by omega), if_neg (by omega)]

theorem small_of_inRows (h : InRows c) : small c = c := by
  unfold InRows at h
  unfold small
  rw [if_neg (by omega), if_neg (by omega), if_neg (by omega)]

/-- Outside the rows and their capitals no run of capitals leads into the rows. -/
theorem runs_apart : ∀ r ∈ Text.capitals, r.last + r.distance < 0x430 ∨ 0x491 < r.first + r.distance ∨
    0x45f < r.first + r.distance ∧ r.last + r.distance < 0x491 ∨
    0x400 ≤ r.first ∧ r.last ≤ 0x42f ∨ 0x45f < r.first ∧ r.distance = 1 := by decide +kernel

theorem toNat_ofNat (n : ℕ) : (Char.ofNat n).toNat = n ∨ (Char.ofNat n).toNat = 0 := by
  unfold Char.ofNat
  by_cases h : n.isValidChar
  · rw [dif_pos h]
    exact .inl rfl
  · rw [dif_neg h]
    exact .inr rfl

theorem not_inRows_smallLetter (h : ¬ InCased c) : ¬ InRows (Text.smallLetter c) := by
  unfold Text.smallLetter
  dsimp only
  split
  · next r hr =>
    have hruns := runs_apart r (List.mem_of_find?_eq_some hr)
    have hin := List.find?_some hr
    simp only [Bool.and_eq_true, decide_eq_true_eq] at hin
    unfold InCased at h
    unfold InRows
    rcases toNat_ofNat (c.toNat + r.distance).toNat with hn | hn <;> rw [hn] <;> omega
  · unfold InCased at h
    unfold InRows
    omega

/-- The case tables and the rule for the rows agree on what becomes a letter of the rows. -/
theorem smallLetter_eq_iff {letter : Char} (hl : InRows letter) : Text.smallLetter c = letter ↔ small c = letter := by
  by_cases hc : InCased c
  · rw [smallLetter_eq_small hc]
  · rw [small_of_not_inCased hc]
    constructor
    · rintro rfl
      exact absurd hl (not_inRows_smallLetter hc)
    · rintro rfl
      unfold InCased at hc
      unfold InRows at hl
      omega

def AllLatin (a : Alphabet) (P : Char → Prop) : Prop := ∀ e ∈ a, ∀ d ∈ e.2.toList, P d ∧ P d.toUpper

/-- The instance goes through the lists, since one that goes through all characters does not compute. -/
instance (a : Alphabet) (P : Char → Prop) [DecidablePred P] : Decidable (a.AllLatin P) :=
  have : DecidablePred fun e : Char × String => ∀ d ∈ e.2.toList, P d ∧ P d.toUpper := fun e =>
    List.decidableBAll (fun d => P d ∧ P d.toUpper) e.2.toList
  List.decidableBAll (fun e : Char × String => ∀ d ∈ e.2.toList, P d ∧ P d.toUpper) a

/-- An alphabet of different small letters, whose texts hold no letter and get none when they are capitalized. -/
structure Regular (a : Alphabet) : Prop where
  inRows : ∀ e ∈ a, InRows e.1
  distinct : (a.map Prod.fst).Nodup
  latin : a.AllLatin fun d => a.lookup (small d) = none

theorem regular_russian : russian.Regular := by
  have hrows : ∀ e ∈ russian, InRows e.1 := by
    unfold InRows
    decide
  exact ⟨hrows, by decide, by decide +kernel⟩

theorem regular_ukrainian : ukrainian.Regular := by
  have hrows : ∀ e ∈ ukrainian, InRows e.1 := by
    unfold InRows
    decide
  exact ⟨hrows, by decide, by decide +kernel⟩

namespace Regular

variable (ha : a.Regular)
include ha

theorem lookup_of_mem {letter : Char} {latin : String} (h : (letter, latin) ∈ a) : a.lookup letter = some latin :=
  (lookup_eq_some_iff_mem ha.distinct).mpr h

theorem inRows_of_mem (h : c ∈ a.map Prod.fst) : InRows c := by
  obtain ⟨e, he, rfl⟩ := List.mem_map.mp h
  exact ha.inRows e he

theorem isLetter_iff : a.IsLetter c ↔ small c ∈ a.map Prod.fst := by
  constructor
  · rintro (h | ⟨_, h⟩)
    · rwa [small_of_inRows (ha.inRows_of_mem h)]
    · rwa [(smallLetter_eq_iff (ha.inRows_of_mem h)).mp rfl]
  · intro h
    have hs : Text.smallLetter c = small c := (smallLetter_eq_iff (ha.inRows_of_mem h)).mpr rfl
    rw [← hs] at h
    by_cases hc : Text.smallLetter c = c
    · rw [hc] at h
      exact .inl h
    · exact .inr ⟨hc, h⟩

theorem isLetter_iff_lookup : a.IsLetter c ↔ (a.lookup (small c)).isSome := by
  rw [ha.isLetter_iff, lookup_isSome_iff]

theorem latin_of_not_isLetter (h : ¬ a.IsLetter c) : a.latin c = [c] := by
  rw [ha.isLetter_iff_lookup, Option.not_isSome_iff_eq_none] at h
  unfold Alphabet.latin
  rw [h]

theorem latin_of_mem {letter : Char} {latin : String} (hs : small c = letter) (h : (letter, latin) ∈ a) :
    a.latin c = if letter = c then latin.toList else capitalize latin.toList := by
  subst hs
  unfold Alphabet.latin
  rw [ha.lookup_of_mem h]

theorem inRows_of_entry {letter : Char} {latin : String} (h : (letter, latin) ∈ a) : InRows letter :=
  ha.inRows (letter, latin) h

theorem small_of_smallLetter {latin : String} (h : (Text.smallLetter c, latin) ∈ a) : small c = Text.smallLetter c :=
  (smallLetter_eq_iff (ha.inRows_of_entry h)).mp rfl

theorem latin_of_renders {out : List Char} (h : a.Renders c out) : a.latin c = out := by
  cases h with
  | small h => rw [ha.latin_of_mem (small_of_inRows (ha.inRows_of_entry h)) h, if_pos rfl]
  | capital hc h hl =>
    rw [ha.latin_of_mem (ha.small_of_smallLetter h) h, if_neg hc, hl]
    rfl
  | silent hc h =>
    rw [ha.latin_of_mem (ha.small_of_smallLetter h) h, if_neg hc]
    rfl
  | other h => exact ha.latin_of_not_isLetter h

/-- Every character has the Latin text that the rules give it. -/
theorem renders_latin (c : Char) : a.Renders c (a.latin c) := by
  by_cases hc : a.IsLetter c
  · obtain ⟨latin, hl⟩ := Option.isSome_iff_exists.mp (ha.isLetter_iff_lookup.mp hc)
    have h := mem_of_lookup hl
    have hs : Text.smallLetter c = small c := (smallLetter_eq_iff (ha.inRows_of_entry h)).mpr rfl
    rw [ha.latin_of_mem rfl h]
    rw [← hs] at h ⊢
    split_ifs with he
    · rw [he] at h
      exact .small h
    · cases ht : latin.toList with
      | nil =>
        rw [String.toList_eq_nil_iff.mp ht] at h
        exact .silent he h
      | cons first rest => exact .capital he h ht
  · rw [ha.latin_of_not_isLetter hc]
    exact .other hc

/-- What a character is romanized to is fixed by the rules. -/
theorem renders_iff {out : List Char} : a.Renders c out ↔ a.latin c = out := by
  constructor
  · exact ha.latin_of_renders
  · rintro rfl
    exact ha.renders_latin c

theorem forall₂_renders_iff {cs : List Char} {parts : List (List Char)} :
    List.Forall₂ a.Renders cs parts ↔ cs.map a.latin = parts := by
  rw [← List.forall₂_eq_eq_eq, List.forall₂_map_left_iff]
  exact ⟨.imp fun _ _ => ha.renders_iff.mp, .imp fun _ _ => ha.renders_iff.mpr⟩

/-- What holds of the characters of all texts, capitalized or not, holds of all that letters become. -/
theorem forall_mem_latin {P : Char → Prop} (ht : a.AllLatin P) (hc : a.IsLetter c) : ∀ d ∈ a.latin c, P d := by
  have hr := ha.renders_latin c
  generalize a.latin c = out at hr
  intro d hd
  cases hr with
  | small h => exact (ht _ h d hd).1
  | @capital first latin rest _ h hl =>
    have htext : ∀ d ∈ first :: rest, P d ∧ P d.toUpper := hl ▸ ht _ h
    rcases List.mem_cons.mp hd with rfl | hd
    · exact (htext first List.mem_cons_self).2
    · exact (htext d (List.mem_cons_of_mem first hd)).1
  | silent _ _ => cases hd
  | other h => exact absurd hc h

theorem not_isLetter_of_mem_latin {d : Char} (hd : d ∈ a.latin c) : ¬ a.IsLetter d := by
  by_cases hc : a.IsLetter c
  · have hnone := ha.forall_mem_latin (P := fun d => a.lookup (small d) = none) ha.latin hc d hd
    rw [ha.isLetter_iff_lookup, hnone]
    exact nofun
  · rw [ha.latin_of_not_isLetter hc] at hd
    rwa [List.mem_singleton.mp hd]

/-- No letter of the alphabet is left in a romanized text. -/
theorem not_isLetter_of_mem_romanize {text : String} {d : Char} (hd : d ∈ (a.romanize text).toList) :
    ¬ a.IsLetter d := by
  unfold romanize at hd
  rw [String.toList_ofList] at hd
  obtain ⟨c, _, hc⟩ := List.mem_flatMap.mp hd
  exact ha.not_isLetter_of_mem_latin hc

/-- The texts that stay as they are are those without letters of the alphabet. -/
theorem romanize_eq_self_iff {text : String} : a.romanize text = text ↔ ∀ c ∈ text.toList, ¬ a.IsLetter c := by
  constructor
  · intro h c hc
    rw [← h] at hc
    exact ha.not_isLetter_of_mem_romanize hc
  · intro h
    have hl : text.toList.flatMap a.latin = text.toList.flatMap ([·]) :=
      List.flatMap_congr fun c hc => ha.latin_of_not_isLetter (h c hc)
    unfold romanize
    rw [hl, List.flatMap_singleton', String.ofList_toList]

/-- If the Latin texts are ASCII, then so is romanized text whose other characters are. -/
theorem areAscii_romanize_iff (ht : a.AllLatin (·.toNat < 128)) {text : String} :
    Text.AreAscii (a.romanize text).toList ↔ ∀ c ∈ text.toList, ¬ a.IsLetter c → c.toNat < 128 := by
  unfold romanize Text.AreAscii
  rw [String.toList_ofList, List.forall_mem_flatMap]
  refine forall₂_congr fun c _ => ?_
  by_cases hc : a.IsLetter c
  · exact iff_of_true (ha.forall_mem_latin ht hc) (absurd hc)
  · rw [ha.latin_of_not_isLetter hc, List.forall_mem_singleton]
    exact (imp_iff_right hc).symm

end Regular

end Alphabet

namespace Locale

structure Romanizes (code : String) (a : Alphabet) : Prop where
  succeeds : ∀ text, ∃ out, romanize text code = .ok out
  rendered : ∀ text out, romanize text code = .ok out ↔
    ∃ parts, List.Forall₂ a.Renders text.toList parts ∧ out.toList = parts.flatten
  plain : ∀ text out, romanize text code = .ok out → ∀ c ∈ out.toList, ¬ a.IsLetter c
  idempotent : ∀ text out, romanize text code = .ok out → romanize out code = .ok out
  fixed : ∀ text, romanize text code = .ok text ↔ ∀ c ∈ text.toList, ¬ a.IsLetter c

variable {code : String} {a : Alphabet}

theorem romanize_of_alphabet (h : (Profile.ofCode code).alphabet = some a) (text : String) :
    romanize text code = .ok (a.romanize text) := by
  unfold romanize
  rw [h]

theorem romanize_eq_ok_iff (h : (Profile.ofCode code).alphabet = some a) {text out : String} :
    romanize text code = .ok out ↔ a.romanize text = out := by
  rw [romanize_of_alphabet h, Except.ok.injEq]

/-- With a regular alphabet, a text is romanized character by character, and what comes of it stays as it is. -/
theorem romanizes (ha : a.Regular) (h : (Profile.ofCode code).alphabet = some a) : Romanizes code a where
  succeeds := fun text => ⟨_, romanize_of_alphabet h text⟩
  rendered := by
    intro text out
    rw [romanize_eq_ok_iff h, ← String.toList_inj, Alphabet.romanize, String.toList_ofList, List.flatMap_def]
    constructor
    · intro ho
      exact ⟨_, ha.forall₂_renders_iff.mpr rfl, ho.symm⟩
    · rintro ⟨parts, hp, ho⟩
      rw [ha.forall₂_renders_iff.mp hp, ho]
  plain := by
    intro text out ho c hc
    rw [romanize_eq_ok_iff h] at ho
    rw [← ho] at hc
    exact ha.not_isLetter_of_mem_romanize hc
  idempotent := by
    intro text out ho
    rw [romanize_eq_ok_iff h] at ho ⊢
    rw [ha.romanize_eq_self_iff, ← ho]
    exact fun c => ha.not_isLetter_of_mem_romanize
  fixed := by
    intro text
    rw [romanize_eq_ok_iff h, ha.romanize_eq_self_iff]

theorem alphabet_russian : (Profile.ofCode "ru").alphabet = some .russian := rfl

theorem alphabet_ukrainian : (Profile.ofCode "uk").alphabet = some .ukrainian := rfl

/-- There are only two locales with an alphabet. -/
theorem alphabet_eq_none (hr : code ≠ "ru") (hu : code ≠ "uk") : (Profile.ofCode code).alphabet = none := by
  cases h : Profile.isKnown code with
  | false =>
    rw [Profile.ofCode_of_not_isKnown h]
    rfl
  | true =>
    have hall : ∀ p ∈ Profile.known, p.code ≠ "ru" → p.code ≠ "uk" → p.alphabet = none := by simp [Profile.known]
    obtain ⟨hp, hc⟩ := Profile.ofCode_of_isKnown h
    exact hall _ hp (by rwa [hc]) (by rwa [hc])

/-- Texts are romanized in Russian and Ukrainian, letter by letter, so that no letter of the alphabet is left and what
has none is kept; Russian letters leave nothing behind that is not ASCII. There is no romanization in other locales. -/
theorem romanized_by_alphabet : Romanizes "ru" .russian ∧ Romanizes "uk" .ukrainian ∧
    (∀ text out, romanize text "ru" = .ok out →
      (Text.AreAscii out.toList ↔ ∀ c ∈ text.toList, ¬ Alphabet.russian.IsLetter c → c.toNat < 128)) ∧
    ∀ code, code ≠ "ru" → code ≠ "uk" → ∀ text, romanize text code = .error (.unsupportedLocale code) := by
  refine ⟨romanizes Alphabet.regular_russian alphabet_russian,
    romanizes Alphabet.regular_ukrainian alphabet_ukrainian, ?_, ?_⟩
  · intro text out ho
    have ht : Alphabet.russian.AllLatin (·.toNat < 128) := by decide
    rw [romanize_eq_ok_iff alphabet_russian] at ho
    rw [← ho]
    exact Alphabet.regular_russian.areAscii_romanize_iff ht
  · intro code hr hu text
    unfold romanize
    rw [alphabet_eq_none hr hu]

end Locale

end SampleData
