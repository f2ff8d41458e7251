import SampleData.Locale.Romanization

/-! # Locales

What is known of a locale apart from its bundles. Unknown codes share a neutral profile.
-/
namespace SampleData

/-- Facts about one locale. The group of an ISBN is a mask: `#` is a random digit. -/
structure Profile where
  code : String
  name : String
  nativeName : String
  isbnGroup : String
  currencySymbol : String
  alphabet : Option Alphabet

namespace Profile

def neutral : Profile :=
  ⟨"", "Unknown", "Unknown", "#", "$", none⟩

def known : List Profile :=
  [⟨"de", "German", "Deutsch", "3", "€", none⟩,
   ⟨"en", "English", "English", "1", "$", none⟩,
   ⟨"ru", "Russian", "Русский", "5", "₽", some .russian⟩,
   ⟨"uk", "Ukrainian", "Українська", "966", "₴", some .ukrainian⟩]

def ofCode (code : String) : Profile := (known.find? (·.code == code)).getD neutral

def isKnown (code : String) : Bool := known.any (·.code == code)

theorem ofCode_of_isKnown {code : String} (h : isKnown code = true) : ofCode code ∈ known ∧ (ofCode code).code = code := by
  obtain ⟨p, hp⟩ : ∃ p, known.find? (·.code == code) = some p :=
    Option.isSome_iff_exists.mp (List.find?_isSome.mpr (List.any_eq_true.mp h))
  have ho : ofCode code = p := by
    unfold ofCode
    rw [hp, Option.getD_some]
  have hb := List.find?_some hp
  rw [ho]
  exact ⟨List.mem_of_find?_eq_some hp, eq_of_beq hb⟩

theorem ofCode_of_not_isKnown {code : String} (h : isKnown code = false) : ofCode code = neutral := by
  have hn : known.find? (·.code == code) = none :=
    List.find?_eq_none.mpr fun p hp => List.any_eq_false.mp h p hp
  unfold ofCode
  rw [hn, Option.getD_none]

end Profile

namespace Locale

/-- The locale whose names user names are made of, and the locale of a facade that names none. -/
def standard : String := "en"

def language (code : String) : String := (Profile.ofCode code).name

def describe (kind code : String) : String := s!"{kind}:{code}:" ++ language code

def romanize (text code : String) : Except Error String :=
  match (Profile.ofCode code).alphabet with
  | some alphabet => .ok (alphabet.romanize text)
  | none => .error (.unsupportedLocale code)

end Locale

end SampleData
