import SampleData.Assets.Shipped
import SampleData.Proofs.Json.RoundTrip
import SampleData.Proofs.Provider.Equipped

/-! # The shipped bundles are complete

What is read from the source of the shipped bundles is the data itself with sorted fields, as the texts are printed
from it. That each bundle has all its provider needs is a test that is run on the data of every locale.
-/
namespace SampleData.Assets

def shipped : List LocaleData := [german, english, russian]

/-- What the source of the shipped bundles holds is their printed data. -/
theorem read_source : ∀ d ∈ shipped, ∀ e ∈ d.domains, source.read e.1 d.code = .ok (some (e.2.pretty ++ "\n")) := by
  intro d hd e he
  simp only [shipped, List.mem_cons, List.not_mem_nil, or_false] at hd
  rcases hd with rfl | rfl | rfl <;>
  · simp only [LocaleData.domains, List.mem_cons, List.not_mem_nil, or_false] at he
    rcases he with rfl | rfl | rfl | rfl | rfl | rfl | rfl <;> rfl

def suits (domain locale : String) (data : Json) (test : Bundle → Bool) : Bool :=
  Json.isExact Json.maxDepth data && data.sorted.isObject && test ⟨domain, locale, data.sorted⟩

def LocaleData.isComplete (d : LocaleData) : Bool :=
  suits Address.domain d.code d.address Address.supplied && suits Business.domain d.code d.business Business.supplied &&
    suits Datetime.domain d.code d.datetime Datetime.supplied && suits Food.domain d.code d.food Food.supplied &&
    suits Personal.domain d.code d.personal Personal.supplied && suits Science.domain d.code d.science Science.supplied &&
    suits Prose.domain d.code d.text Prose.supplied

theorem isComplete_german : german.isComplete = true := by decide +kernel

theorem isComplete_english : english.isComplete = true := by decide +kernel

theorem isComplete_russian : russian.isComplete = true := by decide +kernel

theorem isComplete_shipped : ∀ d ∈ shipped, d.isComplete = true := by
  intro d hd
  simp only [shipped, List.mem_cons, List.not_mem_nil, or_false] at hd
  rcases hd with rfl | rfl | rfl
  · exact isComplete_german
  · exact isComplete_english
  · exact isComplete_russian

variable {d : LocaleData}

/-- Data that suit are read back from the source as a bundle that passes the test. -/
theorem provides_of_suits (hd : d ∈ shipped) {domain : String} {data : Json} (he : (domain, data) ∈ d.domains)
    {test : Bundle → Bool} (hs : suits domain d.code data test = true) : source.Provides domain d.code test := by
  obtain ⟨hread, htest⟩ := Bool.and_eq_true_iff.mp hs
  obtain ⟨hexact, hobject⟩ := Bool.and_eq_true_iff.mp hread
  have hr : source.read domain d.code = .ok (some (data.pretty ++ "\n")) := read_source d hd _ he
  have hj : Json.read? (data.pretty ++ "\n") = some data.sorted := Json.read?_pretty hexact Json.blanks_lineEnd
  refine ⟨⟨domain, d.code, data.sorted⟩, ?_, htest⟩
  simp only [Store.readBundle, hr, hj, hobject, if_true]

theorem provides_names : source.Provides Personal.domain Locale.standard Personal.namesSupplied := by
  have hd : english ∈ shipped := by simp [shipped]
  have hc := isComplete_english
  simp only [LocaleData.isComplete, Bool.and_eq_true] at hc
  obtain ⟨⟨⟨_, hpersonal⟩, _⟩, _⟩ := hc
  have hp : source.Provides Personal.domain Locale.standard Personal.supplied :=
    provides_of_suits hd (by simp [LocaleData.domains, Personal.domain]) hpersonal
  exact hp.imp fun b hb => (Personal.supplied_iff.mp hb).names

/-- In every shipped locale the source has what all providers need. -/
theorem equips_of_shipped (hd : d ∈ shipped) : source.Equips d.code := by
  have hc := isComplete_shipped d hd
  simp only [LocaleData.isComplete, Bool.and_eq_true] at hc
  obtain ⟨⟨⟨⟨⟨⟨haddress, hbusiness⟩, hdatetime⟩, hfood⟩, hpersonal⟩, hscience⟩, htext⟩ := hc
  constructor
  case address => exact provides_of_suits hd (by simp [LocaleData.domains, Address.domain]) haddress
  case business => exact provides_of_suits hd (by simp [LocaleData.domains, Business.domain]) hbusiness
  case datetime => exact provides_of_suits hd (by simp [LocaleData.domains, Datetime.domain]) hdatetime
  case food => exact provides_of_suits hd (by simp [LocaleData.domains, Food.domain]) hfood
  case personal => exact provides_of_suits hd (by simp [LocaleData.domains, Personal.domain]) hpersonal
  case science => exact provides_of_suits hd (by simp [LocaleData.domains, Science.domain]) hscience
  case text => exact provides_of_suits hd (by simp [LocaleData.domains, Prose.domain]) htext
  case names => exact provides_names

/-- Every shipped locale is equipped by the shipped bundles. -/
theorem equips_of_mem_locales {locale : String} (h : locale ∈ locales) : source.Equips locale := by
  have hl : locales = shipped.map (·.code) := by decide +kernel
  rw [hl] at h
  obtain ⟨d, hd, rfl⟩ := List.mem_map.mp h
  exact equips_of_shipped hd

end SampleData.Assets
