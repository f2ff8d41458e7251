import SampleData.Proofs.Address.Templates
import SampleData.Proofs.Calendar.Drawn
import SampleData.Proofs.Checksum.Identifiers
import SampleData.Proofs.Provider.Supply
import SampleData.Provider.Address
import SampleData.Provider.Business
import SampleData.Provider.ClothingSizes
import SampleData.Provider.Code
import SampleData.Provider.Datetime
import SampleData.Provider.Development
import SampleData.Provider.Files
import SampleData.Provider.Food
import SampleData.Provider.Hardware
import SampleData.Provider.Network
import SampleData.Provider.Numbers
import SampleData.Provider.Prose
import SampleData.Provider.Science
import SampleData.Provider.Transport

/-! # Calls that are sure to succeed

A call can fail for its arguments or for its bundle. For every provider there is a condition on the arguments of its
calls, and a test of the bundle where it has one; under both a call succeeds from every state of the random source.
-/
namespace SampleData

open Gen

variable {σ : Type} [WordSource σ]

theorem Development.succeeds_perform (call : Call) : Succeeds Anywhere (perform call : Gen σ Json) Any := by
  cases call with
  | _ => exact (succeeds_drawn _).text

theorem Files.succeeds_perform (call : Call) : Succeeds Anywhere (perform call : Gen σ Json) Any := by
  cases call with
  | _ => exact (succeeds_drawn _).text

theorem Hardware.succeeds_perform (call : Call) : Succeeds Anywhere (perform call : Gen σ Json) Any := by
  cases call with
  | _ => exact (succeeds_drawn _).text

theorem Network.succeeds_perform (call : Call) : Succeeds Anywhere (perform call : Gen σ Json) Any := by
  cases call with
  | _ => exact (succeeds_drawn _).text

theorem Transport.succeeds_perform (call : Call) : Succeeds Anywhere (perform call : Gen σ Json) Any := by
  cases call with
  | _ => exact (succeeds_drawn _).text

namespace ClothingSizes

def Call.Admissible : Call → Prop
  | .custom lower upper => lower ≤ upper
  | _ => True

theorem succeeds_perform {call : Call} (h : call.Admissible) : Succeeds Anywhere (perform call : Gen σ Json) Any := by
  cases call with
  | international => exact (succeeds_drawn _).text
  | european => exact (succeeds_drawn _).number
  | custom lower upper => exact ((succeeds_unsigned _ h).bind fun _ _ => succeeds_drawn _).number

theorem admissible_fields : ∀ e ∈ fields, e.2.Admissible := by
  simp only [fields, List.forall_mem_cons, Call.Admissible, List.not_mem_nil, false_implies, implies_true]
  decide

end ClothingSizes

namespace Numbers

def Call.Admissible : Call → Prop
  | .floats exponent => exponent ≤ greatestExponent
  | .primes start stop => start ≤ stop ∧ stop ≤ greatestStop
  | .digit => True
  | .between lower upper => lower.toInt ≤ upper.toInt
  | .rating greatest => Bounds.real "rating" 0.0 greatest = .ok ()

theorem succeeds_perform {call : Call} (h : call.Admissible) : Succeeds Anywhere (perform call : Gen σ Json) Any := by
  cases call with
  | digit => exact (succeeds_drawn _).number
  | floats exponent =>
    have hf : Succeeds Anywhere (floats exponent : Gen σ (List Float)) Any := by
      unfold floats
      rw [if_neg (UInt32.not_lt.mpr h)]
      exact succeeds_drawn _
    exact hf.map fun _ _ => trivial
  | primes start stop =>
    obtain ⟨hle, hstop⟩ := h
    have hw : Bounds.whole "primes" start.toNat stop.toNat = .ok () :=
      if_neg (not_lt.mpr (Int.ofNat_le.mpr (UInt32.le_iff_toNat_le.mp hle)))
    have hp : primes start stop = .ok (Primes.between start.toNat stop.toNat) := by
      unfold primes
      rw [hw, if_neg (UInt32.not_lt.mpr hstop)]
      rfl
    have ha : Succeeds Anywhere (accept (primes start stop) : Gen σ (List ℕ)) Any := succeeds_accept hp trivial
    exact ha.map fun _ _ => trivial
  | between lower upper =>
    have hb : Succeeds Anywhere (between lower upper : Gen σ Int64) Any :=
      (succeeds_whole _ h).bind fun _ _ => succeeds_drawn _
    exact hb.map fun _ _ => trivial
  | rating greatest =>
    have hr : Succeeds Anywhere (rating greatest : Gen σ Float) Any :=
      (succeeds_real h).bind fun _ _ => (succeeds_drawn _).bind fun _ _ => succeeds_pure trivial
    exact hr.double

theorem admissible_fields : ∀ e ∈ fields, e.2.Admissible := by
  have hr : Bounds.real "rating" 0.0 5.0 = .ok () := rfl
  simp only [fields, List.forall_mem_cons, Call.Admissible, List.not_mem_nil, false_implies, implies_true, hr]
  decide

end Numbers

namespace Coder

def Call.Admissible : Call → Prop
  | .customCode _ letter digit => letter ≠ digit
  | _ => True

theorem succeeds_perform (locale : String) {call : Call} (h : call.Admissible) :
    Succeeds Anywhere (perform locale call : Gen σ Json) Any := by
  cases call with
  | customCode mask letter digit =>
    have hs : Placeholders.ofSymbols letter digit = .ok ⟨letter, digit, h⟩ := dif_neg h
    have hc : Succeeds Anywhere (customCode mask letter digit : Gen σ String) Any :=
      Succeeds.bind (Q := Any) (succeeds_accept hs trivial) fun _ _ => succeeds_drawn _
    exact hc.text
  | imei => exact succeeds_imei.text
  | describe => exact succeeds_pure trivial
  | locale => exact succeeds_pure trivial
  | _ => exact (succeeds_drawn _).text

omit [WordSource σ] in
theorem succeeds_onWords {α : Type} {Q : α → Prop} {step : String → Gen σ α}
    (h : ∀ locale, Succeeds Anywhere (step locale) Q) : Succeeds Anywhere (onWords step) Q := by
  rintro ⟨locale, words⟩ _
  obtain ⟨a, after, ho, ha, _⟩ := h locale words trivial
  refine ⟨a, ⟨locale, after⟩, ?_, ha, trivial⟩
  simp only [onWords, focus, ho]

theorem admissible_fields : ∀ e ∈ fields, e.2.Admissible := by
  simp only [fields, List.forall_mem_cons, Call.Admissible, List.not_mem_nil, false_implies, implies_true]
  decide

end Coder

namespace Datetime

/-- Years in order and within the calendar, and layouts, where they are given, that show what they are given for. -/
def Call.Admissible : Call → Prop
  | .year lower upper => lower.toInt ≤ upper.toInt
  | .date start stop layout => start.toInt ≤ stop.toInt ∧ Calendar.firstYear ≤ start.toInt ∧
    stop.toInt ≤ Calendar.lastYear ∧ layout.all Calendar.showsDates = true
  | .time layout => layout.all Calendar.showsTimes = true
  | _ => True

def paths : List String := ["day.name", "day.abbr", "month.name", "month.abbr", "periodicity"]

def supplied (b : Bundle) : Bool :=
  b.stocks paths && b.holds "formats.date" Calendar.showsDates && b.holds "formats.time" Calendar.showsTimes

variable {b : Bundle}

theorem succeeds_year {lower upper : Int32} (h : lower.toInt ≤ upper.toInt) :
    Succeeds Anywhere (year lower upper : Gen σ Int32) fun n => lower.toInt ≤ n.toInt ∧ n.toInt ≤ upper.toInt :=
  (succeeds_whole _ h).bind fun _ _ => succeeds_draw (Random.signed_mem h)

theorem exists_shown {path : String} {shows : String → Bool} (hp : b.holds path shows = true)
    {layout : Option String} (hl : layout.all shows = true) {subject : Calendar.Subject}
    (hs : ∀ layout, shows layout = true → ∃ text, Calendar.render? layout subject = some text) :
    ∃ text, shown b path layout subject = .ok text := by
  have hasked : ∃ chosen, asked b path layout = .ok chosen ∧ shows chosen = true := by
    cases layout with
    | none => exact Bundle.exists_of_holds hp
    | some layout => exact ⟨layout, rfl, hl⟩
  obtain ⟨chosen, ha, hshows⟩ := hasked
  obtain ⟨text, ht⟩ := hs chosen hshows
  exact ⟨text, by simp only [shown, ha, ht]⟩

theorem succeeds_date (hf : b.holds "formats.date" Calendar.showsDates = true) {start stop : Int32}
    {layout : Option String} (h : Call.Admissible (.date start stop layout)) :
    Succeeds Anywhere (date b start stop layout : Gen σ String) Any := by
  obtain ⟨hle, hfirst, hlast, hlayout⟩ := h
  intro w _
  obtain ⟨hyear, hexist⟩ := draws_parts hle w
  obtain ⟨text, ht⟩ := exists_shown hf hlayout fun _ hl => Calendar.exists_render_date hl (drawParts start stop w).1.date
  have hcalendar : Calendar.InCalendar (drawParts start stop w).1.year.toInt :=
    ⟨le_trans hfirst hyear.1, le_trans hyear.2 hlast⟩
  rw [date_apply hle, complete_of_exist hcalendar hexist, ht]
  exact ⟨text, _, rfl, trivial, trivial⟩

theorem succeeds_time (hf : b.holds "formats.time" Calendar.showsTimes = true) {layout : Option String}
    (h : layout.all Calendar.showsTimes = true) : Succeeds Anywhere (time b layout : Gen σ String) Any := by
  intro w _
  obtain ⟨text, ht⟩ := exists_shown hf h fun _ hl => Calendar.exists_render_time hl (drawTime w).1
  rw [time_apply, ht]
  exact ⟨text, _, rfl, trivial, trivial⟩

theorem succeeds_perform (h : supplied b = true) {call : Call} (hc : call.Admissible) :
    Succeeds Anywhere (perform b call : Gen σ Json) Any := by
  obtain ⟨hrest, htimes⟩ := Bool.and_eq_true_iff.mp h
  obtain ⟨hpaths, hdates⟩ := Bool.and_eq_true_iff.mp hrest
  have hp : ∀ {path : String}, path ∈ paths → Succeeds Anywhere (b.pick path : Gen σ String) Any :=
    Bundle.succeeds_pick_of_stocks hpaths
  cases call with
  | dayOfWeek short =>
    cases short with
    | true => exact (hp (by decide)).text
    | false => exact (hp (by decide)).text
  | month short =>
    cases short with
    | true => exact (hp (by decide)).text
    | false => exact (hp (by decide)).text
  | year lower upper => exact (succeeds_year hc).map fun _ _ => trivial
  | century => exact (succeeds_drawn _).text
  | periodicity => exact (hp (by decide)).text
  | date start stop layout => exact (succeeds_date hdates hc).text
  | time layout => exact (succeeds_time htimes hc).text
  | dayOfMonth => exact (succeeds_drawn _).number
  | describe => exact succeeds_pure trivial
  | locale => exact succeeds_pure trivial

theorem admissible_fields : ∀ e ∈ fields, e.2.Admissible := by
  simp only [fields, List.forall_mem_cons, Call.Admissible, List.not_mem_nil, false_implies, implies_true]
  decide

end Datetime

namespace Food

def paths : List String := ["vegetables", "fruits", "dishes", "spices", "drinks"]

def supplied (b : Bundle) : Bool := b.stocks paths

theorem succeeds_perform {b : Bundle} (h : supplied b = true) (call : Call) :
    Succeeds Anywhere (perform b call : Gen σ Json) Any := by
  cases call with
  | vegetable => exact (Bundle.succeeds_pick_of_stocks h (by decide)).text
  | fruit => exact (Bundle.succeeds_pick_of_stocks h (by decide)).text
  | dish => exact (Bundle.succeeds_pick_of_stocks h (by decide)).text
  | spices => exact (Bundle.succeeds_pick_of_stocks h (by decide)).text
  | drink => exact (Bundle.succeeds_pick_of_stocks h (by decide)).text
  | _ => exact succeeds_pure trivial

end Food

namespace Science

def supplied (b : Bundle) : Bool :=
  b.stocks ["article", "scientist"] && b.offers "element" fun entry => (Element.ofEntry? entry).isSome

theorem succeeds_perform {b : Bundle} (h : supplied b = true) (call : Call) :
    Succeeds Anywhere (perform b call : Gen σ Json) Any := by
  obtain ⟨hpaths, helements⟩ := Bool.and_eq_true_iff.mp h
  cases call with
  | mathFormula => exact (succeeds_drawn _).text
  | scientificArticle => exact (Bundle.succeeds_pick_of_stocks hpaths (by decide)).text
  | scientist => exact (Bundle.succeeds_pick_of_stocks hpaths (by decide)).text
  | chemicalElement =>
    have hc : Succeeds Anywhere (chemicalElement b : Gen σ Element) Any := by
      refine (Bundle.succeeds_pick helements).bind fun entry he => ?_
      obtain ⟨e, ho⟩ := Option.isSome_iff_exists.mp he
      simp only [ho]
      exact succeeds_pure trivial
    exact hc.map fun _ _ => trivial
  | _ => exact succeeds_pure trivial

end Science

namespace Business

def Call.Admissible : Call → Prop
  | .copyright withYears lower upper => withYears = true → lower < upper
  | .price lower upper => Bounds.real "price" lower upper = .ok ()
  | _ => True

def paths : List String := ["company.name", "company.type.abbr", "company.type.title"]

def supplied (b : Bundle) : Bool := b.stocks paths

variable {b : Bundle}

theorem succeeds_company (h : supplied b = true) : Succeeds Anywhere (company b : Gen σ String) Any :=
  Bundle.succeeds_pick_of_stocks h (by decide)

theorem succeeds_companyType (h : supplied b = true) (short : Bool) :
    Succeeds Anywhere (companyType b short : Gen σ String) Any := by
  cases short with
  | true => exact Bundle.succeeds_pick_of_stocks h (by decide)
  | false => exact Bundle.succeeds_pick_of_stocks h (by decide)

theorem succeeds_copyright (h : supplied b = true) {withYears : Bool} {lower upper : UInt32}
    (hy : withYears = true → lower < upper) :
    Succeeds Anywhere (copyright b withYears lower upper : Gen σ String) Any := by
  refine (succeeds_companyType h true).bind fun kind _ => ?_
  cases withYears with
  | false => exact (succeeds_company h).bind fun owner _ => succeeds_pure trivial
  | true =>
    have hlt : ¬ upper ≤ lower := UInt32.not_le.mpr (hy rfl)
    simp only [Bool.not_true, Bool.false_eq_true, if_false, hlt]
    refine (succeeds_drawn _).bind fun founded _ => ?_
    exact (succeeds_company h).bind fun owner _ => succeeds_pure trivial

theorem succeeds_price (locale : String) {lower upper : Float} (h : Bounds.real "price" lower upper = .ok ()) :
    Succeeds Anywhere (price locale lower upper : Gen σ String) Any := by
  refine (succeeds_real h).bind fun _ _ => ?_
  split
  · exact succeeds_pure trivial
  · exact (succeeds_drawn _).bind fun amount _ => succeeds_pure trivial

theorem succeeds_perform (h : supplied b = true) {call : Call} (hc : call.Admissible) :
    Succeeds Anywhere (perform b call : Gen σ Json) Any := by
  cases call with
  | company => exact (succeeds_company h).text
  | companyType short => exact (succeeds_companyType h short).text
  | copyright withYears lower upper => exact (succeeds_copyright h hc).text
  | currencyIso => exact (succeeds_drawn _).text
  | price lower upper => exact (succeeds_price b.locale hc).text
  | _ => exact succeeds_pure trivial

theorem admissible_fields : ∀ e ∈ fields, e.2.Admissible := by
  have hp : Bounds.real "price" 10.0 1000.0 = .ok () := rfl
  simp only [fields, List.forall_mem_cons, Call.Admissible, List.not_mem_nil, false_implies, implies_true, hp]
  decide

end Business

namespace Prose

def Call.Admissible : Call → Prop
  | .weather _ lower upper => lower.toInt ≤ upper.toInt
  | _ => True

def paths : List String :=
  ["alphabet.lowercase", "alphabet.uppercase", "level", "text", "words", "swear_words", "quotes", "color", "answers"]

def supplied (b : Bundle) : Bool := b.stocks paths

variable {b : Bundle}

theorem succeeds_alphabet {s : Type} {I : s → Prop} (h : supplied b = true) (small : Bool) :
    Succeeds I (alphabet b small) Any := by
  have hp : (if small then "alphabet.lowercase" else "alphabet.uppercase") ∈ paths := by cases small <;> decide
  obtain ⟨letters, hl⟩ := Bundle.exists_strings (Bundle.offers_of_stocks h hp)
  simp only [alphabet, hl]
  exact succeeds_pure trivial

theorem succeeds_text (h : supplied b = true) (quantity : ℕ) : Succeeds Anywhere (text b quantity : Gen σ String) Any := by
  have hp : Succeeds Anywhere (b.pick "text" : Gen σ String) Any := Bundle.succeeds_pick_of_stocks h (by decide)
  exact (hp.times quantity).bind fun _ _ => succeeds_pure trivial

theorem succeeds_word (h : supplied b = true) : Succeeds Anywhere (word b : Gen σ String) Any :=
  Bundle.succeeds_pick_of_stocks h (by decide)

theorem succeeds_weather (scale : TemperatureScale) {lower upper : Int32} (h : lower.toInt ≤ upper.toInt) :
    Succeeds Anywhere (weather scale lower upper : Gen σ String) Any :=
  (succeeds_whole _ h).bind fun _ _ => (succeeds_drawn _).bind fun _ _ => succeeds_pure trivial

theorem succeeds_perform (h : supplied b = true) {call : Call} (hc : call.Admissible) :
    Succeeds Anywhere (perform b call : Gen σ Json) Any := by
  have hp : ∀ {path : String}, path ∈ paths → Succeeds Anywhere (b.pick path : Gen σ String) Any :=
    Bundle.succeeds_pick_of_stocks h
  cases call with
  | alphabet small => exact (succeeds_alphabet h small).texts
  | level => exact (hp (by decide)).text
  | text quantity => exact (succeeds_text h quantity).text
  | sentence => exact (succeeds_text h 1).text
  | title => exact (succeeds_text h 1).text
  | words quantity => exact ((hp (by decide)).times quantity).texts
  | word => exact (succeeds_word h).text
  | swearWord => exact (hp (by decide)).text
  | quote => exact (hp (by decide)).text
  | color => exact (hp (by decide)).text
  | hexColor => exact (succeeds_drawn _).text
  | weather scale lower upper => exact (succeeds_weather scale hc).text
  | answer => exact (hp (by decide)).text
  | describe => exact succeeds_pure trivial
  | locale => exact succeeds_pure trivial

theorem admissible_fields : ∀ e ∈ fields, e.2.Admissible := by
  simp only [fields, List.forall_mem_cons, Call.Admissible, List.not_mem_nil, false_implies, implies_true]
  decide

end Prose

namespace Address

def Call.Admissible : Call → Prop
  | .streetNumber greatest => greatest ≠ 0
  | _ => True

def paths : List String := ["street.name", "street.suffix", "city", "state.name", "state.abbr", "country.name"]

def Part.isKnown : Part → Bool
  | .literal _ => true
  | .placeholder name => String.ofList name ∈ ["st_num", "st_name", "st_sfx", "city"]
  | .unclosed => false

def supplied (b : Bundle) : Bool :=
  b.stocks paths && (b.holds "postal_code_fmt" fun _ => true) &&
    b.holds "address_fmt" fun template => (partsFrom none template.toList).all Part.isKnown

variable {b : Bundle}

theorem Part.known_of_isKnown {part : Part} (h : part.isKnown = true) : part.Known := by
  cases part with
  | literal c => trivial
  | unclosed => cases h
  | placeholder name =>
    have hn : String.ofList name ∈ ["st_num", "st_name", "st_sfx", "city"] := of_decide_eq_true h
    have hv : ∀ v : Value, String.ofList name = v.name → v.name.toList = name := by
      intro v hv
      rw [← hv, String.toList_ofList]
    simp only [List.mem_cons, List.not_mem_nil, or_false] at hn
    rcases hn with hn | hn | hn | hn
    · exact ⟨.streetNumber, hv _ hn⟩
    · exact ⟨.streetName, hv _ hn⟩
    · exact ⟨.streetSuffix, hv _ hn⟩
    · exact ⟨.city, hv _ hn⟩

theorem succeeds_address (h : supplied b = true) : Succeeds Anywhere (address b : Gen σ String) Any := by
  obtain ⟨hrest, hformat⟩ := Bool.and_eq_true_iff.mp h
  obtain ⟨hpaths, _⟩ := Bool.and_eq_true_iff.mp hrest
  refine (Bundle.succeeds_text hformat).bind fun template ht => ?_
  rw [mapM_eq_inTurn]
  have hparts := List.all_eq_true.mp ht
  have hknown : ∀ part ∈ partsFrom none template.toList, part.Known := fun part hp => Part.known_of_isKnown (hparts part hp)
  have hvalues : ∀ v : Value, Succeeds Anywhere (v.draw b : Gen σ String) Any := by
    refine succeeds_value fun path hp => Bundle.succeeds_pick_of_stocks hpaths ?_
    exact List.mem_append_left ["state.name", "state.abbr", "country.name"] hp
  exact (Succeeds.inTurn fun part hp => succeeds_renderPart hvalues template (hknown part hp)).bind fun _ _ =>
    succeeds_pure trivial

theorem succeeds_postalCode (h : supplied b = true) : Succeeds Anywhere (postalCode b : Gen σ String) Any := by
  obtain ⟨hrest, _⟩ := Bool.and_eq_true_iff.mp h
  obtain ⟨_, hformat⟩ := Bool.and_eq_true_iff.mp hrest
  exact (Bundle.succeeds_text hformat).bind fun mask _ => succeeds_drawn _

theorem succeeds_perform (h : supplied b = true) {call : Call} (hc : call.Admissible) :
    Succeeds Anywhere (perform b call : Gen σ Json) Any := by
  have hpaths : b.stocks paths = true := (Bool.and_eq_true_iff.mp (Bool.and_eq_true_iff.mp h).1).1
  have hp : ∀ {path : String}, path ∈ paths → Succeeds Anywhere (b.pick path : Gen σ String) Any :=
    Bundle.succeeds_pick_of_stocks hpaths
  cases call with
  | streetNumber greatest => exact (succeeds_streetNumber hc).text
  | streetName => exact (hp (by decide)).text
  | streetSuffix => exact (hp (by decide)).text
  | address => exact (succeeds_address h).text
  | state short =>
    cases short with
    | true => exact (hp (by decide)).text
    | false => exact (hp (by decide)).text
  | postalCode => exact (succeeds_postalCode h).text
  | country => exact (hp (by decide)).text
  | countryIso format => exact (succeeds_drawn _).text
  | city => exact (hp (by decide)).text
  | latitude => exact (succeeds_drawn _).double
  | longitude => exact (succeeds_drawn _).double
  | coordinates => exact succeeds_drawn coordinates
  | describe => exact succeeds_pure trivial
  | locale => exact succeeds_pure trivial

theorem admissible_fields : ∀ e ∈ fields, e.2.Admissible := by
  simp only [fields, List.forall_mem_cons, Call.Admissible, List.not_mem_nil, false_implies, implies_true]
  decide

end Address

end SampleData
