import Mathlib.Tactic.IntervalCases
import SampleData.Proofs.Calendar.Layouts
import SampleData.Proofs.Random.Reached
import SampleData.Proofs.Success
import SampleData.Provider.Datetime

/-! # Drawn dates and times

The length of a month is found by stepping back from the first day of the next one, and it is the length that the
Gregorian rule gives wherever there is such a day. So the day that is drawn is always a day of its month, and a call
for a date in a year of the calendar can only fail over the layout. All draws come before the layout is looked at.
-/
namespace SampleData

namespace Calendar

def IsLeapYear (year : ℤ) : Prop := 4 ∣ year ∧ (¬ 100 ∣ year ∨ 400 ∣ year)

instance (year : ℤ) : Decidable (IsLeapYear year) := inferInstanceAs (Decidable (_ ∧ _))

def gregorianLengths (year : ℤ) : List ℕ :=
  [31, if IsLeapYear year then 29 else 28, 31, 30, 31, 30, 31, 31, 30, 31, 30, 31]

def gregorianLength (year : ℤ) (month : ℕ) : ℕ := (gregorianLengths year).getD (month - 1) 0

def InCalendar (year : ℤ) : Prop := firstYear ≤ year ∧ year ≤ lastYear

theorem isLeap_iff (year : ℤ) : isLeap year = true ↔ IsLeapYear year := by
  unfold isLeap IsLeapYear
  simp only [Bool.and_eq_true, Bool.or_eq_true, beq_iff_eq, bne_iff_ne, Int.dvd_iff_emod_eq_zero]

theorem monthLength_eq (year : ℤ) {month : ℕ} (hm : 1 ≤ month ∧ month ≤ 12) :
    monthLength year month = gregorianLength year month := by
  obtain ⟨hfirst, hlast⟩ := hm
  have hleap := isLeap_iff year
  interval_cases month <;> simp [monthLength, gregorianLength, gregorianLengths, hleap]

/-- The next month starts with a date, save behind the last month of the calendar. -/
theorem exists_firstOfNext {year : ℤ} {month : ℕ} (hy : InCalendar year) (hm : 1 ≤ month ∧ month ≤ 12)
    (hlast : ¬ (year = lastYear ∧ month = 12)) : ∃ next, firstOfNext? year month = some next := by
  obtain ⟨hfrom, hto⟩ := hy
  unfold firstOfNext?
  split_ifs with h12
  · have hbefore : year < lastYear := lt_of_le_of_ne hto fun hy => hlast ⟨hy, h12⟩
    have hlength := monthLength_mem (year + 1) 1
    exact ⟨_, Date.ofParts?_of_valid ⟨by omega, by omega⟩ (by decide) ⟨le_rfl, by omega⟩⟩
  · have hlength := monthLength_mem year (month + 1)
    exact ⟨_, Date.ofParts?_of_valid ⟨hfrom, hto⟩ ⟨by omega, by omega⟩ ⟨le_rfl, by omega⟩⟩

theorem exists_previous {year : ℤ} {month : ℕ} (hy : InCalendar year) (hm : 1 ≤ month ∧ month ≤ 12) {next : Date}
    (hn : firstOfNext? year month = some next) : ∃ last, next.previous? = some last := by
  obtain ⟨hfirst, hlast⟩ := hm
  unfold firstOfNext? at hn
  split_ifs at hn with h12
  · obtain rfl := Date.eq_of_ofParts? hn
    have hdecember : monthLength year 12 = 31 := rfl
    have hp : Date.ofParts? (year + 1 - 1) 12 31 = some ⟨year + 1 - 1, 12, 31⟩ := by
      rw [Int.add_sub_cancel]
      exact Date.ofParts?_of_valid hy (by decide) ⟨by decide, hdecember.ge⟩
    exact ⟨_, hp⟩
  · obtain rfl := Date.eq_of_ofParts? hn
    have hlength := monthLength_mem year month
    have hp := Date.ofParts?_of_valid hy ⟨hfirst, hlast⟩ ⟨(by omega : 1 ≤ monthLength year month), le_rfl⟩
    refine ⟨⟨year, month, monthLength year month⟩, ?_⟩
    simpa [Date.previous?, show 0 < month from hfirst] using hp

/-- In every month but the last of the calendar, the days that are drawn from are all days of the month. -/
theorem daysIn_eq {year : ℤ} {month : ℕ} (hy : InCalendar year) (hm : 1 ≤ month ∧ month ≤ 12)
    (hlast : ¬ (year = lastYear ∧ month = 12)) : daysIn year month = gregorianLength year month := by
  obtain ⟨next, hn⟩ := exists_firstOfNext hy hm hlast
  obtain ⟨last, hl⟩ := exists_previous hy hm hn
  have hdays : daysIn year month = last.day := by
    unfold firstOfNext? at hn
    simp only [daysIn, hn, Option.bind_some, hl]
  rw [hdays, day_of_previous? hm.1 hn hl, monthLength_eq year hm]

/-- The calendar ends with the last month, so there is no day to step back from. -/
example : daysIn lastYear 12 = 28 := by decide

theorem render?_eq_none_of_akin {layout : String} {subject other : Subject} (h : subject.Akin other)
    (hn : render? layout subject = none) : render? layout other = none := by
  have hsame := isSome_render? layout h
  rw [hn] at hsame
  exact Option.isNone_iff_eq_none.mp (Option.isSome_eq_false_iff.mp hsame.symm)

end Calendar

namespace Datetime

open Gen

variable {b : Bundle} {path : String} {layout : Option String}

def asked (b : Bundle) (path : String) : Option String → Except BundleFault String
  | some layout => .ok layout
  | none => b.string path

def shown (b : Bundle) (path : String) (layout : Option String) (subject : Calendar.Subject) : Except Error String :=
  match asked b path layout with
  | .error fault => .error (.invalidBundle fault)
  | .ok layout =>
    match Calendar.render? layout subject with
    | some text => .ok text
    | none => .error (.invalidInput (.unrenderable layout))

theorem rendered_eq {s : Type} (b : Bundle) (path : String) (layout : Option String) (subject : Calendar.Subject) :
    (rendered b path layout subject : Gen s String) = Gen.ofExcept (shown b path layout subject) := by
  have hgiven : ∀ layout : String, (rendered b path (some layout) subject : Gen s String) =
      Gen.ofExcept (shown b path (some layout) subject) := by
    intro layout
    simp only [rendered, pure_bind, shown, asked]
    cases Calendar.render? layout subject <;> rfl
  cases layout with
  | some layout => exact hgiven layout
  | none =>
    cases hs : b.string path with
    | error fault =>
      simp only [rendered, Bundle.text, shown, asked, hs]
      rfl
    | ok layout =>
      have hr : (rendered b path none subject : Gen s String) = rendered b path (some layout) subject := by
        simp only [rendered, Bundle.text, hs, pure_bind]
      have hf : shown b path none subject = shown b path (some layout) subject := by simp only [shown, asked, hs]
      rw [hr, hf]
      exact hgiven layout

theorem answer_ofExcept {s α : Type} (x : Except Error α) (st : s) : answer (Gen.ofExcept x st) = x := by
  cases x <;> rfl

theorem left_ofExcept {s α : Type} (x : Except Error α) (st : s) : left (Gen.ofExcept x st) = st := by
  cases x <;> rfl

/-- The layout that is asked for cannot show any subject of the kind, and the fault says so. -/
def LayoutFault (b : Bundle) (path : String) (layout : Option String) (subject : Calendar.Subject)
    (fault : InputFault) : Prop :=
  ∃ text, asked b path layout = .ok text ∧ fault = .unrenderable text ∧
    ∀ other, subject.Akin other → Calendar.render? text other = none

/-- A layout that fails on one subject fails on all subjects of its kind. -/
theorem layoutFault_of_shown {subject : Calendar.Subject} {fault : InputFault}
    (h : shown b path layout subject = .error (.invalidInput fault)) : LayoutFault b path layout subject fault := by
  unfold shown at h
  split at h
  · cases h
  · next text ha =>
    split at h
    · cases h
    · next hr =>
      obtain rfl := Error.invalidInput.inj (Except.error.inj h)
      exact ⟨text, ha, rfl, fun other hakin => Calendar.render?_eq_none_of_akin hakin hr⟩

/-- Which error there is depends on the kind of the subject alone. -/
theorem shown_error_of_akin {subject other : Calendar.Subject} (ha : subject.Akin other) {e : Error}
    (h : shown b path layout subject = .error e) : shown b path layout other = .error e := by
  unfold shown at h ⊢
  split at h
  · exact h
  · split at h
    · cases h
    · next hr =>
      simp only [Calendar.render?_eq_none_of_akin ha hr]
      exact h

structure Parts where
  year : Int32
  month : UInt32
  day : UInt32

namespace Parts

def Exist (parts : Parts) : Prop :=
  1 ≤ parts.month.toNat ∧ parts.month.toNat ≤ 12 ∧ 1 ≤ parts.day.toNat ∧
    parts.day.toNat ≤ Calendar.gregorianLength parts.year.toInt parts.month.toNat

/-- The date with these parts, which may not exist. -/
def date (parts : Parts) : Calendar.Date := ⟨parts.year.toInt, parts.month.toNat, parts.day.toNat⟩

end Parts

variable {σ : Type} [WordSource σ]

/-- What a call for a date draws, in its order. -/
def drawParts (start stop : Int32) : StateM σ Parts := do
  let year ← Random.signed start stop
  let month ← Random.unsigned 1 12
  let day ← Random.unsigned 1 (UInt32.ofNat (Calendar.daysIn year.toInt month.toNat))
  return ⟨year, month, day⟩

def complete (b : Bundle) (layout : Option String) (parts : Parts) : Gen σ String :=
  match Calendar.Date.ofParts? parts.year.toInt parts.month.toNat parts.day.toNat with
  | some d => rendered b "formats.date" layout (.date d)
  | none => throw (.invalidInput (.notADate parts.year.toInt parts.month.toNat parts.day.toNat))

theorem date_apply {start stop : Int32} (h : start.toInt ≤ stop.toInt) (w : σ) :
    date b start stop layout w = complete b layout (drawParts start stop w).1 (drawParts start stop w).2 := by
  have hw : Bounds.whole "year" start.toInt stop.toInt = .ok () := if_neg (Int.not_lt.mpr h)
  have heq : (date b start stop layout : Gen σ String) = draw (drawParts start stop) >>= complete b layout := by
    simp only [date, year, hw, accept, pure_bind, drawParts, draw_bind, draw_pure_bind]
    rfl
  rw [heq, bind_draw_apply]

theorem draws_day {year : ℤ} {month : ℕ} (hm : 1 ≤ month ∧ month ≤ 12) :
    Random.Draws (Random.unsigned 1 (UInt32.ofNat (Calendar.daysIn year month)) : StateM σ UInt32) fun d =>
      1 ≤ d.toNat ∧ d.toNat ≤ Calendar.gregorianLength year month := by
  obtain ⟨hleast, hmost⟩ := Calendar.daysIn_mem hm.1 year
  have hlength := (Calendar.monthLength_mem year month).2
  have hn : (UInt32.ofNat (Calendar.daysIn year month)).toNat = Calendar.daysIn year month := by
    rw [UInt32.toNat_ofNat']
    omega
  have hone : (1 : UInt32) ≤ UInt32.ofNat (Calendar.daysIn year month) := by
    rw [UInt32.le_iff_toNat_le, hn]
    exact le_trans (by decide) hleast
  refine (Random.draws_unsigned hone).imp ?_
  rintro d ⟨hfrom, hto⟩
  rw [hn] at hto
  rw [← Calendar.monthLength_eq year hm]
  exact ⟨hfrom, le_trans hto hmost⟩

/-- The drawn parts are those of a date that exists, in a year of the range. -/
theorem draws_parts {start stop : Int32} (h : start.toInt ≤ stop.toInt) :
    Random.Draws (drawParts start stop : StateM σ Parts) fun parts =>
      (start.toInt ≤ parts.year.toInt ∧ parts.year.toInt ≤ stop.toInt) ∧ parts.Exist := by
  have hmonth : Random.Draws (Random.unsigned 1 12 : StateM σ UInt32) fun m => 1 ≤ m.toNat ∧ m.toNat ≤ 12 :=
    Random.draws_unsigned (by decide)
  have hyear : Random.Draws (Random.signed start stop : StateM σ Int32) fun n =>
      start.toInt ≤ n.toInt ∧ n.toInt ≤ stop.toInt := Random.signed_mem h
  exact hyear.bind fun year hy => hmonth.bind fun month hm => (draws_day hm).bind fun day hd =>
    Random.draws_pure ⟨hy, hm.1, hm.2, hd.1, hd.2⟩

omit [WordSource σ] in
theorem complete_of_exist {parts : Parts} (hy : Calendar.InCalendar parts.year.toInt) (he : parts.Exist) :
    (complete b layout parts : Gen σ String) = Gen.ofExcept (shown b "formats.date" layout (.date parts.date)) := by
  obtain ⟨hfrom, hto, hday, hlength⟩ := he
  rw [← Calendar.monthLength_eq _ ⟨hfrom, hto⟩] at hlength
  unfold complete
  rw [Calendar.Date.ofParts?_of_valid hy ⟨hfrom, hto⟩ ⟨hday, hlength⟩]
  exact rendered_eq b _ layout _

omit [WordSource σ] in
theorem complete_of_not_inCalendar {parts : Parts} (hy : ¬ Calendar.InCalendar parts.year.toInt) :
    (complete b layout parts : Gen σ String) =
      throw (.invalidInput (.notADate parts.year.toInt parts.month.toNat parts.day.toNat)) := by
  have hn : Calendar.Date.ofParts? parts.year.toInt parts.month.toNat parts.day.toNat = none :=
    if_neg fun h => hy ⟨h.1, h.2.1⟩
  unfold complete
  rw [hn]

structure Dated (b : Bundle) (start stop : Int32) (w : σ) (parts : Parts) (behind : σ) : Prop where
  year : start.toInt ≤ parts.year.toInt ∧ parts.year.toInt ≤ stop.toInt
  /-- The next year, which the length of December is found with, is a machine number as well. -/
  following : (parts.year + 1).toInt = parts.year.toInt + 1
  exist : parts.Exist
  rendered : Calendar.InCalendar parts.year.toInt → ∀ layout,
    answer (date b start stop layout w) = shown b "formats.date" layout (.date parts.date)
  layoutFault : Calendar.InCalendar parts.year.toInt → ∀ layout fault,
    answer (date b start stop layout w) = .error (.invalidInput fault) →
      LayoutFault b "formats.date" layout (.date parts.date) fault
  refused : ¬ Calendar.InCalendar parts.year.toInt → ∀ layout, answer (date b start stop layout w) =
    .error (.invalidInput (.notADate parts.year.toInt parts.month.toNat parts.day.toNat))
  left : ∀ layout, left (date b start stop layout w) = behind

theorem toInt_following {year stop : Int32} (h : year.toInt ≤ stop.toInt) (hs : stop.toInt < 2147483647) :
    (year + 1).toInt = year.toInt + 1 := by
  have hleast := year.le_toInt
  have hone : (1 : Int32).toInt = 1 := rfl
  rw [Int32.toInt_add, hone]
  exact Int.bmod_eq_of_le (by omega) (by omega)

/-- A call for a date draws a date that exists, and can fail because of the layout only. -/
theorem dated {start stop : Int32} (h : start.toInt ≤ stop.toInt) (hs : stop.toInt < 2147483647) (w : σ) :
    Dated b start stop w (drawParts start stop w).1 (drawParts start stop w).2 := by
  obtain ⟨hyear, hexist⟩ := draws_parts h w
  have hrendered : Calendar.InCalendar (drawParts start stop w).1.year.toInt → ∀ layout,
      answer (date b start stop layout w) = shown b "formats.date" layout (.date (drawParts start stop w).1.date) := by
    intro hy layout
    rw [date_apply h, complete_of_exist hy hexist, answer_ofExcept]
  refine ⟨hyear, toInt_following hyear.2 hs, hexist, hrendered, ?_, ?_, ?_⟩
  · intro hy layout fault hf
    rw [hrendered hy] at hf
    exact layoutFault_of_shown hf
  · intro hy layout
    rw [date_apply h, complete_of_not_inCalendar hy]
    rfl
  · intro layout
    rw [date_apply h]
    by_cases hy : Calendar.InCalendar (drawParts start stop w).1.year.toInt
    · rw [complete_of_exist hy hexist, left_ofExcept]
    · rw [complete_of_not_inCalendar hy]
      rfl

def drawTime : StateM σ Calendar.TimeOfDay := do
  let hour ← Random.index 24
  let minute ← Random.index 60
  let second ← Random.index 60
  let micro ← Random.index 1000000
  return ⟨hour, minute, second, micro⟩

def Ordinary (t : Calendar.TimeOfDay) : Prop := t.hour < 24 ∧ t.minute < 60 ∧ t.second < 60 ∧ t.micro < 1000000

def finish (b : Bundle) (layout : Option String) (t : Calendar.TimeOfDay) : Gen σ String :=
  match Calendar.TimeOfDay.ofParts? t.hour t.minute t.second t.micro with
  | some t => rendered b "formats.time" layout (.time t)
  | none => throw (.invalidInput .notATime)

omit [WordSource σ] in
theorem finish_of_ordinary {t : Calendar.TimeOfDay} (h : Ordinary t) :
    (finish b layout t : Gen σ String) = Gen.ofExcept (shown b "formats.time" layout (.time t)) := by
  have ht : Calendar.TimeOfDay.ofParts? t.hour t.minute t.second t.micro = some t :=
    if_pos ⟨h.1, h.2.1, h.2.2.1, .inl h.2.2.2⟩
  unfold finish
  rw [ht]
  exact rendered_eq b _ layout _

theorem draws_time : Random.Draws (drawTime : StateM σ Calendar.TimeOfDay) Ordinary :=
  (Random.draws_index (by decide)).bind fun _ hhour => (Random.draws_index (by decide)).bind fun _ hminute =>
    (Random.draws_index (by decide)).bind fun _ hsecond => (Random.draws_index (by decide)).bind fun _ hmicro =>
      Random.draws_pure ⟨hhour, hminute, hsecond, hmicro⟩

theorem time_apply (w : σ) :
    time b layout w = Gen.ofExcept (shown b "formats.time" layout (.time (drawTime w).1)) (drawTime w).2 := by
  have heq : (time b layout : Gen σ String) = draw drawTime >>= finish b layout := by
    simp only [time, drawTime, draw_bind, draw_pure_bind]
    rfl
  rw [heq, bind_draw_apply, finish_of_ordinary (draws_time w)]

structure Timed (b : Bundle) (w : σ) (t : Calendar.TimeOfDay) (behind : σ) : Prop where
  ordinary : Ordinary t
  rendered : ∀ layout, answer (time b layout w) = shown b "formats.time" layout (.time t)
  layoutFault : ∀ layout fault, answer (time b layout w) = .error (.invalidInput fault) →
    LayoutFault b "formats.time" layout (.time t) fault
  /-- A failure has nothing to do with what is drawn. -/
  alike : ∀ layout e, answer (time b layout w) = .error e → ∀ other : σ, answer (time b layout other) = .error e
  left : ∀ layout, left (time b layout w) = behind

/-- A call for a time draws an ordinary time of day, and can fail because of the layout only. -/
theorem timed (w : σ) : Timed b w (drawTime w).1 (drawTime w).2 := by
  have hrendered : ∀ layout (w : σ), answer (time b layout w) = shown b "formats.time" layout (.time (drawTime w).1) := by
    intro layout w
    rw [time_apply, answer_ofExcept]
  refine ⟨draws_time w, fun layout => hrendered layout w, ?_, ?_, ?_⟩
  · intro layout fault hf
    rw [hrendered] at hf
    exact layoutFault_of_shown hf
  · intro layout e he other
    have hakin : Calendar.Subject.Akin (.time (drawTime w).1) (.time (drawTime other).1) := trivial
    rw [hrendered] at he ⊢
    exact shown_error_of_akin hakin he
  · intro layout
    rw [time_apply, left_ofExcept]

/-- Months have their Gregorian lengths, so the dates that are drawn in years of the calendar exist, as do the times. -/
theorem drawn_valid :
    (∀ (year : ℤ) (month : ℕ), Calendar.InCalendar year → 1 ≤ month ∧ month ≤ 12 →
      ¬ (year = Calendar.lastYear ∧ month = 12) → Calendar.daysIn year month = Calendar.gregorianLength year month) ∧
    (∀ (b : Bundle) (start stop : Int32), start.toInt ≤ stop.toInt → stop.toInt < 2147483647 → ∀ w : σ,
      Dated b start stop w (drawParts start stop w).1 (drawParts start stop w).2) ∧
    (∀ (b : Bundle) (w : σ), Timed b w (drawTime w).1 (drawTime w).2) :=
  ⟨fun _ _ hy hm hlast => Calendar.daysIn_eq hy hm hlast, fun _ _ _ h hs w => dated h hs w, fun _ w => timed w⟩

def bareBundle : Bundle := ⟨domain, Locale.standard, .object []⟩

def leapDayWords : WordStream := ((WordStream.zeros.cons 4294967295).cons 400000000).cons 0

theorem drawn_valid_leapDay : Calendar.daysIn 2024 2 = 29 ∧
    Dated bareBundle 2024 2024 leapDayWords (drawParts 2024 2024 leapDayWords).1 (drawParts 2024 2024 leapDayWords).2 ∧
    (drawParts 2024 2024 leapDayWords).1 = ⟨2024, 2, 29⟩ ∧
    answer (date bareBundle 2024 2024 (some "%d.%m.%Y") leapDayWords) = .ok "29.02.2024" := by
  obtain ⟨hdays, hdated, _⟩ := @drawn_valid WordStream _
  have hlength : Calendar.daysIn 2024 2 = Calendar.gregorianLength 2024 2 :=
    hdays 2024 2 ⟨by decide, by decide⟩ (by decide) (by decide)
  exact ⟨hlength.trans (by decide), hdated bareBundle 2024 2024 (by decide) (by decide) leapDayWords, rfl, rfl⟩

end Datetime

end SampleData
