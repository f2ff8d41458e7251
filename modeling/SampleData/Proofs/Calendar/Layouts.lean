import Mathlib.Data.Int.Notation
import Mathlib.Data.Nat.Notation
import Mathlib.Tactic.SplitIfs
import SampleData.Calendar.Layout

/-! # Dates that are drawn and layouts that show them

The days that are drawn from in a month are days of that month, in every year. Whether a layout can be rendered
depends on the layout alone and not on which date or which time of day it shows.
-/
namespace SampleData.Calendar

theorem monthLength_mem (year : ℤ) (month : ℕ) : 28 ≤ monthLength year month ∧ monthLength year month ≤ 31 := by
  unfold monthLength
  split_ifs <;> omega

theorem Date.ofParts?_of_valid {year : ℤ} {month day : ℕ} (hy : firstYear ≤ year ∧ year ≤ lastYear)
    (hm : 1 ≤ month ∧ month ≤ 12) (hd : 1 ≤ day ∧ day ≤ monthLength year month) :
    ofParts? year month day = some ⟨year, month, day⟩ :=
  if_pos ⟨hy.1, hy.2, hm.1, hm.2, hd.1, hd.2⟩

theorem Date.eq_of_ofParts? {year : ℤ} {month day : ℕ} {d : Date} (h : ofParts? year month day = some d) :
    d = ⟨year, month, day⟩ := by
  unfold ofParts? at h
  split at h
  · exact (Option.some.inj h).symm
  · cases h

/-- The first day of the next month, if the calendar has one. -/
def firstOfNext? (year : ℤ) (month : ℕ) : Option Date :=
  if month = 12 then Date.ofParts? (year + 1) 1 1 else Date.ofParts? year (month + 1) 1

/-- The day before the first of the next month is the last of the month. -/
theorem day_of_previous? {year : ℤ} {month : ℕ} (hm : 1 ≤ month) {next last : Date}
    (hn : firstOfNext? year month = some next) (hl : next.previous? = some last) :
    last.day = monthLength year month := by
  unfold firstOfNext? at hn
  split at hn
  · next h12 =>
    obtain rfl := Date.eq_of_ofParts? hn
    have hp : Date.ofParts? (year + 1 - 1) 12 31 = some last := hl
    obtain rfl := Date.eq_of_ofParts? hp
    simp [monthLength, h12]
  · obtain rfl := Date.eq_of_ofParts? hn
    have hpos : 0 < month := hm
    have hp : Date.ofParts? year month (monthLength year month) = some last := by
      simpa [Date.previous?, hpos] using hl
    obtain rfl := Date.eq_of_ofParts? hp
    rfl

theorem daysIn_mem {month : ℕ} (hm : 1 ≤ month) (year : ℤ) :
    28 ≤ daysIn year month ∧ daysIn year month ≤ monthLength year month := by
  have hlen := monthLength_mem year month
  unfold daysIn
  dsimp only
  split
  · next last h =>
    obtain ⟨next, hn, hl⟩ := Option.bind_eq_some_iff.mp h
    rw [day_of_previous? hm hn hl]
    omega
  · omega

theorem isSome_mapM {α β : Type} (f : α → Option β) (as : List α) :
    (as.mapM f).isSome = as.all fun a => (f a).isSome := by
  induction as with
  | nil => rfl
  | cons a as ih =>
    rw [List.mapM_cons, List.all_cons, ← ih]
    cases f a with
    | none => rfl
    | some b => cases as.mapM f <;> rfl

def Subject.Akin : Subject → Subject → Prop
  | .date _, .date _ => True
  | .time _, .time _ => True
  | _, _ => False

theorem Item.isSome_render? (item : Item) {s s' : Subject} (h : s.Akin s') :
    (item.render? s).isSome = (item.render? s').isSome := by
  cases s with
  | date d =>
    cases s' with
    | time t => cases h
    | date d' =>
      cases item with
      | number field padding => cases field <;> rfl
      | _ => rfl
  | time t =>
    cases s' with
    | date d => cases h
    | time t' =>
      cases item with
      | number field padding => cases field <;> rfl
      | _ => rfl

/-- Whether a layout can be shown does not depend on which date or which time it is shown for. -/
theorem isSome_render? (layout : String) {s s' : Subject} (h : s.Akin s') :
    (render? layout s).isSome = (render? layout s').isSome := by
  have hr : ∀ s, (render? layout s).isSome =
      ((items? layout).any fun items => items.all fun item => (item.render? s).isSome) := by
    intro s
    unfold render?
    cases items? layout with
    | none => rfl
    | some items =>
      have hm := isSome_mapM (fun item : Item => item.render? s) items
      rw [Option.any_some, ← hm, Option.bind_eq_bind, Option.bind_some]
      cases items.mapM fun item => item.render? s <;> rfl
  rw [hr, hr]
  simp only [Item.isSome_render? _ h]

/-- Whether a layout shows dates, tried on one date. -/
def showsDates (layout : String) : Bool := (render? layout (.date ⟨2000, 1, 1⟩)).isSome

def showsTimes (layout : String) : Bool := (render? layout (.time ⟨0, 0, 0, 0⟩)).isSome

theorem exists_render_date {layout : String} (h : showsDates layout = true) (d : Date) :
    ∃ text, render? layout (.date d) = some text := by
  have hs : (render? layout (.date d)).isSome = (render? layout (.date ⟨2000, 1, 1⟩)).isSome :=
    isSome_render? layout trivial
  exact Option.isSome_iff_exists.mp (hs.trans h)

theorem exists_render_time {layout : String} (h : showsTimes layout = true) (t : TimeOfDay) :
    ∃ text, render? layout (.time t) = some text := by
  have hs : (render? layout (.time t)).isSome = (render? layout (.time ⟨0, 0, 0, 0⟩)).isSome :=
    isSome_render? layout trivial
  exact Option.isSome_iff_exists.mp (hs.trans h)

end SampleData.Calendar
