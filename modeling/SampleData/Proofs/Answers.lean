import SampleData.Proofs.Success

/-! # What steps answer

A step yields what is said of its answer if this holds of every answer it ever gives, whether or not there are states in
which it fails. What is composed of steps that yield something yields what follows from it.
-/
namespace SampleData

namespace Gen

variable {s t α β : Type} {Q : α → Prop} {R : β → Prop}

/-- Where the step answers at all, the answer is as said. -/
def Yields (step : Gen s α) (Q : α → Prop) : Prop := ∀ st a st', step st = .ok a st' → Q a

theorem yields_draw {step : StateM s α} (h : Random.Draws step Q) : Yields (draw step) Q := by
  intro st a st' ho
  cases ho
  exact h st

theorem Yields.bind {x : Gen s α} {f : α → Gen s β} (hx : Yields x Q) (hf : ∀ a, Q a → Yields (f a) R) :
    Yields (x >>= f) R := by
  intro st b st' ho
  obtain ⟨a, mid, ha, hb⟩ := exists_of_bind_ok ho
  exact hf a (hx st a mid ha) mid b st' hb

theorem yields_pure {a : α} (h : Q a) : Yields (pure a : Gen s α) Q := by
  intro st b st' ho
  cases ho
  exact h

theorem Yields.times {step : Gen s α} (h : Yields step Q) (n : ℕ) :
    Yields (Random.times n step) fun as => as.length = n ∧ ∀ a ∈ as, Q a := by
  intro st as st' ho
  rw [times_eq_inTurn] at ho
  refine ⟨(length_of_inTurn ho).trans List.length_replicate, fun a ha => ?_⟩
  obtain ⟨_, _, before, behind, hs⟩ := exists_of_mem_inTurn ho ha
  exact h before a behind hs

theorem exists_of_withState_ok {g : s → t} {o : Outcome s α} {a : α} {st' : t} (h : withState g o = .ok a st') :
    ∃ st, o = .ok a st := by
  cases o with
  | ok b st =>
    cases h
    exact ⟨st, rfl⟩
  | error e st => cases h

theorem exists_of_focus_ok {get : t → s} {set : t → s → t} {step : Gen s α} {st st' : t} {a : α}
    (h : focus get set step st = .ok a st') : ∃ part, step (get st) = .ok a part := by
  unfold focus at h
  cases hs : step (get st) with
  | ok b part =>
    rw [hs] at h
    cases h
    exact ⟨part, rfl⟩
  | error e part =>
    rw [hs] at h
    cases h

theorem Yields.focus {get : t → s} {set : t → s → t} {step : Gen s α} (h : Yields step Q) :
    Yields (Gen.focus get set step) Q := by
  intro st a st' ho
  obtain ⟨part, hs⟩ := exists_of_focus_ok ho
  exact h (get st) a part hs

/-- What becomes of each answer may depend on the item it is for. -/
theorem inTurn_map_zip (f : β → α → t) (step : β → Gen s α) (bs : List β) :
    inTurn (fun b => f b <$> step b) bs = List.zipWith f bs <$> inTurn step bs := by
  induction bs with
  | nil => rfl
  | cons b bs ih =>
    rw [inTurn_cons, inTurn_cons, ih]
    simp only [map_bind, bind_map_left, Functor.map_map, List.zipWith_cons_cons]

end Gen

/-- What is picked from a path is listed there. -/
theorem Bundle.exists_of_pick {σ : Type} [WordSource σ] {b : Bundle} {path text : String} {w w' : σ}
    (h : b.pick path w = .ok text w') : ∃ items, b.list path = .ok items ∧ .str text ∈ items := by
  cases hl : b.list path with
  | error fault =>
    simp only [pick, hl] at h
    cases h
  | ok items =>
    simp only [pick, hl] at h
    refine ⟨items, rfl, ?_⟩
    have hne : items ≠ [] := by
      rintro rfl
      cases h
    obtain ⟨item, hi, hc⟩ := Random.draws_choose? (σ := σ) hne w
    rw [Gen.bind_draw_apply, hc] at h
    cases item with
    | str s =>
      cases h
      exact hi
    | _ => cases h

end SampleData
