import Mathlib.Data.Nat.Notation
import SampleData.Gen
import SampleData.Random.Words

/-! # Outcomes of steps

A step ends in an answer or a failure, and leaves a state behind either way. `Gen.answer` and `Gen.left` are the
two halves of an outcome; a step keeps a part of the state when no outcome changes it.
-/
namespace SampleData.Gen

variable {s t α β γ : Type}

abbrev Outcome (s α : Type) := EStateM.Result Error s α

def answer : Outcome s α → Except Error α
  | .ok a _ => .ok a
  | .error e _ => .error e

def left : Outcome s α → s
  | .ok _ st => st
  | .error _ st => st

@[simp] theorem answer_ok (a : α) (st : s) : answer (.ok a st : Outcome s α) = .ok a := rfl

@[simp] theorem answer_error (e : Error) (st : s) : answer (.error e st : Outcome s α) = .error e := rfl

@[simp] theorem left_ok (a : α) (st : s) : left (.ok a st : Outcome s α) = st := rfl

@[simp] theorem left_error (e : Error) (st : s) : left (.error e st : Outcome s α) = st := rfl

def withState (g : s → t) : Outcome s α → Outcome t α
  | .ok a st => .ok a (g st)
  | .error e st => .error e (g st)

theorem withState_map (g : s → t) (f : α → β) {x : Gen s α} {y : Gen t α} {st : s} {st' : t}
    (h : y st' = withState g (x st)) : (f <$> y) st' = withState g ((f <$> x) st) := by
  cases hx : x st with
  | ok a st'' =>
    rw [hx] at h
    simp only [Functor.map, EStateM.map, h, hx, withState]
  | error e st'' =>
    rw [hx] at h
    simp only [Functor.map, EStateM.map, h, hx, withState]

theorem bind_of_ok {x : Gen s α} {f : α → Gen s β} {st st' : s} {a : α} (h : x st = .ok a st') :
    (x >>= f) st = f a st' := by
  simp only [bind, EStateM.bind, h]

theorem bind_of_error {x : Gen s α} {f : α → Gen s β} {st st' : s} {e : Error}
    (h : x st = .error e st') : (x >>= f) st = .error e st' := by
  simp only [bind, EStateM.bind, h]

theorem map_of_ok {x : Gen s α} {f : α → β} {st st' : s} {a : α} (h : x st = .ok a st') :
    (f <$> x) st = .ok (f a) st' := by
  simp only [Functor.map, EStateM.map, h]

theorem map_of_error {x : Gen s α} {f : α → β} {st st' : s} {e : Error} (h : x st = .error e st') :
    (f <$> x) st = .error e st' := by
  simp only [Functor.map, EStateM.map, h]

theorem exists_of_bind_ok {x : Gen s α} {f : α → Gen s β} {st st' : s} {b : β} (h : (x >>= f) st = .ok b st') :
    ∃ a mid, x st = .ok a mid ∧ f a mid = .ok b st' := by
  cases hx : x st with
  | ok a mid =>
    rw [bind_of_ok hx] at h
    exact ⟨a, mid, rfl, h⟩
  | error e mid =>
    rw [bind_of_error hx] at h
    cases h

theorem left_map (f : α → β) (x : Gen s α) (st : s) : left ((f <$> x) st) = left (x st) := by
  cases hx : x st with
  | ok a st' => rw [map_of_ok hx, left_ok, left_ok]
  | error e st' => rw [map_of_error hx, left_error, left_error]

theorem exists_of_map_ok {x : Gen s α} {f : α → β} {st st' : s} {b : β} (h : (f <$> x) st = .ok b st') :
    ∃ a, x st = .ok a st' ∧ f a = b := by
  cases hx : x st with
  | ok a st₁ =>
    rw [map_of_ok hx] at h
    cases h
    exact ⟨a, rfl, rfl⟩
  | error e st₁ =>
    rw [map_of_error hx] at h
    cases h

theorem eq_error_of_map {x : Gen s α} {f : α → β} {st st' : s} {e : Error} (h : (f <$> x) st = .error e st') :
    x st = .error e st' := by
  cases hx : x st with
  | ok a st₁ =>
    rw [map_of_ok hx] at h
    cases h
  | error e₁ st₁ =>
    rw [map_of_error hx] at h
    cases h
    rfl

/-- No outcome of the step changes what is seen of the state. -/
def Keeps (view : s → γ) (step : Gen s α) : Prop := ∀ st, view (left (step st)) = view st

theorem Keeps.of_ok {view : s → γ} {step : Gen s α} (h : Keeps view step) {st st' : s} {a : α}
    (ho : step st = .ok a st') : view st' = view st := by
  have hk := h st
  rwa [ho, left_ok] at hk

theorem Keeps.bind {view : s → γ} {x : Gen s α} {f : α → Gen s β} (hx : Keeps view x)
    (hf : ∀ a, Keeps view (f a)) : Keeps view (x >>= f) := by
  intro st
  have h := hx st
  cases hs : x st with
  | ok a st' =>
    rw [hs] at h
    rw [bind_of_ok hs, hf a st']
    exact h
  | error e st' =>
    rw [hs] at h
    rw [bind_of_error hs]
    exact h

theorem Keeps.map {view : s → γ} {x : Gen s α} (hx : Keeps view x) (f : α → β) :
    Keeps view (f <$> x) := by
  intro st
  have h := hx st
  cases hs : x st with
  | ok a st' =>
    rw [hs] at h
    rw [map_of_ok hs]
    exact h
  | error e st' =>
    rw [hs] at h
    rw [map_of_error hs]
    exact h

/-- Where the condition holds, no outcome of the step breaks it. -/
def Preserves (I : s → Prop) (step : Gen s α) : Prop := ∀ st, I st → I (left (step st))

theorem preserves_pure {I : s → Prop} (a : α) : Preserves I (pure a) := fun _ h => h

theorem preserves_throw {I : s → Prop} (e : Error) : Preserves I (throw e : Gen s α) := fun _ h => h

/-- What each of two steps preserves, both of them do. -/
theorem Preserves.bind {I : s → Prop} {x : Gen s α} {f : α → Gen s β} (hx : Preserves I x)
    (hf : ∀ a, Preserves I (f a)) : Preserves I (x >>= f) := by
  intro st hst
  have h := hx st hst
  cases hs : x st with
  | ok a st' =>
    rw [hs] at h
    rw [bind_of_ok hs]
    exact hf a st' h
  | error e st' =>
    rw [hs] at h
    rw [bind_of_error hs]
    exact h

theorem Preserves.map {I : s → Prop} {x : Gen s α} (hx : Preserves I x) (f : α → β) : Preserves I (f <$> x) := by
  intro st hst
  rw [left_map]
  exact hx st hst

theorem keeps_iff_preserves {view : s → γ} {step : Gen s α} :
    Keeps view step ↔ ∀ x, Preserves (fun st => view st = x) step := by
  constructor
  · rintro h x st rfl
    exact h st
  · intro h st
    exact h (view st) st rfl

theorem Keeps.preserves {view : s → γ} {step : Gen s α} (h : Keeps view step) (P : γ → Prop) :
    Preserves (fun st => P (view st)) step := by
  intro st hst
  rwa [h st]

theorem keeps_pure {view : s → γ} (a : α) : Keeps view (pure a) := fun _ => rfl

theorem focus_map (get : t → s) (set : t → s → t) (f : α → β) (step : Gen s α) :
    focus get set (f <$> step) = f <$> focus get set step := by
  funext st
  simp only [Functor.map, EStateM.map, focus]
  cases step (get st) <;> rfl

theorem Keeps.onFirst {view : s → γ} {step : Gen s α} (h : Keeps view step) :
    Keeps (fun st : s × t => view st.1) (onFirst step) := by
  intro st
  have hs := h st.1
  unfold Gen.onFirst focus
  cases ho : step st.1 with
  | ok a part =>
    rw [ho] at hs
    exact hs
  | error e part =>
    rw [ho] at hs
    exact hs

theorem keeps_onSecond (view : s → γ) (step : Gen t α) :
    Keeps (fun st : s × t => view st.1) (onSecond step) := by
  intro st
  unfold onSecond focus
  cases step st.2 <;> rfl

def inTurn (step : β → Gen s α) : List β → Gen s (List α)
  | [], st => .ok [] st
  | b :: bs, st =>
    match step b st with
    | .error e st => .error e st
    | .ok a st =>
      match inTurn step bs st with
      | .error e st => .error e st
      | .ok as st => .ok (a :: as) st

theorem inTurn_of_error (step : β → Gen s α) {b : β} (bs : List β) {e : Error} {st st' : s}
    (h : step b st = .error e st') : inTurn step (b :: bs) st = .error e st' := by
  simp only [inTurn, h]

theorem inTurn_of_ok (step : β → Gen s α) {b : β} (bs : List β) {a : α} {st st' : s}
    (h : step b st = .ok a st') : inTurn step (b :: bs) st = (List.cons a <$> inTurn step bs) st' := by
  cases hs : inTurn step bs st' with
  | error e st'' => simp only [inTurn, h, hs, map_of_error hs]
  | ok as st'' => simp only [inTurn, h, hs, map_of_ok hs]

theorem inTurn_cons (step : β → Gen s α) (b : β) (bs : List β) :
    inTurn step (b :: bs) = (step b >>= fun a => List.cons a <$> inTurn step bs) := by
  funext st
  cases h : step b st with
  | error e st' => rw [inTurn_of_error step bs h, bind_of_error h]
  | ok a st' => rw [inTurn_of_ok step bs h, bind_of_ok h]

theorem inTurn_map (f : α → γ) (step : β → Gen s α) (bs : List β) :
    inTurn (fun b => f <$> step b) bs = List.map f <$> inTurn step bs := by
  induction bs with
  | nil => rfl
  | cons b bs ih =>
    rw [inTurn_cons, inTurn_cons, ih]
    simp only [map_bind, bind_map_left, Functor.map_map, List.map_cons]

theorem exists_of_inTurn_cons {step : β → Gen s α} {b : β} {bs : List β} {as : List α} {st st' : s}
    (h : inTurn step (b :: bs) st = .ok as st') :
    ∃ a rest mid, step b st = .ok a mid ∧ inTurn step bs mid = .ok rest st' ∧ as = a :: rest := by
  cases hb : step b st with
  | error e mid =>
    rw [inTurn_of_error step bs hb] at h
    cases h
  | ok a mid =>
    rw [inTurn_of_ok step bs hb] at h
    obtain ⟨rest, hs, rfl⟩ := exists_of_map_ok h
    exact ⟨a, rest, mid, rfl, hs, rfl⟩

theorem length_of_inTurn {step : β → Gen s α} {bs : List β} {as : List α} {st st' : s}
    (h : inTurn step bs st = .ok as st') : as.length = bs.length := by
  induction bs generalizing st as with
  | nil =>
    cases h
    rfl
  | cons b bs ih =>
    obtain ⟨a, rest, mid, _, hs, rfl⟩ := exists_of_inTurn_cons h
    simp [ih hs]

theorem exists_of_mem_inTurn {step : β → Gen s α} {bs : List β} {as : List α} {st st' : s}
    (h : inTurn step bs st = .ok as st') {a : α} (ha : a ∈ as) :
    ∃ b ∈ bs, ∃ before behind, step b before = .ok a behind := by
  induction bs generalizing st as with
  | nil =>
    cases h
    cases ha
  | cons b bs ih =>
    obtain ⟨c, rest, mid, hb, hs, rfl⟩ := exists_of_inTurn_cons h
    rcases List.mem_cons.mp ha with rfl | ha
    · exact ⟨b, List.mem_cons_self, st, mid, hb⟩
    · obtain ⟨d, hd, before, behind, hs⟩ := ih hs ha
      exact ⟨d, List.mem_cons_of_mem _ hd, before, behind, hs⟩

/-- The error of a traversal is the error of one of its steps. -/
theorem exists_of_inTurn_error {step : β → Gen s α} {bs : List β} {e : Error} {st st' : s}
    (h : inTurn step bs st = .error e st') : ∃ b ∈ bs, ∃ before, step b before = .error e st' := by
  induction bs generalizing st with
  | nil => cases h
  | cons b bs ih =>
    cases hb : step b st with
    | error e' mid =>
      rw [inTurn_of_error step bs hb] at h
      cases h
      exact ⟨b, List.mem_cons_self, st, hb⟩
    | ok a mid =>
      rw [inTurn_of_ok step bs hb] at h
      obtain ⟨c, hc, before, hs⟩ := ih (eq_error_of_map h)
      exact ⟨c, List.mem_cons_of_mem _ hc, before, hs⟩

theorem exists_ok_of_mem_inTurn {step : β → Gen s α} {bs : List β} {as : List α} {st st' : s}
    (h : inTurn step bs st = .ok as st') {b : β} (hb : b ∈ bs) : ∃ a before behind, step b before = .ok a behind := by
  induction bs generalizing st as with
  | nil => cases hb
  | cons c bs ih =>
    obtain ⟨a, rest, mid, hc, hs, rfl⟩ := exists_of_inTurn_cons h
    rcases List.mem_cons.mp hb with rfl | hb
    · exact ⟨a, st, mid, hc⟩
    · exact ih hs hb

/-- What every step preserves, all of them in turn do. -/
theorem Preserves.inTurn {I : s → Prop} {step : β → Gen s α} {bs : List β} (h : ∀ b ∈ bs, Preserves I (step b)) :
    Preserves I (inTurn step bs) := by
  induction bs with
  | nil => exact preserves_pure []
  | cons b bs ih =>
    obtain ⟨hb, hbs⟩ := List.forall_mem_cons.mp h
    rw [inTurn_cons]
    exact hb.bind fun a => (ih hbs).map (List.cons a)

theorem Keeps.inTurn {view : s → γ} {step : β → Gen s α} {bs : List β} (h : ∀ b ∈ bs, Keeps view (step b)) :
    Keeps view (inTurn step bs) :=
  keeps_iff_preserves.mpr fun x => Preserves.inTurn fun b hb => keeps_iff_preserves.mp (h b hb) x

theorem inTurn_append (step : β → Gen s α) (bs cs : List β) :
    inTurn step (bs ++ cs) = (inTurn step bs >>= fun as => (as ++ ·) <$> inTurn step cs) := by
  induction bs with
  | nil =>
    have h : inTurn step ([] : List β) = (pure [] : Gen s (List α)) := rfl
    rw [h, pure_bind]
    simp
  | cons b bs ih =>
    rw [List.cons_append, inTurn_cons, inTurn_cons, ih]
    simp only [map_bind, bind_assoc, bind_map_left, Functor.map_map, List.cons_append]

theorem mapM_eq_inTurn (step : β → Gen s α) (bs : List β) : bs.mapM step = inTurn step bs := by
  induction bs with
  | nil => rfl
  | cons b bs ih =>
    rw [List.mapM_cons, ih, inTurn_cons]
    simp only [map_eq_pure_bind]

theorem times_eq_inTurn (n : ℕ) (step : Gen s α) :
    Random.times n step = inTurn (fun _ : Unit => step) (List.replicate n ()) := by
  induction n with
  | zero => rfl
  | succ n ih =>
    rw [List.replicate_succ, inTurn_cons, ← ih]
    rfl

theorem Preserves.times {I : s → Prop} {step : Gen s α} (h : Preserves I step) (n : ℕ) :
    Preserves I (Random.times n step) := by
  rw [times_eq_inTurn]
  exact Preserves.inTurn fun _ _ => h

end SampleData.Gen
