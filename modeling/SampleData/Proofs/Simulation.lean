import SampleData.Proofs.Steps

/-! # Steps that run alike

Two steps run alike for a relation of their states when from related states they give the same answer or the same
failure, and end in related states again. What is composed of steps that run alike runs alike.
-/
namespace SampleData.Gen

variable {s t α β γ δ : Type} {R : s → t → Prop}

/-- The same answer or the same failure, and related states. -/
inductive Matches (R : s → t → Prop) : Outcome s α → Outcome t α → Prop
  | ok {a : α} {st : s} {st' : t} (h : R st st') : Matches R (.ok a st) (.ok a st')
  | error {e : Error} {st : s} {st' : t} (h : R st st') : Matches R (.error e st) (.error e st')

namespace Matches

theorem answer_eq {x : Outcome s α} {y : Outcome t α} (h : Matches R x y) : answer x = answer y := by
  cases h <;> rfl

theorem left {x : Outcome s α} {y : Outcome t α} (h : Matches R x y) : R (Gen.left x) (Gen.left y) := by
  cases h with
  | ok h => exact h
  | error h => exact h

end Matches

def Alike (R : s → t → Prop) (x : Gen s α) (y : Gen t α) : Prop :=
  ∀ st st', R st st' → Matches R (x st) (y st')

theorem alike_pure (a : α) : Alike R (pure a) (pure a) := by
  intro st st' h
  exact .ok h

theorem alike_throw (e : Error) : Alike R (throw e : Gen s α) (throw e : Gen t α) := by
  intro st st' h
  exact .error h

/-- Steps that are alike stay alike one behind the other. -/
theorem Alike.bind {x : Gen s α} {y : Gen t α} {f : α → Gen s β} {g : α → Gen t β} (hx : Alike R x y)
    (hf : ∀ a, Alike R (f a) (g a)) : Alike R (x >>= f) (y >>= g) := by
  intro st st' h
  have hm := hx st st' h
  cases ho : x st with
  | ok a st₁ =>
    rw [ho] at hm
    generalize hp : y st' = o at hm
    cases hm with
    | ok h₁ =>
      rw [bind_of_ok ho, bind_of_ok hp]
      exact hf a _ _ h₁
  | error e st₁ =>
    rw [ho] at hm
    generalize hp : y st' = o at hm
    cases hm with
    | error h₁ =>
      rw [bind_of_error ho, bind_of_error hp]
      exact .error h₁

theorem Alike.map {x : Gen s α} {y : Gen t α} (hx : Alike R x y) (f : α → β) : Alike R (f <$> x) (f <$> y) := by
  rw [map_eq_pure_bind, map_eq_pure_bind]
  exact hx.bind fun a => alike_pure (f a)

theorem Alike.inTurn {f : β → Gen s α} {g : β → Gen t α} (h : ∀ b, Alike R (f b) (g b)) (bs : List β) :
    Alike R (inTurn f bs) (inTurn g bs) := by
  induction bs with
  | nil =>
    intro st st' hr
    exact .ok hr
  | cons b bs ih =>
    rw [inTurn_cons, inTurn_cons]
    exact (h b).bind fun a => ih.map _

theorem Alike.times {x : Gen s α} {y : Gen t α} (h : Alike R x y) (n : ℕ) :
    Alike R (Random.times n x) (Random.times n y) := by
  rw [times_eq_inTurn, times_eq_inTurn]
  exact Alike.inTurn (fun _ => h) _

def Both (Q : γ → δ → Prop) (R : s → t → Prop) (st : γ × s) (st' : δ × t) : Prop := Q st.1 st'.1 ∧ R st.2 st'.2

def Beside (R : s → t → Prop) (st : γ × s) (st' : γ × t) : Prop := st.1 = st'.1 ∧ R st.2 st'.2

theorem Alike.onFirst {Q : γ → δ → Prop} {x : Gen γ α} {y : Gen δ α} (h : Alike Q x y) :
    Alike (Both Q R) (onFirst x) (onFirst y) := by
  rintro ⟨c, st⟩ ⟨c', st'⟩ ⟨hq, hr⟩
  have hm := h c c' hq
  unfold Gen.onFirst focus
  dsimp only
  generalize x c = o at hm
  generalize y c' = o' at hm
  cases hm with
  | ok h₁ => exact .ok ⟨h₁, hr⟩
  | error h₁ => exact .error ⟨h₁, hr⟩

theorem Alike.onSecond {Q : γ → δ → Prop} {x : Gen s α} {y : Gen t α} (h : Alike R x y) :
    Alike (Both Q R) (onSecond x) (onSecond y) := by
  rintro ⟨c, st⟩ ⟨c', st'⟩ ⟨hq, hr⟩
  have hm := h st st' hr
  unfold Gen.onSecond focus
  dsimp only
  generalize x st = o at hm
  generalize y st' = o' at hm
  cases hm with
  | ok h₁ => exact .ok ⟨hq, h₁⟩
  | error h₁ => exact .error ⟨hq, h₁⟩

theorem alike_refl (step : Gen s α) : Alike Eq step step := by
  rintro st _ rfl
  cases step st with
  | ok a st => exact .ok rfl
  | error e st => exact .error rfl

theorem alike_onFirst (step : Gen γ α) : Alike (Beside R) (onFirst step) (onFirst step) :=
  (alike_refl step).onFirst

theorem Alike.beside {x : Gen s α} {y : Gen t α} (h : Alike R x y) :
    Alike (Beside (γ := γ) R) (Gen.onSecond x) (Gen.onSecond y) := h.onSecond

end SampleData.Gen
