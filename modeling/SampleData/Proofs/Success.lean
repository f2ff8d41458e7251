import SampleData.Proofs.Random.Draws
import SampleData.Proofs.Steps
import SampleData.Provider.Bounds
import SampleData.Provider.Stocked

/-! # Steps that succeed

A step succeeds where a condition holds if from every state with the condition it answers, the answer is as asked
for, and the condition holds again behind it. What is composed of steps that succeed succeeds.
-/
namespace SampleData

theorem exists_mapM_ok {ε α β : Type} {f : α → Except ε β} {as : List α} (h : ∀ a ∈ as, ∃ b, f a = .ok b) :
    ∃ bs, as.mapM f = .ok bs := by
  induction as with
  | nil => exact ⟨[], rfl⟩
  | cons a as ih =>
    obtain ⟨⟨b, hb⟩, hs⟩ := List.forall_mem_cons.mp h
    obtain ⟨bs, hbs⟩ := ih hs
    refine ⟨b :: bs, ?_⟩
    rw [List.mapM_cons, hb, hbs]
    rfl

theorem exists_of_mapM_ok {ε α β : Type} {f : α → Except ε β} {as : List α} {bs : List β} (h : as.mapM f = .ok bs) :
    as.length = bs.length ∧ ∀ a ∈ as, ∃ b ∈ bs, f a = .ok b := by
  induction as generalizing bs with
  | nil =>
    cases h
    exact ⟨rfl, List.forall_mem_nil _⟩
  | cons a as ih =>
    rw [List.mapM_cons] at h
    cases ha : f a with
    | error e =>
      rw [ha] at h
      cases h
    | ok b =>
      cases hs : as.mapM f with
      | error e =>
        rw [ha, hs] at h
        cases h
      | ok rest =>
        rw [ha, hs] at h
        cases h
        obtain ⟨hl, hall⟩ := ih hs
        refine ⟨by simp [hl], List.forall_mem_cons.mpr ⟨⟨b, List.mem_cons_self, ha⟩, fun c hc => ?_⟩⟩
        obtain ⟨d, hd, hf⟩ := hall c hc
        exact ⟨d, List.mem_cons_of_mem _ hd, hf⟩

/-- Where a condition on each item decides whether it is accepted, it decides so for all of them. -/
theorem mapM_eq_ok_iff {ε α β : Type} {f : α → Except ε β} {P : α → Prop} {g : α → β}
    (h : ∀ a b, f a = .ok b ↔ P a ∧ b = g a) {as : List α} {bs : List β} :
    as.mapM f = .ok bs ↔ (∀ a ∈ as, P a) ∧ bs = as.map g := by
  induction as generalizing bs with
  | nil =>
    rw [List.mapM_nil, List.map_nil]
    exact ⟨fun hb => ⟨List.forall_mem_nil P, (Except.ok.inj hb).symm⟩, fun hb => hb.2 ▸ rfl⟩
  | cons a as ih =>
    rw [List.mapM_cons, List.forall_mem_cons, List.map_cons]
    cases ha : f a with
    | error e =>
      have hp : ¬ P a := fun hp => by cases ha.symm.trans ((h a (g a)).mpr ⟨hp, rfl⟩)
      exact ⟨nofun, fun hb => absurd hb.1.1 hp⟩
    | ok b =>
      obtain ⟨hp, rfl⟩ := (h a b).mp ha
      cases hs : as.mapM f with
      | error e =>
        have hn : ¬ ∀ a ∈ as, P a := fun hall => by cases hs.symm.trans (ih.mpr ⟨hall, rfl⟩)
        exact ⟨nofun, fun hb => absurd hb.1.2 hn⟩
      | ok rest =>
        obtain ⟨hall, rfl⟩ := ih.mp hs
        exact ⟨fun hb => ⟨⟨hp, hall⟩, (Except.ok.inj hb).symm⟩, fun hb => hb.2 ▸ rfl⟩

namespace Gen

variable {s t α β γ : Type} {I : s → Prop} {P Q : α → Prop} {R : β → Prop}

def Succeeds (I : s → Prop) (step : Gen s α) (Q : α → Prop) : Prop :=
  ∀ st, I st → ∃ a st', step st = .ok a st' ∧ Q a ∧ I st'

abbrev Anywhere : s → Prop := fun _ => True

abbrev Any : α → Prop := fun _ => True

theorem succeeds_pure {a : α} (h : Q a) : Succeeds I (pure a) Q := by
  intro st hst
  exact ⟨a, st, rfl, h, hst⟩

/-- Steps that are sure to succeed do so one behind the other. -/
theorem Succeeds.bind {x : Gen s α} {f : α → Gen s β} (hx : Succeeds I x Q) (hf : ∀ a, Q a → Succeeds I (f a) R) :
    Succeeds I (x >>= f) R := by
  intro st hst
  obtain ⟨a, mid, ho, ha, hm⟩ := hx st hst
  obtain ⟨b, st', hb, hr, hst'⟩ := hf a ha mid hm
  exact ⟨b, st', (bind_of_ok ho).trans hb, hr, hst'⟩

theorem Succeeds.map {x : Gen s α} {f : α → β} (hx : Succeeds I x Q) (hf : ∀ a, Q a → R (f a)) :
    Succeeds I (f <$> x) R := by
  rw [map_eq_pure_bind]
  exact hx.bind fun a ha => succeeds_pure (hf a ha)

theorem Succeeds.any {x : Gen s α} (hx : Succeeds I x Q) : Succeeds I x Any := by
  intro st hst
  obtain ⟨a, st', ho, _, hst'⟩ := hx st hst
  exact ⟨a, st', ho, trivial, hst'⟩

theorem Succeeds.inTurn {step : β → Gen s α} {bs : List β} (h : ∀ b ∈ bs, Succeeds I (step b) Q) :
    Succeeds I (inTurn step bs) fun as => as.length = bs.length ∧ ∀ a ∈ as, Q a := by
  induction bs with
  | nil => exact succeeds_pure ⟨rfl, by simp⟩
  | cons b bs ih =>
    obtain ⟨hb, hbs⟩ := List.forall_mem_cons.mp h
    rw [inTurn_cons]
    refine hb.bind fun a ha => (ih hbs).map ?_
    rintro as ⟨hl, has⟩
    exact ⟨by simp [hl], List.forall_mem_cons.mpr ⟨ha, has⟩⟩

theorem Succeeds.times {step : Gen s α} (h : Succeeds I step Q) (n : ℕ) :
    Succeeds I (Random.times n step) fun as => as.length = n ∧ ∀ a ∈ as, Q a := by
  have hs : Succeeds I (Gen.inTurn (fun _ : Unit => step) (List.replicate n ())) _ := Succeeds.inTurn fun _ _ => h
  rw [times_eq_inTurn]
  simpa only [List.length_replicate] using hs

theorem bind_draw_apply (x : StateM s α) (f : α → Gen s β) (st : s) : (draw x >>= f) st = f (x st).1 (x st).2 :=
  bind_of_ok rfl

theorem draw_bind (x : StateM s α) (f : α → StateM s β) (g : β → Gen s γ) :
    (draw (x >>= f) >>= g) = draw x >>= fun a => draw (f a) >>= g := by
  funext st
  rw [bind_draw_apply, bind_draw_apply, bind_draw_apply, Random.bind_apply]

theorem draw_pure_bind (a : α) (g : α → Gen s β) : (draw (pure a) >>= g) = g a := by
  funext st
  rw [bind_draw_apply, Random.pure_apply]

/-- A draw cannot fail, and its answer is as asked for if every draw is. -/
theorem succeeds_draw {step : StateM s α} (h : Random.Draws step Q) : Succeeds Anywhere (draw step) Q := by
  intro st _
  exact ⟨(step st).1, (step st).2, rfl, h st, trivial⟩

theorem succeeds_drawn (step : StateM s α) : Succeeds Anywhere (draw step) Any := succeeds_draw fun _ => trivial

theorem succeeds_accept {x : Except InputFault α} {a : α} (h : x = .ok a) (ha : Q a) : Succeeds I (accept x) Q := by
  rw [h]
  exact succeeds_pure ha

theorem succeeds_whole (what : String) {lower upper : Int} (h : lower ≤ upper) :
    Succeeds I (accept (Bounds.whole what lower upper)) Any :=
  succeeds_accept (if_neg (Int.not_lt.mpr h)) trivial

theorem succeeds_real {what : String} {lower upper : Float} (h : Bounds.real what lower upper = .ok ()) :
    Succeeds I (accept (Bounds.real what lower upper)) Any :=
  succeeds_accept h trivial

theorem succeeds_unsigned (what : String) {lower upper : UInt32} (h : lower ≤ upper) :
    Succeeds I (accept (Bounds.whole what lower.toNat upper.toNat)) Any :=
  succeeds_whole what (Int.ofNat_le.mpr (UInt32.le_iff_toNat_le.mp h))

theorem accept_whole_of_le (what : String) {lower upper : ℤ} (h : lower ≤ upper) (step : Gen s α) :
    (accept (Bounds.whole what lower upper) >>= fun _ => step) = step := by
  have hw : Bounds.whole what lower upper = .ok () := if_neg (Int.not_lt.mpr h)
  rw [hw]
  rfl

theorem accept_whole_of_lt (what : String) {lower upper : ℤ} (h : upper < lower) (step : Gen s α) (st : s) :
    (accept (Bounds.whole what lower upper) >>= fun _ => step) st =
      .error (.invalidInput (.reversedBounds what (.whole lower) (.whole upper))) st := by
  have hw : Bounds.whole what lower upper = .error (.reversedBounds what (.whole lower) (.whole upper)) := if_pos h
  rw [hw]
  rfl

theorem Succeeds.onFirst {step : Gen s α} {J : s × t → Prop} (h : Succeeds I step Q) (hI : ∀ st, J st → I st.1)
    (hJ : ∀ st part, J st → I part → J (part, st.2)) : Succeeds J (onFirst step) Q := by
  intro st hst
  obtain ⟨a, part, ho, ha, hp⟩ := h st.1 (hI st hst)
  have hs : Gen.onFirst step st = .ok a (part, st.2) := by simp only [Gen.onFirst, focus, ho]
  exact ⟨a, _, hs, ha, hJ st part hst hp⟩

theorem Succeeds.text {step : Gen s String} {Q : String → Prop} (h : Succeeds I step Q) : Succeeds I step.text Any :=
  h.map fun _ _ => trivial

theorem Succeeds.texts {step : Gen s (List String)} {Q : List String → Prop} (h : Succeeds I step Q) :
    Succeeds I step.texts Any := h.map fun _ _ => trivial

theorem Succeeds.number {step : Gen s UInt32} {Q : UInt32 → Prop} (h : Succeeds I step Q) :
    Succeeds I step.number Any := h.map fun _ _ => trivial

theorem Succeeds.double {step : Gen s Float} {Q : Float → Prop} (h : Succeeds I step Q) :
    Succeeds I step.double Any := h.map fun _ _ => trivial

end Gen

end SampleData
