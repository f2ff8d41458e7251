import SampleData.Facade
import SampleData.Proofs.Steps

/-! # Calls on a facade

A call on a provider that is built runs on its state and puts the new state back; where it is not built yet, it is
built first, and where that fails nothing changes. On a built provider calls compose: running one step after the
other on the facade is running both on the provider.
-/
namespace SampleData

namespace Slots

variable {σ : Type}

@[simp] theorem set_set (s : Slots σ) (p : Builtin) (x y : p.State σ) : (s.set p x).set p y = s.set p y := by
  cases p <;> rfl

theorem set_of_get {s : Slots σ} {p : Builtin} {x : p.State σ} (h : s.get p = some x) : s.set p x = s := by
  obtain ⟨_, _, _, _, _, _, _, _, _, _, _, _, _, _, _, _⟩ := s
  cases p <;> · simp only [get] at h; subst h; rfl

end Slots

theorem Builtin.ofName?_name (p : Builtin) : ofName? p.name = some p := by
  cases p <;> decide

theorem Builtin.ofName?_eq_none_iff {name : String} : ofName? name = none ↔ ∀ p : Builtin, p.name ≠ name := by
  constructor
  · rintro h p rfl
    cases (ofName?_name p).symm.trans h
  · intro h
    refine List.find?_eq_none.mpr fun p _ hp => h p ?_
    exact eq_of_beq hp

theorem Builtin.mem_names_iff {name : String} : name ∈ names ↔ ∃ p : Builtin, p.name = name := by
  have hall : ∀ p : Builtin, p ∈ all := fun p => by cases p <;> decide
  simp only [names, List.mem_map, hall, true_and]

/-- The taken names are those of the providers that can be called. -/
theorem Builtin.isSome_ofName?_iff {name : String} : (ofName? name).isSome ↔ name ∈ names := by
  constructor
  · intro h
    obtain ⟨p, hp⟩ := Option.isSome_iff_exists.mp h
    have hname := List.find?_some hp
    exact mem_names_iff.mpr ⟨p, eq_of_beq hname⟩
  · intro h
    obtain ⟨p, rfl⟩ := mem_names_iff.mp h
    rw [ofName?_name]
    rfl

namespace Facade

variable {σ ι : Type} [SeededSource σ] {α β : Type} {f : Facade σ ι} {store : Store} {p : Builtin}

def place (f : Facade σ ι) (p : Builtin) (st : p.State σ × Store) : Facade σ ι × Store :=
  ({ f with slots := f.slots.set p st.1 }, st.2)

omit [SeededSource σ] in
@[simp] theorem get_place (f : Facade σ ι) (p : Builtin) (st : p.State σ × Store) :
    (f.place p st).1.slots.get p = some st.1 := by
  simp [place]

omit [SeededSource σ] in
@[simp] theorem place_place (f : Facade σ ι) (p : Builtin) (st st' : p.State σ × Store) :
    (f.place p st).1.place p st' = f.place p st' := by
  simp [place]

omit [SeededSource σ] in
theorem place_of_get {x : p.State σ} (h : f.slots.get p = some x) (store : Store) :
    f.place p (x, store) = (f, store) := by
  simp [place, Slots.set_of_get h]

theorem ensure_of_get {x : p.State σ} (h : f.slots.get p = some x) (store : Store) :
    ensure p (f, store) = .ok x (f, store) := by
  simp only [ensure, h]

theorem ensure_of_build {x : p.State σ} {after : Store} (h : f.slots.get p = none)
    (hb : p.build f.context store = .ok x after) : ensure p (f, store) = .ok x (f.place p (x, after)) := by
  simp only [ensure, h, hb, place]

theorem ensure_of_unbuildable {e : Error} {after : Store} (h : f.slots.get p = none)
    (hb : p.build f.context store = .error e after) : ensure p (f, store) = .error e (f, after) := by
  simp only [ensure, h, hb]

theorem get_of_ensure {x : p.State σ} {st st' : Facade σ ι × Store} (h : ensure p st = .ok x st') :
    st'.1.slots.get p = some x := by
  obtain ⟨f, store⟩ := st
  cases hg : f.slots.get p with
  | some y =>
    rw [ensure_of_get hg] at h
    cases h
    exact hg
  | none =>
    cases hb : p.build f.context store with
    | ok y after =>
      rw [ensure_of_build hg hb] at h
      cases h
      exact get_place f p _
    | error e after =>
      rw [ensure_of_unbuildable hg hb] at h
      cases h

/-- A step on a built provider runs on its state, and the facade keeps what is left of it. -/
theorem onProvider_of_ensure {x : p.State σ} {st st' : Facade σ ι × Store} (h : ensure p st = .ok x st')
    (step : Gen (p.State σ × Store) α) :
    onProvider p step st = Gen.withState (st'.1.place p) (step (x, st'.2)) := by
  obtain ⟨f, store⟩ := st'
  refine (Gen.bind_of_ok h).trans ?_
  dsimp only
  cases step (x, store) <;> rfl

theorem onProvider_of_get {x : p.State σ} (h : f.slots.get p = some x) (store : Store)
    (step : Gen (p.State σ × Store) α) :
    onProvider p step (f, store) = Gen.withState (f.place p) (step (x, store)) :=
  onProvider_of_ensure (ensure_of_get h store) step

/-- A call on a provider that is not built yet runs on the provider as it is built. -/
theorem onProvider_of_build {x : p.State σ} {after : Store} (h : f.slots.get p = none)
    (hb : p.build f.context store = .ok x after) (step : Gen (p.State σ × Store) α) :
    onProvider p step (f, store) = Gen.withState (f.place p) (step (x, after)) := by
  have hp : (f.place p (x, after)).1.place p = f.place p := funext fun st => place_place f p (x, after) st
  have he := onProvider_of_ensure (ensure_of_build h hb) step
  rw [hp] at he
  exact he

theorem onProvider_of_unbuildable {e : Error} {after : Store} (h : f.slots.get p = none)
    (hb : p.build f.context store = .error e after) (step : Gen (p.State σ × Store) α) :
    onProvider p step (f, store) = .error e (f, after) :=
  Gen.bind_of_error (ensure_of_unbuildable h hb)

theorem onProvider_of_failed {e : Error} {st st' : Facade σ ι × Store} (h : ensure p st = .error e st')
    (step : Gen (p.State σ × Store) α) : onProvider p step st = .error e st' :=
  Gen.bind_of_error h

theorem onProvider_map (g : α → β) (step : Gen (p.State σ × Store) α) :
    (onProvider p (g <$> step) : Step σ ι β) = g <$> onProvider p step := by
  funext st
  cases h : ensure p st with
  | error e st' =>
    rw [onProvider_of_failed h]
    exact (Gen.map_of_error (onProvider_of_failed h step)).symm
  | ok x st' =>
    rw [onProvider_of_ensure h]
    exact (Gen.withState_map _ g (onProvider_of_ensure h step)).symm

/-- A step that needs nothing of the provider still has it built. -/
theorem onProvider_pure (a : α) : (onProvider p (pure a) : Step σ ι α) = (fun _ => a) <$> ensure p := by
  funext st
  cases h : ensure p st with
  | error e st' => rw [onProvider_of_failed h, Gen.map_of_error h]
  | ok x st' =>
    rw [onProvider_of_ensure h, Gen.map_of_ok h]
    exact congrArg (EStateM.Result.ok a) (place_of_get (get_of_ensure h) st'.2)

/-- A field of a built-in provider is asked for by the name of the provider. -/
theorem generate_name [Registrable ι] (p : Builtin) (field : String) :
    (generate p.name field : Step σ ι Json) = onProvider p (p.performField field) := by
  simp only [generate, Builtin.ofName?_name]

theorem fields_name [Registrable ι] (p : Builtin) :
    (fields p.name : Step σ ι (List String)) = (fun _ => p.fieldNames) <$> ensure p := by
  unfold fields
  rw [Builtin.ofName?_name]
  exact (map_eq_pure_bind _ _).symm

/-- Where `p` is built, `outer` does to the facade what `inner` does to the provider. -/
def RunsOn (p : Builtin) (outer : Step σ ι α) (inner : Gen (p.State σ × Store) α) : Prop :=
  ∀ (f : Facade σ ι) (x : p.State σ) (store : Store), f.slots.get p = some x →
    outer (f, store) = Gen.withState (f.place p) (inner (x, store))

theorem runsOn_onProvider (p : Builtin) (step : Gen (p.State σ × Store) α) :
    RunsOn p (onProvider p step : Step σ ι α) step := by
  intro f x store h
  exact onProvider_of_get h store step

omit [SeededSource σ] in
theorem RunsOn.built {outer : Step σ ι α} {inner : Gen (p.State σ × Store) α} (h : RunsOn p outer inner)
    {x : p.State σ} (hx : f.slots.get p = some x) {a : α} {st : Facade σ ι × Store}
    (ho : outer (f, store) = .ok a st) : ∃ y, st.1.slots.get p = some y := by
  have hs := h f x store hx
  rw [ho] at hs
  cases hi : inner (x, store) with
  | ok b st' =>
    rw [hi] at hs
    cases hs
    exact ⟨_, get_place f p st'⟩
  | error e st' =>
    rw [hi] at hs
    cases hs

omit [SeededSource σ] in
theorem RunsOn.map {outer : Step σ ι α} {inner : Gen (p.State σ × Store) α} (h : RunsOn p outer inner)
    (g : α → β) : RunsOn p (g <$> outer) (g <$> inner) := by
  intro f x store hx
  exact Gen.withState_map _ g (h f x store hx)

omit [SeededSource σ] in
theorem RunsOn.inTurn {γ : Type} {outer : γ → Step σ ι α} {inner : γ → Gen (p.State σ × Store) α}
    (h : ∀ c, RunsOn p (outer c) (inner c)) (items : List γ) :
    RunsOn p (Gen.inTurn outer items) (Gen.inTurn inner items) := by
  induction items with
  | nil =>
    intro f x store hx
    simp only [Gen.inTurn, Gen.withState, place_of_get hx]
  | cons c cs ih =>
    intro f x store hx
    have hc := h c f x store hx
    cases hs : inner c (x, store) with
    | error e st =>
      rw [hs] at hc
      rw [Gen.inTurn_of_error inner cs hs]
      exact Gen.inTurn_of_error outer cs hc
    | ok a st =>
      have hi := ih _ st.1 st.2 (get_place f p st)
      have hp : (f.place p st).1.place p = f.place p := funext fun st' => place_place f p st st'
      rw [hs] at hc
      rw [hp] at hi
      rw [Gen.inTurn_of_ok inner cs hs]
      exact (Gen.inTurn_of_ok outer cs hc).trans (Gen.withState_map _ (List.cons a) hi)

end Facade

end SampleData
