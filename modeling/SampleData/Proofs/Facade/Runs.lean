import SampleData.Proofs.Facade.Scripted

/-! # Runs of a facade

What can happen to a facade is a request, a registration, or anything that is done to a registered instance through
a reference to it. A run is logged with the answers, and what every event preserves holds behind the run.
-/
namespace SampleData.Facade

variable {σ ι : Type} [SeededSource σ] [Registrable ι]

/-- An event; whatever is done to an instance, its type stays what it is. -/
inductive Event (ι : Type) [Registrable ι] where
  | request (r : Request)
  | register (fresh : ι)
  | visit (name : String) (step : Gen ι Json)
      (sameType : ∀ i, Registrable.typePath (Gen.left (step i)) = Registrable.typePath i)

def react : Event ι → Step σ ι Json
  | .request r => answer r
  | .register fresh => Json.str <$> register fresh
  | .visit name step _ => onRegistered (Registry.onInstance name step)

structure Entry (ι : Type) [Registrable ι] where
  event : Event ι
  answer : Except Error Json

def log : List (Event ι) → Facade σ ι × Store → List (Entry ι)
  | [], _ => []
  | e :: es, st => ⟨e, Gen.answer (react e st)⟩ :: log es (Gen.left (react e st))

def after (st : Facade σ ι × Store) (events : List (Event ι)) : Facade σ ι × Store :=
  events.foldl (fun st e => Gen.left (react e st)) st

omit [SeededSource σ] [Registrable ι] in
/-- A step on the registered providers touches nothing else. -/
theorem onRegistered_eq {α : Type} (step : Gen (Registry ι) α) (f : Facade σ ι) (store : Store) :
    onRegistered step (f, store) =
      Gen.withState (fun r => ({ f with registered := r }, store)) (step f.registered) := by
  unfold onRegistered Gen.onFirst Gen.focus
  cases step f.registered <;> rfl

omit [Registrable ι] in
/-- A call to a provider changes nothing of the facade but its slots. -/
theorem keeps_onProvider {α γ : Type} (view : Facade σ ι → γ) (hv : ∀ f slots, view { f with slots := slots } = view f)
    (p : Builtin) (step : Gen (p.State σ × Store) α) :
    Gen.Keeps (fun st : Facade σ ι × Store => view st.1) (onProvider p step) := by
  have he : Gen.Keeps (fun st : Facade σ ι × Store => view st.1) (ensure p) := by
    rintro ⟨f, store⟩
    cases hg : f.slots.get p with
    | some x => rw [ensure_of_get hg, Gen.left_ok]
    | none =>
      cases hb : p.build f.context store with
      | ok x after =>
        rw [ensure_of_build hg hb, Gen.left_ok]
        exact hv f _
      | error e after => rw [ensure_of_unbuildable hg hb, Gen.left_error]
  refine he.bind fun x => ?_
  rintro ⟨f, store⟩
  dsimp only
  cases step (x, store) <;> exact hv f _

section Conditions

variable {I : Facade σ ι × Store → Prop}

theorem preserves_answer (ha : ∀ (p : Builtin) (q : p.Query), Gen.Preserves I (onProvider p q.perform))
    (hd : ∀ {β : Type} (step : StateM σ β), Gen.Preserves I (Markup.draw step))
    (hr : ∀ step : Gen (Registry ι) Json, Gen.Preserves I (onRegistered step)) (r : Request) :
    Gen.Preserves I (answer r) := by
  cases h : r.script? σ with
  | some script =>
    rw [answer_eq_run h]
    exact script.preserves_run ha hd
  | none =>
    obtain ⟨step, hs⟩ := exists_onRegistered_of_unscripted (ι := ι) h
    rw [hs]
    exact hr step

/-- An event keeps what every step on a provider and on the registry keeps. -/
theorem preserves_react (ha : ∀ (p : Builtin) (q : p.Query), Gen.Preserves I (onProvider p q.perform))
    (hd : ∀ {β : Type} (step : StateM σ β), Gen.Preserves I (Markup.draw step))
    (hr : ∀ {α : Type} (step : Gen (Registry ι) α), Gen.Preserves I (onRegistered step)) (e : Event ι) :
    Gen.Preserves I (react e) := by
  cases e with
  | request r => exact preserves_answer ha hd hr r
  | register fresh => exact (hr (Registry.register fresh)).map Json.str
  | visit name step _ => exact hr _

theorem preserves_after (h : ∀ e : Event ι, Gen.Preserves I (react e)) (events : List (Event ι))
    {st : Facade σ ι × Store} (hst : I st) : I (after st events) := by
  induction events generalizing st with
  | nil => exact hst
  | cons e es ih => exact ih (h e st hst)

end Conditions

end SampleData.Facade
