import SampleData.Proofs.Facade.Calls
import SampleData.Proofs.Provider.Records

/-! # Documents, field by field

A document of `n` records is `n` rounds over the fields of the provider, each field asked for by its name: the same
values, the same first failure and the same facade behind it. Two documents made one after the other hold the
records of one made at once.
-/
namespace SampleData.Facade

variable {σ ι : Type} [SeededSource σ] [Registrable ι]

/-- `n` rounds over the fields of a provider, each field asked for on the facade by its name. -/
def rounds (p : Builtin) (n : ℕ) : Step σ ι (List (List Json)) :=
  Gen.inTurn (Gen.inTurn (generate p.name)) (List.replicate n p.fieldNames)

omit [Registrable ι] in
/-- A document lists the records that the provider makes in turn. -/
theorem json_of_root {p : Builtin} {key : String} (h : (p, key) ∈ documentKeys) (n : ℕ) :
    (json p.name n : Step σ ι Json) = (fun records => Json.object [(key, .list records)]) <$>
      onProvider p (Random.times n p.record) := by
  simp only [documentKeys, List.mem_cons, Prod.mk.injEq, List.not_mem_nil, or_false] at h
  rcases h with ⟨rfl, rfl⟩ | ⟨rfl, rfl⟩ | ⟨rfl, rfl⟩ | ⟨rfl, rfl⟩ <;> rfl

def roundsAlone (p : Builtin) (n : ℕ) : Gen (p.State σ × Store) (List (List Json)) :=
  Gen.inTurn (Gen.inTurn p.performField) (List.replicate n p.fieldNames)

theorem runsOn_rounds (p : Builtin) (n : ℕ) :
    RunsOn p (rounds p n : Step σ ι (List (List Json))) (roundsAlone p n) := by
  refine RunsOn.inTurn (fun names => RunsOn.inTurn (fun field => ?_) names) _
  rw [generate_name]
  exact runsOn_onProvider p (p.performField field)

theorem rounds_add (p : Builtin) (m n : ℕ) :
    (rounds p (m + n) : Step σ ι (List (List Json))) =
      (rounds p m >>= fun first => (first ++ ·) <$> rounds p n) := by
  rw [rounds, List.replicate_add, Gen.inTurn_append]
  rfl

omit [Registrable ι] in
/-- Records are made of the fields in their order, one record after the other. -/
theorem times_record (p : Builtin) (n : ℕ) :
    (Random.times n p.record : Gen (p.State σ × Store) (List Json)) =
      List.map p.assemble <$> roundsAlone p n := by
  have hr : (fun _ : Unit => (p.record : Gen (p.State σ × Store) Json)) =
      fun _ => p.assemble <$> Gen.inTurn p.performField p.fieldNames := funext fun _ => p.record_eq
  rw [Gen.times_eq_inTurn, hr, Gen.inTurn_map]
  congr 1
  unfold roundsAlone
  induction n with
  | zero => rfl
  | succ n ih => rw [List.replicate_succ, List.replicate_succ, Gen.inTurn_cons, Gen.inTurn_cons, ih]

def document (p : Builtin) (key : String) (values : List (List Json)) : Json :=
  .object [(key, .list (values.map p.assemble))]

omit [SeededSource σ] [Registrable ι] in
theorem mem_of_documentKey? {p : Builtin} {key : String} (h : documentKey? p.name = some key) :
    (p, key) ∈ documentKeys := by
  cases p <;> simp [documentKey?, documentKeys, Builtin.name] at h ⊢ <;> exact h.symm

/-- On a provider that is built, a document is made of rounds. -/
theorem json_of_get {p : Builtin} {key : String} (hk : documentKey? p.name = some key) {f : Facade σ ι}
    {x : p.State σ} (hx : f.slots.get p = some x) (n : ℕ) (store : Store) :
    json p.name n (f, store) = (document p key <$> rounds p n) (f, store) := by
  have hj : RunsOn p (json p.name n : Step σ ι Json) (document p key <$> roundsAlone p n) := by
    rw [json_of_root (mem_of_documentKey? hk), times_record]
    have hr : RunsOn p (onProvider p (List.map p.assemble <$> roundsAlone p n) : Step σ ι (List Json))
        (List.map p.assemble <$> roundsAlone p n) := runsOn_onProvider p _
    have hm := hr.map fun records => Json.object [(key, .list records)]
    rwa [Functor.map_map] at hm
  have hr : RunsOn p (document p key <$> (rounds p n : Step σ ι (List (List Json))))
      (document p key <$> roundsAlone p n) := (runsOn_rounds p n).map (document p key)
  rw [hj f x store hx, hr f x store hx]

theorem isRecord_of_rounds {p : Builtin} {n : ℕ} {st st' : Facade σ ι × Store} {values : List (List Json)}
    (h : rounds p n st = .ok values st') :
    List.Forall₂ (IsRecord p.fieldNames) values (values.map p.assemble) := by
  rw [List.forall₂_map_right_iff, List.forall₂_same]
  intro round hr
  obtain ⟨names, hn, _, _, hs⟩ := Gen.exists_of_mem_inTurn h hr
  obtain rfl := List.eq_of_mem_replicate hn
  exact isRecord_ofFields p.nodup_fieldNames (Gen.length_of_inTurn hs)

structure DocumentsOf (p : Builtin) (key : String) (f : Facade σ ι) (store : Store) : Prop where
  named : fields p.name (f, store) = .ok p.fieldNames (f, store)
  /-- Where all rounds go well, there is one record for every round, and the facade is the one behind them. -/
  made : ∀ n values st, rounds p n (f, store) = .ok values st → ∃ records,
    json p.name n (f, store) = .ok (.object [(key, .list records)]) st ∧ records.length = n ∧
      List.Forall₂ (IsRecord p.fieldNames) values records
  /-- The first field that fails is the failure of the document. -/
  failed : ∀ n e st, rounds p n (f, store) = .error e st → json p.name n (f, store) = .error e st
  /-- A document of `m + n` records is one of `m` and then one of `n`. -/
  joined : ∀ m n first st, json p.name m (f, store) = .ok first st → ∃ xs, first = .object [(key, .list xs)] ∧
    (∀ second st', json p.name n st = .ok second st' → ∃ ys, second = .object [(key, .list ys)] ∧
      json p.name (m + n) (f, store) = .ok (.object [(key, .list (xs ++ ys))]) st') ∧
    ∀ e st', json p.name n st = .error e st' → json p.name (m + n) (f, store) = .error e st'
  broken : ∀ m n e st, json p.name m (f, store) = .error e st → json p.name (m + n) (f, store) = .error e st

/-- A document is made of rounds over the fields, on a facade with the provider built. -/
theorem documentsOf_of_get {p : Builtin} {key : String} (hk : documentKey? p.name = some key) {f : Facade σ ι}
    {x : p.State σ} (hx : f.slots.get p = some x) (store : Store) : DocumentsOf p key f store where
  named := by
    have he := ensure_of_get hx store
    unfold fields
    rw [Builtin.ofName?_name]
    exact Gen.bind_of_ok he
  made := by
    intro n values st h
    refine ⟨values.map p.assemble, ?_, ?_, isRecord_of_rounds h⟩
    · rw [json_of_get hk hx, Gen.map_of_ok h]
      rfl
    · rw [List.length_map, Gen.length_of_inTurn h, List.length_replicate]
  failed := by
    intro n e st h
    rw [json_of_get hk hx, Gen.map_of_error h]
  joined := by
    intro m n first st h
    rw [json_of_get hk hx] at h
    obtain ⟨xs, hm, rfl⟩ := Gen.exists_of_map_ok h
    obtain ⟨y, hy⟩ := (runsOn_rounds p m).built hx hm
    have hj : json p.name n st = (document p key <$> rounds p n) st := json_of_get hk hy n st.2
    have hs : rounds p (m + n) (f, store) = ((xs ++ ·) <$> rounds p n) st := by
      rw [rounds_add]
      exact Gen.bind_of_ok hm
    refine ⟨xs.map p.assemble, rfl, ?_, ?_⟩
    · intro second st' h
      rw [hj] at h
      obtain ⟨ys, hn, rfl⟩ := Gen.exists_of_map_ok h
      refine ⟨ys.map p.assemble, rfl, ?_⟩
      rw [Gen.map_of_ok hn] at hs
      rw [json_of_get hk hx, Gen.map_of_ok hs, document, List.map_append]
    · intro e st' h
      rw [hj] at h
      rw [Gen.map_of_error (Gen.eq_error_of_map h)] at hs
      rw [json_of_get hk hx, Gen.map_of_error hs]
  broken := by
    intro m n e st h
    rw [json_of_get hk hx] at h
    have hm := Gen.eq_error_of_map h
    have hs : rounds p (m + n) (f, store) = .error e st := by
      rw [rounds_add]
      exact Gen.bind_of_error hm
    rw [json_of_get hk hx, Gen.map_of_error hs]

omit [Registrable ι] in
theorem json_of_none {provider : String} (h : documentKey? provider = none) (n : ℕ) (st : Facade σ ι × Store) :
    json provider n st = .error (.unsupportedOption "provider" provider) st := by
  have hf : (documentKeys.find? fun e => e.1.name == provider) = none := Option.map_eq_none_iff.mp h
  unfold json
  rw [hf]
  rfl

/-- Documents and fields agree. For every provider with a key for documents, in every state in which it is built,
also when it was built only now, a document of `n` records does what `n` rounds over the fields do. Of any other
name there are no documents, and asking for one changes nothing. -/
theorem json_eq_rounds :
    (∀ (p : Builtin) (key : String), documentKey? p.name = some key →
      (∀ (f : Facade σ ι) (x : p.State σ) (store : Store), f.slots.get p = some x → DocumentsOf p key f store) ∧
      ∀ (st st' : Facade σ ι × Store) (x : p.State σ), ensure p st = .ok x st' → DocumentsOf p key st'.1 st'.2) ∧
    ∀ provider, documentKey? provider = none → ∀ (n : ℕ) (st : Facade σ ι × Store),
      json provider n st = .error (.unsupportedOption "provider" provider) st := by
  refine ⟨?_, ?_⟩
  · intro p key hk
    constructor
    · intro f x store hx
      exact documentsOf_of_get hk hx store
    · intro st st' x h
      exact documentsOf_of_get hk (get_of_ensure h) st'.2
  · intro provider h n st
    exact json_of_none h n st

end SampleData.Facade
