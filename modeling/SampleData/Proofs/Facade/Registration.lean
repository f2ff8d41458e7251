import SampleData.Proofs.Facade.Names
import SampleData.Proofs.Facade.Runs
import SampleData.Random.Keystream

/-! # What is registered

Behind any run, the registered names are those of the registrations that went well, and under each of them stands
the instance that was registered last, as it became by what was done to it since. A registration that is rejected
changes nothing, and neither does a request to built-in providers.
-/
namespace SampleData

/-- Instances that do not change their type when they make a field. -/
class LawfulRegistrable (ι : Type) [Registrable ι] : Prop where
  typePath_generate : ∀ (field : String) (i : ι),
    Registrable.typePath (Gen.left (Registrable.generate field i)) = Registrable.typePath i

namespace Facade

variable {σ ι : Type} [Registrable ι]

def Entry.registers? (name : String) (e : Entry ι) : Option ι :=
  match e.event, e.answer with
  | .register fresh, .ok (.str given) => if given = name then some fresh else none
  | _, _ => none

/-- What an event makes of the instance that stands under `name`. -/
def Event.touch (name : String) : Event ι → ι → ι
  | .request (.generate provider field), i => if provider = name then Gen.left (Registrable.generate field i) else i
  | .visit provider step _, i => if provider = name then Gen.left (step i) else i
  | _, i => i

def Entry.update (name : String) (held : Option ι) (e : Entry ι) : Option ι :=
  match e.registers? name with
  | some fresh => some fresh
  | none => held.map (e.event.touch name)

/-- The instance registered last under `name`, as it became by what was done to it since. -/
def standing (name : String) (log : List (Entry ι)) : Option ι := log.foldl (Entry.update name) none

def lastRegistered (name : String) (log : List (Entry ι)) : Option ι := (log.filterMap (Entry.registers? name)).getLast?

theorem typePath_touch [LawfulRegistrable ι] (name : String) (e : Event ι) (i : ι) :
    Registrable.typePath (e.touch name i) = Registrable.typePath i := by
  cases e with
  | register fresh => rfl
  | visit provider step sameType =>
    simp only [Event.touch]
    split
    · exact sameType i
    · rfl
  | request r =>
    cases r with
    | generate provider field =>
      simp only [Event.touch]
      split
      · exact LawfulRegistrable.typePath_generate field i
      · rfl
    | _ => rfl

/-- A property of instances that events keep is a property of the instance that stands just when it is one of the
instance registered last. -/
theorem map_foldl_update {β : Type} (view : ι → β) (name : String) (log : List (Entry ι))
    (hv : ∀ e ∈ log, ∀ i, view (e.event.touch name i) = view i) (held : Option ι) :
    (log.foldl (Entry.update name) held).map view = ((lastRegistered name log).or held).map view := by
  induction log generalizing held with
  | nil => rfl
  | cons e log ih =>
    obtain ⟨he, hlog⟩ := List.forall_mem_cons.mp hv
    have hi := ih hlog (Entry.update name held e)
    rw [List.foldl_cons, hi]
    unfold lastRegistered Entry.update
    cases hr : e.registers? name with
    | some fresh =>
      rw [List.filterMap_cons_some hr, List.getLast?_cons]
      cases (log.filterMap (Entry.registers? name)).getLast? <;> rfl
    | none =>
      rw [List.filterMap_cons_none hr]
      cases (log.filterMap (Entry.registers? name)).getLast? with
      | some i => rfl
      | none =>
        cases held with
        | none => rfl
        | some i => exact congrArg some (he i)

/-- An instance keeps the type that it was registered with. -/
theorem typePath_standing [LawfulRegistrable ι] (name : String) (log : List (Entry ι)) :
    (standing name log).map Registrable.typePath = (lastRegistered name log).map Registrable.typePath := by
  have hm := map_foldl_update Registrable.typePath name log (fun e _ => typePath_touch name e.event) none
  rwa [Option.or_none] at hm

theorem isSome_standing_iff (name : String) (log : List (Entry ι)) :
    (standing name log).isSome ↔ ∃ e ∈ log, ∃ fresh, e.registers? name = some fresh := by
  have hm := map_foldl_update (fun _ => ()) name log (fun _ _ _ => rfl) none
  rw [Option.or_none] at hm
  have hs : (standing name log).isSome = (lastRegistered name log).isSome := by
    have hmap := congrArg Option.isSome hm
    rwa [Option.isSome_map, Option.isSome_map] at hmap
  rw [hs, lastRegistered, List.getLast?_isSome]
  constructor
  · intro hne
    obtain ⟨fresh, hf⟩ := List.exists_mem_of_ne_nil _ hne
    obtain ⟨e, he, hr⟩ := List.mem_filterMap.mp hf
    exact ⟨e, he, fresh, hr⟩
  · rintro ⟨e, he, fresh, hr⟩
    exact List.ne_nil_of_mem (List.mem_filterMap.mpr ⟨e, he, hr⟩)

variable [SeededSource σ] {f : Facade σ ι} {store : Store} {fresh : ι}

omit [SeededSource σ] in
theorem register_of_admitted {name : String} (h : Registry.nameOf fresh = .ok name) (f : Facade σ ι) (store : Store) :
    register fresh (f, store) = .ok name ({ f with registered := f.registered.insert name fresh }, store) := by
  rw [register, onRegistered_eq, Registry.register_of_ok h]
  rfl

omit [SeededSource σ] in
theorem register_of_rejected {fault : NameFault} (h : Registry.nameOf fresh = .error fault) (f : Facade σ ι)
    (store : Store) : register fresh (f, store) = .error (.invalidProvider fault) (f, store) := by
  rw [register, onRegistered_eq, Registry.register_of_error h]
  rfl

theorem generate_of_other {name : String} (h : ∀ p : Builtin, p.name ≠ name) (field : String) :
    (generate name field : Step σ ι Json) = onRegistered (Registry.onInstance name (Registrable.generate field)) := by
  unfold generate
  rw [Builtin.ofName?_eq_none_iff.mpr h]

theorem fields_of_other {name : String} (h : ∀ p : Builtin, p.name ≠ name) :
    (fields name : Step σ ι (List String)) =
      onRegistered (Registry.onInstance name (Registrable.fieldNames <$> get)) := by
  unfold fields
  rw [Builtin.ofName?_eq_none_iff.mpr h]

/-- A request with a script is one to built-in providers and leaves the registered ones alone. -/
theorem registered_of_scripted {r : Request} {script : Script σ Json} (h : r.script? σ = some script)
    (st : Facade σ ι × Store) : (Gen.left (answer r st)).1.registered = st.1.registered := by
  rw [answer_eq_run h]
  refine script.preserves_run (I := fun st' => st'.1.registered = st.1.registered) ?_ ?_ st rfl
  · intro p q st' hst
    exact (keeps_onProvider Facade.registered (fun _ _ => rfl) p q.perform st').trans hst
  · intro β step st' hst
    exact hst

def Unshadowed (f : Facade σ ι) : Prop := ∀ p : Builtin, f.registered.get? p.name = none

omit [SeededSource σ] [Registrable ι] in
theorem get?_onRegistered {α : Type} (name other : String) (step : Gen ι α) (f : Facade σ ι) (store : Store) :
    (Gen.left (onRegistered (Registry.onInstance name step) (f, store))).1.registered.get? other =
      if name = other then (f.registered.get? other).map fun i => Gen.left (step i) else f.registered.get? other := by
  rw [← Registry.get?_onInstance, onRegistered_eq]
  cases Registry.onInstance name step f.registered <;> rfl

/-- A request changes an instance by making one of its fields, and no other instance. -/
theorem get?_request (r : Request) (hf : Unshadowed f) (store : Store) (name : String) :
    (Gen.left (answer r (f, store))).1.registered.get? name =
      (f.registered.get? name).map (Event.touch name (.request r)) := by
  have hid : (f.registered.get? name).map id = f.registered.get? name := Option.map_id'
  have hs : ∀ {script : Script σ Json}, r.script? σ = some script →
      (Gen.left (answer r (f, store))).1.registered.get? name = f.registered.get? name := by
    intro script h
    rw [registered_of_scripted h]
  cases r with
  | generate provider field =>
    by_cases hb : ∃ p : Builtin, p.name = provider
    · obtain ⟨p, rfl⟩ := hb
      have hscript : Request.script? σ (.generate p.name field) = some (.ask p (.method (.named field)) .answer) := by
        simp only [Request.script?, Builtin.ofName?_name, Option.map_some]
      rw [hs hscript]
      by_cases hn : p.name = name
      · subst hn
        rw [hf p]
        rfl
      · have ht : Event.touch name (.request (.generate p.name field)) = (id : ι → ι) := by
          funext i
          simp only [Event.touch, hn, if_false, id]
        rw [ht, hid]
    · have ho : ∀ p : Builtin, p.name ≠ provider := fun p hp => hb ⟨p, hp⟩
      have ha : (answer (.generate provider field) : Step σ ι Json) = _ := generate_of_other ho field
      rw [ha, get?_onRegistered]
      unfold Event.touch
      by_cases hn : provider = name
      · simp only [hn, if_true]
      · simp only [hn, if_false]
        exact hid.symm
  | fields provider =>
    by_cases hb : ∃ p : Builtin, p.name = provider
    · obtain ⟨p, rfl⟩ := hb
      have hscript : Request.script? σ (.fields p.name) = some (.ask p .names .answer) := by
        simp only [Request.script?, Builtin.ofName?_name, Option.map_some]
      rw [hs hscript]
      exact hid.symm
    · have ho : ∀ p : Builtin, p.name ≠ provider := fun p hp => hb ⟨p, hp⟩
      have ha : (answer (.fields provider) : Step σ ι Json) = Json.ofStrings <$> fields provider := rfl
      rw [ha, Gen.left_map, fields_of_other ho, get?_onRegistered]
      split
      · rfl
      · exact hid.symm
  | _ => exact (hs rfl).trans hid.symm

/-- What stands under a name behind an event is what the entry of the event says. -/
theorem get?_react (e : Event ι) (hf : Unshadowed f) (store : Store) (name : String) :
    (Gen.left (react e (f, store))).1.registered.get? name =
      Entry.update name (f.registered.get? name) ⟨e, Gen.answer (react e (f, store))⟩ := by
  cases e with
  | register fresh =>
    have hr : react (.register fresh) = Json.str <$> (register fresh : Step σ ι String) := rfl
    cases hn : Registry.nameOf fresh with
    | ok given =>
      rw [hr, Gen.map_of_ok (register_of_admitted hn f store), Gen.left_ok, Gen.answer_ok]
      unfold Entry.update Entry.registers?
      dsimp only
      by_cases hg : given = name
      · subst hg
        rw [if_pos rfl]
        exact SortedMap.get?_insert_self ..
      · rw [if_neg hg, SortedMap.get?_insert_of_ne _ (Ne.symm hg)]
        exact Option.map_id'.symm
    | error fault =>
      rw [hr, Gen.map_of_error (register_of_rejected hn f store), Gen.left_error, Gen.answer_error]
      exact Option.map_id'.symm
  | visit provider step sameType =>
    have hr : react (.visit provider step sameType) = (onRegistered (Registry.onInstance provider step) : Step σ ι Json) :=
      rfl
    rw [hr, get?_onRegistered]
    unfold Entry.update Entry.registers? Event.touch
    by_cases hp : provider = name
    · simp only [hp, if_true]
    · simp only [hp, if_false]
      exact Option.map_id'.symm
  | request r => exact get?_request r hf store name

def Admitted (f : Facade σ ι) : Prop :=
  ∀ name i, f.registered.get? name = some i → Registry.IsName name ∧ ∀ p : Builtin, p.name ≠ name

omit [SeededSource σ] [Registrable ι] in
theorem Admitted.unshadowed (h : Admitted f) : Unshadowed f := by
  intro p
  cases hg : f.registered.get? p.name with
  | none => rfl
  | some i => exact absurd rfl ((h p.name i hg).2 p)

theorem nameOf_of_registers? {e : Event ι} {st : Facade σ ι × Store} {name : String} {fresh : ι}
    (h : Entry.registers? name ⟨e, Gen.answer (react e st)⟩ = some fresh) : Registry.nameOf fresh = .ok name := by
  cases e with
  | register given =>
    have hr : react (.register given) = Json.str <$> (register given : Step σ ι String) := rfl
    cases hn : Registry.nameOf given with
    | ok admitted =>
      rw [hr, Gen.map_of_ok (register_of_admitted hn st.1 st.2)] at h
      simp only [Entry.registers?, Gen.answer_ok] at h
      split at h
      · next heq =>
        cases h
        rw [hn, heq]
      · cases h
    | error fault =>
      rw [hr, Gen.map_of_error (register_of_rejected hn st.1 st.2)] at h
      cases h
  | request r => cases h
  | visit provider step sameType => cases h

/-- No event gets a name into the registry that was not admitted. -/
theorem Admitted.react (e : Event ι) {st : Facade σ ι × Store} (h : Admitted st.1) :
    Admitted (Gen.left (react e st)).1 := by
  intro name i hi
  rw [get?_react e h.unshadowed st.2] at hi
  unfold Entry.update at hi
  split at hi
  · next fresh hr =>
    obtain ⟨_, hn, hb⟩ := Registry.admitted_of_nameOf (nameOf_of_registers? hr)
    exact ⟨hn, hb⟩
  · obtain ⟨j, hj, _⟩ := Option.map_eq_some_iff.mp hi
    exact h name j hj

/-- The registry after a run can be read off its log. -/
theorem get?_after (events : List (Event ι)) {st : Facade σ ι × Store} (h : Admitted st.1) (name : String) :
    (after st events).1.registered.get? name =
      (log events st).foldl (Entry.update name) (st.1.registered.get? name) := by
  induction events generalizing st with
  | nil => rfl
  | cons e es ih =>
    have hg := get?_react e h.unshadowed st.2 name
    rw [log, List.foldl_cons, ← hg]
    exact ih (h.react e)

structure Accounts (log : List (Entry ι)) (st : Facade σ ι × Store) : Prop where
  ascending : st.1.registeredNames.Pairwise fun a b => KeyOrder.before a b = true
  names : ∀ name, name ∈ st.1.registeredNames ↔ ∃ e ∈ log, ∃ fresh, e.registers? name = some fresh
  identifiers : ∀ name ∈ st.1.registeredNames, Registry.IsName name
  notBuiltIn : ∀ name ∈ st.1.registeredNames, ∀ p : Builtin, p.name ≠ name
  instances : ∀ name, st.1.registered.get? name = standing name log
  /-- The type of the instance that was registered last decides whether it is found. -/
  typed : ∀ name path, (st.1.registered.find? name path).isSome ↔
    ∃ fresh, lastRegistered name log = some fresh ∧ Registrable.typePath fresh = path
  admitted : ∀ fresh : ι, Registry.IsName (Registry.proposed fresh) →
    (∀ p : Builtin, p.name ≠ Registry.proposed fresh) → register fresh st = .ok (Registry.proposed fresh)
      ({ st.1 with registered := st.1.registered.insert (Registry.proposed fresh) fresh }, st.2)
  notName : ∀ fresh : ι, ¬ Registry.IsName (Registry.proposed fresh) → register fresh st =
    .error (.invalidProvider (.notAnIdentifier (Registry.proposed fresh) (Registrable.typePath fresh))) st
  shadowing : ∀ (fresh : ι) (p : Builtin), p.name = Registry.proposed fresh →
    register fresh st = .error (.invalidProvider (.builtIn (Registry.proposed fresh))) st
  rejected : ∀ (fresh : ι) e st', register fresh st = .error e st' → st' = st
  builtIn : ∀ (p : Builtin) field, generate p.name field st = onProvider p (p.performField field) st ∧
    fields p.name st = ((fun _ => p.fieldNames) <$> ensure p) st
  resolved : ∀ name i, standing name log = some i → ∀ field,
    generate name field st = Gen.withState
      (fun i => ({ st.1 with registered := st.1.registered.insert name i }, st.2)) (Registrable.generate field i) ∧
    fields name st = .ok (Registrable.fieldNames i) st
  unresolved : ∀ name, (∀ p : Builtin, p.name ≠ name) → standing name log = none → ∀ field,
    generate name field st = .error (.unsupportedOption "provider" name) st ∧
    fields name st = .error (.unsupportedOption "provider" name) st

omit [SeededSource σ] in
/-- A rejected registration changes nothing. -/
theorem rejected_register {e : Error} {st st' : Facade σ ι × Store} (h : register fresh st = .error e st') :
    st' = st := by
  cases hn : Registry.nameOf fresh with
  | ok name => cases (register_of_admitted hn st.1 st.2).symm.trans h
  | error fault =>
    cases (register_of_rejected hn st.1 st.2).symm.trans h
    rfl

theorem admitted_after (events : List (Event ι)) {st : Facade σ ι × Store} (h : Admitted st.1) :
    Admitted (after st events).1 :=
  preserves_after (I := fun st => Admitted st.1) (fun e _ hst => hst.react e) events h

omit [SeededSource σ] [Registrable ι] in
theorem admitted_of_empty {f : Facade σ ι} (h : f.registered = .empty) : Admitted f := by
  intro name i hi
  rw [h] at hi
  cases hi

theorem generate_of_standing {i : ι} {name : String} (ho : ∀ p : Builtin, p.name ≠ name)
    (h : f.registered.get? name = some i) (field : String) (store : Store) :
    generate name field (f, store) = Gen.withState
      (fun i => ({ f with registered := f.registered.insert name i }, store)) (Registrable.generate field i) := by
  rw [generate_of_other ho, onRegistered_eq, Registry.onInstance_of_some h]
  cases Registrable.generate field i <;> rfl

theorem fields_of_standing {i : ι} {name : String} (ho : ∀ p : Builtin, p.name ≠ name)
    (h : f.registered.get? name = some i) (store : Store) :
    fields name (f, store) = .ok (Registrable.fieldNames i) (f, store) := by
  have hi : f.registered.insert name i = f.registered := SortedMap.insert_of_get? h
  rw [fields_of_other ho, onRegistered_eq, Registry.onInstance_of_some h]
  exact congrArg (fun r => EStateM.Result.ok (Registrable.fieldNames i) (({ f with registered := r } : Facade σ ι), store)) hi

/-- A facade whose registry agrees with a log shows what the log says. -/
theorem accounts_of_get [LawfulRegistrable ι] {entries : List (Entry ι)} {st : Facade σ ι × Store}
    (hadm : Admitted st.1) (hget : ∀ name, st.1.registered.get? name = standing name entries) :
    Accounts entries st := by
  obtain ⟨f, store⟩ := st
  have hmem : ∀ name ∈ f.registeredNames, ∃ i, f.registered.get? name = some i :=
    fun name hn => SortedMap.mem_keys_iff.mp hn
  constructor
  case ascending => exact f.registered.keys_pairwise
  case names =>
    intro name
    rw [← isSome_standing_iff, ← hget, Option.isSome_iff_exists]
    exact SortedMap.mem_keys_iff
  case identifiers =>
    intro name hn
    obtain ⟨i, hi⟩ := hmem name hn
    exact (hadm name i hi).1
  case notBuiltIn =>
    intro name hn
    obtain ⟨i, hi⟩ := hmem name hn
    exact (hadm name i hi).2
  case instances => exact hget
  case typed =>
    intro name path
    have hg : f.registered.get? name = standing name entries := hget name
    rw [Registry.isSome_find?_iff, hg, typePath_standing]
    exact Option.map_eq_some_iff
  case admitted =>
    intro fresh hn hb
    exact register_of_admitted (Registry.nameOf_of_admitted hn hb) f store
  case notName =>
    intro fresh hn
    exact register_of_rejected (Registry.nameOf_of_notName hn) f store
  case shadowing =>
    intro fresh p hp
    exact register_of_rejected (Registry.nameOf_of_builtIn hp) f store
  case rejected =>
    intro fresh e st' h
    exact rejected_register h
  case builtIn =>
    intro p field
    exact ⟨congrFun (generate_name p field) _, congrFun (fields_name p) _⟩
  case resolved =>
    intro name i hi field
    rw [← hget] at hi
    have ho := (hadm name i hi).2
    exact ⟨generate_of_standing ho hi field store, fields_of_standing ho hi store⟩
  case unresolved =>
    intro name ho hn field
    rw [← hget] at hn
    constructor
    · rw [generate_of_other ho, onRegistered_eq, Registry.onInstance_of_none hn]
      rfl
    · rw [fields_of_other ho, onRegistered_eq, Registry.onInstance_of_none hn]
      rfl

/-- What holds of the registered providers behind a run that starts with none, and what they are named. -/
theorem accounts_after [LawfulRegistrable ι] (c : Context σ) (store : Store) (events : List (Event ι)) :
    Accounts (log events (new c, store)) (after (new c, store) events) ∧
      ∀ fresh : ι, (∀ name, Registrable.declaredName fresh = some name → Registry.proposed fresh = name) ∧
        (Registrable.declaredName fresh = none → ∀ modules type arguments, (∀ m ∈ modules, Registry.IsPart m) →
          Registry.IsPart type → Registry.IsArguments arguments →
          Registrable.typePath fresh = Registry.qualified modules type ++ arguments →
          Registry.proposed fresh = Text.lower type) := by
  have hnew : Admitted (new c : Facade σ ι) := admitted_of_empty rfl
  constructor
  · exact accounts_of_get (admitted_after events hnew) (get?_after events hnew)
  · intro fresh
    constructor
    · intro name hd
      exact Registry.proposed_of_declared hd
    · intro hd modules type arguments hm ht ha hp
      exact Registry.proposed_of_typePath hd hm ht ha hp

structure Tally where
  path : String
  declared : Option String
  count : ℕ

instance : Registrable Tally where
  typePath := Tally.path
  declaredName := Tally.declared
  fieldNames _ := ["count"]
  generate field := fun t =>
    if field = "count" then .ok (.int t.count) { t with count := t.count + 1 }
    else .error (.unsupportedOption "field" field) t

instance : LawfulRegistrable Tally where
  typePath_generate := by
    intro field t
    simp only [Registrable.generate]
    split <;> rfl

/-- Two types of one name, one of which declares another, and one that takes the name of a built-in provider. -/
def tallyRun : List (Event Tally) :=
  [.register ⟨"shop::Tally", none, 0⟩, .request (.generate "tally" "count"), .register ⟨"lab::Tally<u8>", none, 0⟩,
   .register ⟨"lab::Tally", some "lab_tally", 0⟩, .register ⟨"shop::Personal", none, 0⟩, .request .declaration]

def tallyContext : Context Keystream := ⟨"en", some 1, fun _ => default⟩

theorem accounts_after_tallyRun :
    LawfulRegistrable Tally ∧
      Accounts (log tallyRun (new tallyContext, Assets.store)) (after (new tallyContext, Assets.store) tallyRun) ∧
      (after (new tallyContext, Assets.store) tallyRun).1.registeredNames = ["lab_tally", "tally"] ∧
      Registry.proposed (⟨"lab::Tally<std::vec::Vec<u8>>", none, 0⟩ : Tally) = "tally" := by
  obtain ⟨haccounts, hnames⟩ := accounts_after tallyContext Assets.store tallyRun
  have hname := (hnames ⟨"lab::Tally<std::vec::Vec<u8>>", none, 0⟩).2 rfl ["lab"] "Tally" "<std::vec::Vec<u8>>"
    (by simp [Registry.IsPart]) (by simp [Registry.IsPart]) (.inr ⟨"std::vec::Vec<u8>", rfl⟩) rfl
  exact ⟨inferInstance, haccounts, by decide +kernel, hname⟩

end Facade
end SampleData
