import SampleData.CommandLine.Run
import SampleData.Proofs.Facade.Runs
import SampleData.Proofs.Store.History
import SampleData.Random.Keystream

/-! # Refused accesses

An access to a provider that is not built yet builds it, and is refused where the bundle for that is missing or
malformed. Building a provider is one load, and a load that fails leaves no trace, so a refused access changes neither
the facade nor its store: leave it out of a run, and nothing else is answered differently. As soon as the source
holds the bundle the access goes well. A provider that is built stays built, whatever becomes of the source.
-/
namespace SampleData

namespace Builtin

variable {σ : Type}

/-- The domain and the locale of the bundle that a provider is built from, if it needs one. -/
def bundleKey? (c : Context σ) : Builtin → Option (String × String)
  | .address => some (Address.domain, c.locale)
  | .business => some (Business.domain, c.locale)
  | .datetime => some (Datetime.domain, c.locale)
  | .food => some (Food.domain, c.locale)
  | .internet => some (Personal.domain, Locale.standard)
  | .personal => some (Personal.domain, c.locale)
  | .science => some (Science.domain, c.locale)
  | .text => some (Prose.domain, c.locale)
  | .clothingSizes | .code | .development | .file | .hardware | .network | .numbers | .transport => none

variable [SeededSource σ] {c : Context σ} {p : Builtin} {store after : Store}

theorem exists_build_eq_map {domain locale : String} (h : p.bundleKey? c = some (domain, locale)) :
    ∃ make : Bundle → p.State σ, p.build c = make <$> Store.load domain locale := by
  cases p <;> cases h <;> exact ⟨_, (map_eq_pure_bind _ _).symm⟩

theorem exists_build_eq_pure (h : p.bundleKey? c = none) : ∃ x : p.State σ, p.build c = pure x := by
  cases p <;> cases h <;> exact ⟨_, rfl⟩

/-- A provider cannot be built where its bundle is not cached and the source does not hold it, and the store stays
as it is then. -/
theorem build_eq_error_iff {e : Error} : p.build c store = .error e after ↔ after = store ∧
    ∃ domain locale, p.bundleKey? c = some (domain, locale) ∧ store.cache.get? (domain, locale) = none ∧
      Store.readBundle store.source domain locale = .error e := by
  constructor
  · intro h
    cases hk : p.bundleKey? c with
    | none =>
      obtain ⟨x, hx⟩ := exists_build_eq_pure hk
      rw [hx] at h
      cases h
    | some key =>
      obtain ⟨domain, locale⟩ := key
      obtain ⟨make, hm⟩ := exists_build_eq_map hk
      rw [hm] at h
      have hl := Gen.eq_error_of_map h
      refine ⟨Store.eq_of_load_error hl, domain, locale, rfl, ?_⟩
      cases hc : store.cache.get? (domain, locale) with
      | some b => cases (Store.load_of_cached hc).symm.trans hl
      | none => exact ⟨rfl, (Store.load_eq_error_iff hc e).mp ⟨after, hl⟩⟩
  · rintro ⟨rfl, domain, locale, hk, hc, hr⟩
    obtain ⟨make, hm⟩ := exists_build_eq_map hk
    rw [hm]
    exact Gen.map_of_error (Store.load_of_unreadable hc hr)

/-- A bundle that is not cached is the one the source holds now, so the provider is built as over a fresh store. -/
theorem build_eq_fresh {domain locale : String} {b : Bundle} (hk : p.bundleKey? c = some (domain, locale))
    (hc : store.cache.get? (domain, locale) = none) (hr : Store.readBundle store.source domain locale = .ok b) :
    ∃ x after own, p.build c store = .ok x after ∧ p.build c (.ofSource store.source) = .ok x own := by
  obtain ⟨make, hm⟩ := exists_build_eq_map hk
  rw [hm]
  exact ⟨make b, _, _, Gen.map_of_ok (Store.load_of_readable hc hr), Gen.map_of_ok (Store.load_of_readable rfl hr)⟩

/-- The entries lead a provider from one state to another: every query runs on the state that the one before left,
over whatever store there is then, and its reply is the one of the entry. -/
def Leads {p : Builtin} : p.State σ → List (p.Query × Except Error Json) → p.State σ → Prop
  | x, [], y => x = y
  | x, (q, reply) :: entries, y => ∃ store : Store,
    Gen.answer (q.perform (x, store)) = reply ∧ Leads (Gen.left (q.perform (x, store))).1 entries y

theorem Leads.append {x y z : p.State σ} {entries more : List (p.Query × Except Error Json)}
    (h : Leads x entries y) (hm : Leads y more z) : Leads x (entries ++ more) z := by
  induction entries generalizing x with
  | nil =>
    obtain rfl : x = y := h
    exact hm
  | cons e es ih =>
    obtain ⟨store, hr, hl⟩ := h
    exact ⟨store, hr, ih hl⟩

end Builtin

namespace Facade

variable {σ ι : Type} [SeededSource σ] {p : Builtin} {st st' : Facade σ ι × Store} {e : Error}

/-- The error that an access to `p` is refused with: `p` is not built yet, and building it fails. -/
def refusal? (p : Builtin) (st : Facade σ ι × Store) : Option Error :=
  match st.1.slots.get p with
  | some _ => none
  | none =>
    match p.build st.1.context st.2 with
    | .ok _ _ => none
    | .error e _ => some e

theorem refusal?_eq_some_iff : refusal? p st = some e ↔
    st.1.slots.get p = none ∧ p.build st.1.context st.2 = .error e st.2 := by
  unfold refusal?
  cases hg : st.1.slots.get p with
  | some x => simp
  | none =>
    cases hb : p.build st.1.context st.2 with
    | ok x after => simp
    | error e' after =>
      obtain ⟨rfl, _⟩ := Builtin.build_eq_error_iff.mp hb
      simp

/-- An access fails where it is refused, and then it changes nothing. -/
theorem ensure_eq_error_iff : ensure p st = .error e st' ↔ refusal? p st = some e ∧ st' = st := by
  obtain ⟨f, store⟩ := st
  rw [refusal?_eq_some_iff]
  cases hg : f.slots.get p with
  | some x => simp [ensure_of_get hg]
  | none =>
    cases hb : p.build f.context store with
    | ok x after => simp [ensure_of_build hg hb]
    | error e' after =>
      obtain ⟨rfl, _⟩ := Builtin.build_eq_error_iff.mp hb
      simp [ensure_of_unbuildable hg hb, eq_comm]

/-- A refused access leaves the facade and its store as they were. -/
theorem ensure_of_refusal (h : refusal? p st = some e) : ensure p st = .error e st :=
  ensure_eq_error_iff.mpr ⟨h, rfl⟩

theorem exists_ensure_of_accepted (h : refusal? p st = none) : ∃ x st', ensure p st = .ok x st' := by
  cases he : ensure p st with
  | ok x st' => exact ⟨x, st', rfl⟩
  | error e st' => cases h.symm.trans (ensure_eq_error_iff.mp he).1

variable {x : p.State σ}

theorem get_left_ensure (hx : st.1.slots.get p = some x) (q : Builtin) :
    (Gen.left (ensure q st)).1.slots.get p = some x := by
  obtain ⟨f, store⟩ := st
  cases hg : f.slots.get q with
  | some y => rw [ensure_of_get hg, Gen.left_ok, hx]
  | none =>
    have hq : p ≠ q := by
      rintro rfl
      cases hg.symm.trans hx
    cases hb : q.build f.context store with
    | ok y after =>
      rw [ensure_of_build hg hb, Gen.left_ok]
      exact (Slots.get_set_of_ne f.slots hq y).trans hx
    | error e after => rw [ensure_of_unbuildable hg hb, Gen.left_error, hx]

theorem get_left_onProvider_of_ne {α : Type} {q : Builtin} (hq : p ≠ q) (hx : st.1.slots.get p = some x)
    (step : Gen (q.State σ × Store) α) : (Gen.left (onProvider q step st)).1.slots.get p = some x := by
  have hl := get_left_ensure hx q
  cases he : ensure q st with
  | error e st' =>
    rw [he, Gen.left_error] at hl
    rw [onProvider_of_failed he, Gen.left_error, hl]
  | ok y st' =>
    rw [he, Gen.left_ok] at hl
    rw [onProvider_of_ensure he]
    cases step (y, st'.2) with
    | ok a part => exact (Slots.get_set_of_ne st'.1.slots hq part.1).trans hl
    | error e part => exact (Slots.get_set_of_ne st'.1.slots hq part.1).trans hl

/-- The provider `p` is built behind the entries, which lead it there from the state `x`. -/
def Carries (x : p.State σ) (entries : List Asked) (st : Facade σ ι × Store) : Prop :=
  ∃ y, st.1.slots.get p = some y ∧ Builtin.Leads x (Asked.of p entries) y

theorem carries_nil (hx : st.1.slots.get p = some x) : Carries x [] st := ⟨x, hx, rfl⟩

theorem carries_ask (hx : st.1.slots.get p = some x) (q : Builtin) (query : q.Query) :
    Carries x [⟨q, query, Gen.answer (onProvider q query.perform st)⟩]
      (Gen.left (onProvider q query.perform st)) := by
  by_cases hq : q = p
  · subst hq
    obtain ⟨f, store⟩ := st
    rw [onProvider_of_get hx]
    refine ⟨(Gen.left (query.perform (x, store))).1, ?_, ?_⟩
    · cases query.perform (x, store) <;> exact get_place f q _
    · rw [Asked.of_cons_self]
      refine ⟨store, ?_, rfl⟩
      cases query.perform (x, store) <;> rfl
  · refine ⟨x, get_left_onProvider_of_ne (Ne.symm hq) hx query.perform, ?_⟩
    rw [Asked.of_cons_of_ne hq]
    rfl

theorem Carries.append {entries more : List Asked} (h : Carries x entries st)
    (hm : ∀ y : p.State σ, st.1.slots.get p = some y → Carries y more st') : Carries x (entries ++ more) st' := by
  obtain ⟨y, hy, hl⟩ := h
  obtain ⟨z, hz, hl'⟩ := hm y hy
  refine ⟨z, hz, ?_⟩
  rw [Asked.of_append]
  exact hl.append hl'

/-- A script moves a built provider on by the queries it asks it, and by nothing else. -/
theorem carries_asked {α : Type} (s : Script σ α) (hx : st.1.slots.get p = some x) :
    Carries x (s.asked host st) (Gen.left (s.run host st)) := by
  induction s generalizing st x with
  | answer a => exact carries_nil hx
  | fail e => exact carries_nil hx
  | ask q query next ih =>
    have hc := carries_ask hx q query
    cases ho : onProvider q query.perform st with
    | ok reply st' =>
      have hs : (Script.ask q query next).asked host st = [⟨q, query, .ok reply⟩] ++ (next reply).asked host st' := by
        simp only [Script.asked, host, ho, List.singleton_append]
      have hr : (Script.ask q query next).run host st = (next reply).run host st' := Gen.bind_of_ok ho
      rw [ho] at hc
      rw [hs, hr]
      exact hc.append fun y hy => ih reply hy
    | error e st' =>
      have hs : (Script.ask q query next).asked host st = [⟨q, query, .error e⟩] := by
        simp only [Script.asked, host, ho]
      have hr : (Script.ask q query next).run host st = .error e st' := Gen.bind_of_error ho
      rw [ho] at hc
      rw [hs, hr]
      exact hc
  | draw step next ih => exact ih (step st.1.markup).1 hx

end Facade

/-- The provider that a request accesses before anything else, by its accessor or by its name. -/
def Request.accesses? : Request → Option Builtin
  | .call p _ => some p
  | .generate provider _ => Builtin.ofName? provider
  | .fields provider => Builtin.ofName? provider
  | .json provider _ => (Facade.documentKeys.find? fun e => e.1.name == provider).map (·.1)
  | .declaration | .rule | .element | .attributeValue _ _ => none

theorem Request.exists_script_of_accesses {σ : Type} [SeededSource σ] {r : Request} {p : Builtin}
    (h : r.accesses? = some p) : ∃ q next, r.script? σ = some (.ask p q next) := by
  cases r with
  | call p' c =>
    cases h
    exact ⟨_, _, rfl⟩
  | generate provider field => exact ⟨_, _, congrArg (Option.map _) h⟩
  | fields provider => exact ⟨_, _, congrArg (Option.map _) h⟩
  | json provider items =>
    obtain ⟨⟨p', key⟩, hf, rfl⟩ := Option.map_eq_some_iff.mp h
    refine ⟨.records items, fun reply => .answer (Json.ofFields [(key, reply)]), congrArg some ?_⟩
    simp only [Script.json, hf]
  | _ => cases h

namespace Facade

variable {σ ι : Type} [SeededSource σ] [Registrable ι] {p : Builtin} {st : Facade σ ι × Store} {e : Error}

/-- What accesses a refused provider fails with the refusal, and changes nothing. -/
theorem answer_of_refusal {r : Request} (h : r.accesses? = some p) (hr : refusal? p st = some e) :
    answer r st = .error e st := by
  obtain ⟨q, next, hs⟩ := Request.exists_script_of_accesses (σ := σ) h
  rw [answer_eq_run hs]
  exact Gen.bind_of_error (onProvider_of_failed (ensure_of_refusal hr) q.perform)

def askedBy (r : Request) (st : Facade σ ι × Store) : List Asked :=
  match r.script? σ with
  | some script => script.asked host st
  | none => []

omit [Registrable ι] in
theorem carries_onRegistered {α : Type} {x : p.State σ} (hx : st.1.slots.get p = some x) (step : Gen (Registry ι) α) :
    Carries x [] (Gen.left (onRegistered step st)) := by
  refine carries_nil ?_
  rw [onRegistered_eq]
  cases step st.1.registered <;> exact hx

/-- A request moves a provider on by what it asks of it and by nothing else. -/
theorem carries_answer {x : p.State σ} (hx : st.1.slots.get p = some x) (r : Request) :
    Carries x (askedBy r st) (Gen.left (answer r st)) := by
  unfold askedBy
  cases hs : r.script? σ with
  | some script =>
    rw [answer_eq_run hs]
    exact carries_asked script hx
  | none =>
    obtain ⟨step, ha⟩ := exists_onRegistered_of_unscripted (ι := ι) hs
    rw [ha]
    exact carries_onRegistered hx step

/-- What can happen to a facade and to the store it works on: an event of the facade, a bare access to a provider, or
an event of the store, which others may use as well and whose source may change. -/
inductive Turn (ι : Type) [Registrable ι] where
  | event (e : Event ι)
  | access (p : Builtin)
  | store (e : Store.Event)

inductive Reply where
  | facade (result : Except Error Json)
  | store (answer : Store.Answer)

namespace Turn

def accesses? : Turn ι → Option Builtin
  | .access p => some p
  | .event (.request r) => r.accesses?
  | _ => none

def refusal? (t : Turn ι) (st : Facade σ ι × Store) : Option Error :=
  t.accesses?.bind fun p => Facade.refusal? p st

def perform : Turn ι → Facade σ ι × Store → Reply × (Facade σ ι × Store)
  | .event e, st => (.facade (Gen.answer (react e st)), Gen.left (react e st))
  | .access p, st =>
    let outcome := ((fun _ => Json.null) <$> ensure p : Step σ ι Json) st
    (.facade (Gen.answer outcome), Gen.left outcome)
  | .store e, (f, own) => (.store (own.react e).1, f, (own.react e).2)

/-- A refused access fails and changes nothing. -/
theorem perform_of_refusal {t : Turn ι} (h : t.refusal? st = some e) : t.perform st = (.facade (.error e), st) := by
  obtain ⟨p, hp, hr⟩ := Option.bind_eq_some_iff.mp h
  cases t with
  | access p' =>
    cases hp
    have he : ((fun _ => Json.null) <$> ensure p : Step σ ι Json) st = .error e st :=
      Gen.map_of_error (ensure_of_refusal hr)
    simp only [perform, he, Gen.answer_error, Gen.left_error]
  | event ev =>
    cases ev with
    | request r =>
      have he : react (.request r) st = .error e st := answer_of_refusal hp hr
      simp only [perform, he, Gen.answer_error, Gen.left_error]
    | register fresh => cases hp
    | visit name step sameType => cases hp
  | store ev => cases hp

def asked : Turn ι → Facade σ ι × Store → List Asked
  | .event (.request r), st => askedBy r st
  | _, _ => []

/-- A turn moves a built provider on by the queries it asks it, and by nothing else. -/
theorem carries_perform {x : p.State σ} (hx : st.1.slots.get p = some x) (t : Turn ι) :
    Carries x (t.asked st) (t.perform st).2 := by
  cases t with
  | event ev =>
    cases ev with
    | request r => exact carries_answer hx r
    | register fresh =>
      have hc : Carries x [] (Gen.left ((Json.str <$> Facade.register fresh : Step σ ι Json) st)) := by
        rw [Gen.left_map]
        exact carries_onRegistered hx _
      exact hc
    | visit name step _ => exact carries_onRegistered hx _
  | access q =>
    have hc : Carries x [] (Gen.left (((fun _ => Json.null) <$> ensure q : Step σ ι Json) st)) := by
      rw [Gen.left_map]
      exact carries_nil (get_left_ensure hx q)
    exact hc
  | store ev => exact carries_nil hx

structure Entry (ι : Type) [Registrable ι] where
  turn : Turn ι
  refusal : Option Error
  reply : Reply

def log : List (Turn ι) → Facade σ ι × Store → List (Entry ι)
  | [], _ => []
  | t :: ts, st => ⟨t, t.refusal? st, (t.perform st).1⟩ :: log ts (t.perform st).2

def after (turns : List (Turn ι)) (st : Facade σ ι × Store) : Facade σ ι × Store :=
  turns.foldl (fun st t => (t.perform st).2) st

def askedAlong : List (Turn ι) → Facade σ ι × Store → List Asked
  | [], _ => []
  | t :: ts, st => t.asked st ++ askedAlong ts (t.perform st).2

/-- A run moves a provider on by what is asked of it and by nothing else. -/
theorem carries_after {x : p.State σ} (hx : st.1.slots.get p = some x) (turns : List (Turn ι)) :
    Carries x (askedAlong turns st) (after turns st) := by
  induction turns generalizing st x with
  | nil => exact carries_nil hx
  | cons t ts ih => exact (carries_perform hx t).append fun y hy => ih hy

/-- The turns of a run that are not refused where they come. -/
def kept : List (Turn ι) → Facade σ ι × Store → List (Turn ι)
  | [], _ => []
  | t :: ts, st =>
    match t.refusal? st with
    | some _ => kept ts (t.perform st).2
    | none => t :: kept ts (t.perform st).2

theorem after_append (turns more : List (Turn ι)) (st : Facade σ ι × Store) :
    after (turns ++ more) st = after more (after turns st) := List.foldl_append

theorem log_append (turns more : List (Turn ι)) (st : Facade σ ι × Store) :
    log (turns ++ more) st = log turns st ++ log more (after turns st) := by
  induction turns generalizing st with
  | nil => rfl
  | cons t ts ih => exact congrArg (List.cons _) (ih _)

theorem after_kept (turns : List (Turn ι)) (st : Facade σ ι × Store) : after (kept turns st) st = after turns st := by
  induction turns generalizing st with
  | nil => rfl
  | cons t ts ih =>
    unfold kept
    cases hr : t.refusal? st with
    | none => exact ih _
    | some e =>
      have hp : (t.perform st).2 = st := congrArg Prod.snd (perform_of_refusal hr)
      have hi := ih st
      simp only [after, List.foldl_cons, hp] at hi ⊢
      exact hi

/-- Without its refused turns, a run has its log without their entries. -/
theorem log_kept (turns : List (Turn ι)) (st : Facade σ ι × Store) :
    log (kept turns st) st = (log turns st).filter (·.refusal.isNone) := by
  induction turns generalizing st with
  | nil => rfl
  | cons t ts ih =>
    unfold kept
    cases hr : t.refusal? st with
    | none =>
      rw [log, log, hr, List.filter_cons_of_pos rfl, ih]
    | some e =>
      have hp : (t.perform st).2 = st := congrArg Prod.snd (perform_of_refusal hr)
      rw [log, hr, List.filter_cons_of_neg (by simp), hp]
      exact ih st

end Turn

structure Unnoticed (turns : List (Turn ι)) (st : Facade σ ι × Store) : Prop where
  /-- An access is refused where its provider is not built and its bundle neither cached nor in the source now. -/
  refused_iff : ∀ p e, refusal? p (Turn.after turns st) = some e ↔
    (Turn.after turns st).1.slots.get p = none ∧
      ∃ domain locale, p.bundleKey? (Turn.after turns st).1.context = some (domain, locale) ∧
        (Turn.after turns st).2.cache.get? (domain, locale) = none ∧
          Store.readBundle (Turn.after turns st).2.source domain locale = .error e
  /-- An access that is not refused goes well, and one that is changes nothing. -/
  accepted : ∀ p, refusal? p (Turn.after turns st) = none →
    ∃ x st', ensure p (Turn.after turns st) = .ok x st' ∧ st'.1.slots.get p = some x
  unchanged : ∀ (t : Turn ι) e, t.refusal? (Turn.after turns st) = some e →
    t.perform (Turn.after turns st) = (.facade (.error e), Turn.after turns st)
  /-- Without the refused turns, the run leaves the same behind, -/
  left : Turn.after (Turn.kept turns st) st = Turn.after turns st
  /-- and all other turns have the same replies, those along the run and those to come. -/
  replies : ∀ more, Turn.log (turns ++ more) st = Turn.log turns st ++ Turn.log more (Turn.after turns st) ∧
    Turn.log (Turn.kept turns st ++ more) st =
      (Turn.log turns st).filter (·.refusal.isNone) ++ Turn.log more (Turn.after turns st)
  /-- As soon as the source holds the bundle, the provider is built as over a fresh store. -/
  recovered : ∀ p e, refusal? p (Turn.after turns st) = some e →
    ∃ domain locale, p.bundleKey? (Turn.after turns st).1.context = some (domain, locale) ∧
      ∀ next b, Store.readBundle next domain locale = .ok b → ∃ x st' own,
        ensure p (Turn.after (turns ++ [.store (.change next)]) st) = .ok x st' ∧ st'.1.slots.get p = some x ∧
          p.build (Turn.after turns st).1.context (.ofSource next) = .ok x own
  /-- A provider that was built is moved on by the queries to it and by nothing else, and no source and no store
  can have an access to it refused. -/
  built : ∀ (p : Builtin) (x : p.State σ), st.1.slots.get p = some x →
    ∃ y, Builtin.Leads x (Asked.of p (Turn.askedAlong turns st)) y ∧
      ∀ store, ensure p ((Turn.after turns st).1, store) = .ok y ((Turn.after turns st).1, store)

/-- Along every run of a facade over a source that may change, refused accesses go unnoticed. -/
theorem refusals_unnoticed (turns : List (Turn ι)) (st : Facade σ ι × Store) : Unnoticed turns st where
  refused_iff := by
    intro p e
    rw [refusal?_eq_some_iff, Builtin.build_eq_error_iff, eq_self_iff_true, true_and]
  accepted := by
    intro p h
    obtain ⟨x, st', he⟩ := exists_ensure_of_accepted h
    exact ⟨x, st', he, get_of_ensure he⟩
  unchanged := by
    intro t e h
    exact Turn.perform_of_refusal h
  left := Turn.after_kept turns st
  replies := by
    intro more
    refine ⟨Turn.log_append turns more st, ?_⟩
    rw [Turn.log_append, Turn.log_kept, Turn.after_kept]
  recovered := by
    intro p e h
    obtain ⟨hg, hb⟩ := refusal?_eq_some_iff.mp h
    obtain ⟨_, domain, locale, hk, hc, _⟩ := Builtin.build_eq_error_iff.mp hb
    refine ⟨domain, locale, hk, ?_⟩
    intro next b hr
    rw [Turn.after_append]
    generalize Turn.after turns st = s at *
    obtain ⟨f, store⟩ := s
    have hb : ∃ x after own, p.build f.context { store with source := next } = .ok x after ∧
        p.build f.context (.ofSource next) = .ok x own := Builtin.build_eq_fresh hk hc hr
    obtain ⟨x, after, own, hx, ho⟩ := hb
    exact ⟨x, _, own, ensure_of_build hg hx, get_place f p _, ho⟩
  built := by
    intro p x hx
    obtain ⟨y, hy, hl⟩ := Turn.carries_after hx turns
    exact ⟨y, hl, ensure_of_get hy⟩

def bare : Facade Keystream Empty × Store := (new ⟨"de", some 1, fun _ => default⟩, .ofSource (.ofTable []))

def lateRun : List (Turn Empty) :=
  [.event (.request (.generate "personal" "cvv")), .access .personal,
    .store (.change (.ofTable [⟨"de", Personal.domain, "\x7b\x7d"⟩])), .event (.request (.generate "personal" "cvv")),
    .store (.change (.ofTable [])), .access .personal]

theorem refusals_unnoticed_lateRun :
    (Turn.log lateRun bare).map (·.refusal.isSome) = [true, true, false, false, false, false] ∧
      Unnoticed lateRun bare :=
  ⟨by decide +kernel, refusals_unnoticed lateRun bare⟩

end Facade

end SampleData
