import SampleData.Proofs.Entries
import SampleData.Proofs.Store.Loading

/-! # Stores over whole histories

A history is any sequence of loads, questions about the cache and changes of what lies behind the store. The
log of a history pairs every event with its answer, and from the log alone one reads off what the store
remembers: for every key the bundle of the first load of that key that went well. A key that was never loaded
well is decided by what the source holds at that moment.
-/
namespace SampleData.Store

inductive Event where
  | load (domain locale : String)
  | isCached (domain locale : String)
  | cachedKeys
  | change (source : Source)

inductive Answer where
  | loaded (result : Except Error Bundle)
  | cached (b : Bool)
  | keys (ks : List (String × String))
  | silent

def react (store : Store) : Event → Answer × Store
  | .load domain locale =>
    match load domain locale store with
    | .ok bundle after => (.loaded (.ok bundle), after)
    | .error e after => (.loaded (.error e), after)
  | .isCached domain locale => (.cached (store.isCached domain locale), store)
  | .cachedKeys => (.keys store.cachedKeys, store)
  | .change source => (.silent, { store with source := source })

def after (store : Store) (events : List Event) : Store :=
  events.foldl (fun s e => (s.react e).2) store

def log (store : Store) : List Event → List (Event × Answer)
  | [] => []
  | e :: es => (e, (store.react e).1) :: log (store.react e).2 es

def sourceAfter (source : Source) : List Event → Source
  | [] => source
  | .change next :: es => sourceAfter next es
  | _ :: es => sourceAfter source es

def gained (key : String × String) : Event × Answer → Option Bundle
  | (.load domain locale, .loaded (.ok bundle)) => if (domain, locale) = key then some bundle else none
  | _ => none

def firstGained (key : String × String) (entries : List (Event × Answer)) : Option Bundle :=
  entries.findSome? (gained key)

theorem get?_react (store : Store) (e : Event) (key : String × String) :
    (store.react e).2.cache.get? key =
      (store.cache.get? key).or (gained key (e, (store.react e).1)) := by
  cases e with
  | isCached domain locale => simp [react, gained]
  | cachedKeys => simp [react, gained]
  | change source => simp [react, gained]
  | load domain locale =>
    cases hc : store.cache.get? (domain, locale) with
    | some b =>
      simp only [react, load_of_cached hc, gained]
      by_cases hk : (domain, locale) = key
      · subst hk
        simp [hc]
      · simp [hk]
    | none =>
      cases hr : readBundle store.source domain locale with
      | error e => simp [react, load_of_unreadable hc hr, gained]
      | ok b =>
        simp only [react, load_of_readable hc hr, gained]
        by_cases hk : (domain, locale) = key
        · subst hk
          simp [hc]
        · simp [hk, SortedMap.get?_insert_of_ne _ (Ne.symm hk)]

/-- The cache after a history is the cache before it and, for keys that were not there, the first bundle
that the log shows. -/
theorem get?_after (store : Store) (events : List Event) (key : String × String) :
    (store.after events).cache.get? key =
      (store.cache.get? key).or (firstGained key (store.log events)) := by
  induction events generalizing store with
  | nil => simp [after, log, firstGained]
  | cons e es ih =>
    have hs := get?_react store e key
    have hi := ih (store.react e).2
    simp only [after, List.foldl_cons] at hi ⊢
    rw [hi, hs, Option.or_assoc]
    simp only [firstGained, log, List.findSome?_cons]
    cases gained key (e, (store.react e).1) <;> rfl

theorem source_react (store : Store) (e : Event) :
    (store.react e).2.source = sourceAfter store.source [e] := by
  cases e with
  | load domain locale =>
    cases hc : store.cache.get? (domain, locale) with
    | some b => simp [react, load_of_cached hc, sourceAfter]
    | none =>
      cases hr : readBundle store.source domain locale with
      | ok b => simp [react, load_of_readable hc hr, sourceAfter]
      | error e => simp [react, load_of_unreadable hc hr, sourceAfter]
  | isCached domain locale => rfl
  | cachedKeys => rfl
  | change source => rfl

theorem source_after (store : Store) (events : List Event) :
    (store.after events).source = sourceAfter store.source events := by
  induction events generalizing store with
  | nil => rfl
  | cons e es ih =>
    have hi := ih (store.react e).2
    rw [source_react] at hi
    cases e <;> exact hi

def Keyed (store : Store) : Prop :=
  ∀ domain locale b, store.cache.get? (domain, locale) = some b → b.domain = domain ∧ b.locale = locale

theorem keyed_ofSource (source : Source) : Keyed (ofSource source) := by
  intro domain locale b h
  simp [ofSource] at h

theorem keyed_react {store : Store} (h : Keyed store) (e : Event) : Keyed (store.react e).2 := by
  intro domain locale b hb
  rw [get?_react] at hb
  cases hc : store.cache.get? (domain, locale) with
  | some c =>
    simp only [hc, Option.some_or, Option.some.injEq] at hb
    exact h domain locale b (hb ▸ hc)
  | none =>
    simp only [hc, Option.none_or] at hb
    cases e with
    | isCached d l => simp [gained] at hb
    | cachedKeys => simp [gained] at hb
    | change source => simp [gained] at hb
    | load d l =>
      by_cases hk : (d, l) = (domain, locale)
      · obtain ⟨rfl, rfl⟩ := Prod.mk.injEq .. ▸ hk
        cases hr : readBundle store.source d l with
        | error e => simp [react, load_of_unreadable hc hr, gained] at hb
        | ok c =>
          simp only [react, load_of_readable hc hr, gained, ↓reduceIte, Option.some.injEq] at hb
          obtain ⟨text, fields, _, _, rfl⟩ := readBundle_eq_ok_iff.mp hr
          subst hb
          exact ⟨rfl, rfl⟩
      · cases hl : load d l store <;> simp [react, hl, gained, hk] at hb

theorem keyed_after {store : Store} (h : Keyed store) (events : List Event) :
    Keyed (store.after events) := by
  induction events generalizing store with
  | nil => exact h
  | cons e es ih => exact ih (keyed_react h e)

/-- What a store answers and shows when `entries` is the log of all that happened to it and `source` lies
behind it. -/
structure Snapshot (entries : List (Event × Answer)) (source : Source) (store : Store) : Prop where
  /-- A key that was loaded well before answers with the bundle of the first time. -/
  kept : ∀ domain locale b, firstGained (domain, locale) entries = some b →
    load domain locale store = .ok b store ∧ b.domain = domain ∧ b.locale = locale
  /-- Any other key loads well where the present text is an object. -/
  accepted : ∀ domain locale, firstGained (domain, locale) entries = none → ∀ b,
    (∃ after, load domain locale store = .ok b after) ↔
      ∃ text fields, source.read domain locale = .ok (some text) ∧
        Json.read? text = some (.object fields) ∧ b = ⟨domain, locale, .object fields⟩
  /-- It fails where the source fails, there is no text, or the text is something else. -/
  refused : ∀ domain locale, firstGained (domain, locale) entries = none → ∀ e,
    (∃ after, load domain locale store = .error e after) ↔
      source.read domain locale = .error e ∨
      (source.read domain locale = .ok none ∧ e = .resourceNotFound domain locale) ∨
      ∃ text, source.read domain locale = .ok (some text) ∧
        ((Json.read? text = none ∧ e = .invalidBundle (.notJson locale domain)) ∨
          ∃ data, Json.read? text = some data ∧ data.isObject = false ∧
            e = .invalidBundle (.notAnObject locale domain))
  unchanged : ∀ domain locale e after, load domain locale store = .error e after → after = store
  /-- A failed load is not remembered: it goes well as soon as the source holds a bundle. -/
  retried : ∀ domain locale e, (store.react (.load domain locale)).1 = .loaded (.error e) →
    ∀ next b, readBundle next domain locale = .ok b →
      ((store.after [.load domain locale, .change next]).react (.load domain locale)).1 = .loaded (.ok b)
  listed : ∀ key, key ∈ store.cachedKeys ↔ ∃ b, firstGained key entries = some b
  known : ∀ domain locale, store.isCached domain locale = true ↔ (domain, locale) ∈ store.cachedKeys
  ascending : store.cachedKeys.Pairwise fun a b => KeyOrder.before a b = true

/-- A store whose cache holds the first good loads of its log shows what the log says. -/
theorem snapshot_of_keyed {store : Store} {entries : List (Event × Answer)} (hk : Keyed store)
    (hc : ∀ key, store.cache.get? key = firstGained key entries) : Snapshot entries store.source store where
  kept := by
    intro domain locale b h
    have hb : store.cache.get? (domain, locale) = some b := (hc _).trans h
    exact ⟨load_of_cached hb, hk domain locale b hb⟩
  accepted := by
    intro domain locale h b
    rw [load_eq_ok_iff ((hc _).trans h)]
    exact readBundle_eq_ok_iff
  refused := by
    intro domain locale h e
    rw [load_eq_error_iff ((hc _).trans h)]
    exact readBundle_eq_error_iff
  unchanged := by
    intro domain locale e after h
    exact eq_of_load_error h
  retried := by
    intro domain locale e h next b hb
    cases hu : store.cache.get? (domain, locale) with
    | some c => simp [react, load_of_cached hu] at h
    | none =>
      cases hr : readBundle store.source domain locale with
      | ok c => simp [react, load_of_readable hu hr] at h
      | error e' =>
        have hl : load domain locale { store with source := next } = .ok b _ := load_of_readable hu hb
        simp [after, react, load_of_unreadable hu hr, hl]
  listed := by
    intro key
    rw [cachedKeys, SortedMap.mem_keys_iff]
    simp only [hc]
  known := by
    intro domain locale
    rw [cachedKeys, SortedMap.mem_keys_iff, isCached, Option.isSome_iff_exists]
  ascending := SortedMap.keys_pairwise store.cache

theorem Faithful.react {source : Source} {store : Store} (h : Faithful source store) {e : Event}
    (he : ∀ next, e ≠ .change next) : Faithful source (store.react e).2 ∧
      ∀ domain locale, e = .load domain locale →
        (store.react e).1 = .loaded (readBundle source domain locale) := by
  cases e with
  | isCached d l => exact ⟨h, by simp⟩
  | cachedKeys => exact ⟨h, by simp⟩
  | change next => exact absurd rfl (he next)
  | load d l =>
    obtain ⟨after, ha, hl⟩ := h.load d l
    cases hr : readBundle source d l with
    | ok b =>
      rw [hr] at hl
      refine ⟨by simpa only [Store.react, hl] using ha, ?_⟩
      rintro _ _ ⟨rfl, rfl⟩
      simp [Store.react, hl, hr]
    | error e =>
      rw [hr] at hl
      refine ⟨by simpa only [Store.react, hl] using ha, ?_⟩
      rintro _ _ ⟨rfl, rfl⟩
      simp [Store.react, hl, hr]

/-- As long as the source does not change, the log is that of a store without a cache. -/
theorem Faithful.log {source : Source} {store : Store} (h : Faithful source store) {events : List Event}
    (he : ∀ next, .change next ∉ events) {domain locale : String} {answer : Answer}
    (ha : (.load domain locale, answer) ∈ store.log events) :
    answer = .loaded (readBundle source domain locale) := by
  induction events generalizing store with
  | nil => simp [Store.log] at ha
  | cons e es ih =>
    have hne : ∀ next, e ≠ .change next := by
      rintro next rfl
      exact he next (List.mem_cons_self ..)
    obtain ⟨hf, hl⟩ := h.react hne
    rcases List.mem_cons.mp ha with heq | ha
    · obtain ⟨rfl, rfl⟩ := Prod.mk.inj heq
      exact hl domain locale rfl
    · exact ih hf (fun next hn => he next (List.mem_cons_of_mem _ hn)) ha

/-- The store is a snapshot of first successes: after any history of loads, questions and changes of the source,
what it answers and shows is determined by its log and by the present source. As long as the source did not
change, every load in the log is answered as without a cache. -/
theorem snapshot_after (source : Source) (past : List Event) :
    Snapshot ((ofSource source).log past) (sourceAfter source past) ((ofSource source).after past) ∧
    ((∀ next, .change next ∉ past) → ∀ domain locale answer,
      (.load domain locale, answer) ∈ (ofSource source).log past →
        answer = .loaded (readBundle source domain locale)) := by
  constructor
  · have hk := keyed_after (keyed_ofSource source) past
    have hc : ∀ key, ((ofSource source).after past).cache.get? key =
        firstGained key ((ofSource source).log past) := by
      intro key
      simpa [ofSource] using get?_after (ofSource source) past key
    have hs := snapshot_of_keyed hk hc
    rw [source_after] at hs
    exact hs
  · intro he domain locale answer ha
    exact (faithful_ofSource source).log he ha

end SampleData.Store
