import Mathlib.Data.List.Basic
import SampleData.Store

/-! # Single loads

What one load does: a cached key answers with what is cached, any other key with what the source holds. Where a
cache holds nothing but what the source holds, the two cannot be told apart, so a store that nobody disturbs
answers as if it had no cache.
-/
namespace SampleData.Store

/-- A bundle is read where the text is that of an object. -/
theorem readBundle_eq_ok_iff {source : Source} {domain locale : String} {b : Bundle} :
    readBundle source domain locale = .ok b ↔ ∃ text fields, source.read domain locale = .ok (some text) ∧
      Json.read? text = some (.object fields) ∧ b = ⟨domain, locale, .object fields⟩ := by
  unfold readBundle
  constructor
  · intro h
    cases hr : source.read domain locale with
    | error e => simp [hr] at h
    | ok found =>
      cases found with
      | none => simp [hr] at h
      | some text =>
        simp only [hr] at h
        cases hj : Json.read? text with
        | none => simp [hj] at h
        | some data =>
          cases data <;> simp [hj, Json.isObject] at h
          exact ⟨text, _, rfl, hj, h.symm⟩
  · rintro ⟨text, fields, hr, hj, rfl⟩
    simp [hr, hj, Json.isObject]

/-- Reading a bundle fails where the source fails or has no text, or where the text is not that of an object. -/
theorem readBundle_eq_error_iff {source : Source} {domain locale : String} {e : Error} :
    readBundle source domain locale = .error e ↔
      source.read domain locale = .error e ∨
      (source.read domain locale = .ok none ∧ e = .resourceNotFound domain locale) ∨
      ∃ text, source.read domain locale = .ok (some text) ∧
        ((Json.read? text = none ∧ e = .invalidBundle (.notJson locale domain)) ∨
          ∃ data, Json.read? text = some data ∧ data.isObject = false ∧
            e = .invalidBundle (.notAnObject locale domain)) := by
  unfold readBundle
  constructor
  · intro h
    cases hr : source.read domain locale with
    | error e' =>
      simp only [hr] at h
      cases h
      exact .inl rfl
    | ok found =>
      right
      cases found with
      | none =>
        simp only [hr] at h
        cases h
        exact .inl ⟨rfl, rfl⟩
      | some text =>
        refine .inr ⟨text, rfl, ?_⟩
        simp only [hr] at h
        cases hj : Json.read? text with
        | none =>
          simp only [hj] at h
          cases h
          exact .inl ⟨rfl, rfl⟩
        | some data =>
          simp only [hj] at h
          cases ho : data.isObject with
          | true => simp [ho] at h
          | false =>
            simp only [ho, Bool.false_eq_true, ↓reduceIte] at h
            cases h
            exact .inr ⟨data, rfl, ho, rfl⟩
  · rintro (hr | ⟨hr, rfl⟩ | ⟨text, hr, ⟨hj, rfl⟩ | ⟨data, hj, ho, rfl⟩⟩)
    · simp only [hr]
    · simp only [hr]
    · simp only [hr, hj]
    · simp [hr, hj, ho]

theorem load_of_cached {store : Store} {domain locale : String} {b : Bundle}
    (h : store.cache.get? (domain, locale) = some b) : load domain locale store = .ok b store := by
  simp [load, h]

theorem load_of_readable {store : Store} {domain locale : String} {b : Bundle}
    (h : store.cache.get? (domain, locale) = none)
    (hr : readBundle store.source domain locale = .ok b) :
    load domain locale store = .ok b { store with cache := store.cache.insert (domain, locale) b } := by
  simp only [load, h, hr]

theorem load_of_unreadable {store : Store} {domain locale : String} {e : Error}
    (h : store.cache.get? (domain, locale) = none)
    (hr : readBundle store.source domain locale = .error e) :
    load domain locale store = .error e store := by
  simp only [load, h, hr]

/-- Where nothing is cached a load fails as the reading does. -/
theorem load_eq_error_iff {store : Store} {domain locale : String}
    (h : store.cache.get? (domain, locale) = none) (e : Error) :
    (∃ after, load domain locale store = .error e after) ↔
      readBundle store.source domain locale = .error e := by
  cases hr : readBundle store.source domain locale with
  | ok b => simp [load_of_readable h hr]
  | error e' => simp [load_of_unreadable h hr]

/-- Where nothing is cached a load goes well as the reading does. -/
theorem load_eq_ok_iff {store : Store} {domain locale : String}
    (h : store.cache.get? (domain, locale) = none) (b : Bundle) :
    (∃ after, load domain locale store = .ok b after) ↔
      readBundle store.source domain locale = .ok b := by
  cases hr : readBundle store.source domain locale with
  | ok b' => simp [load_of_readable h hr]
  | error e => simp [load_of_unreadable h hr]

/-- A failed load leaves the store as it was. -/
theorem eq_of_load_error {store after : Store} {domain locale : String} {e : Error}
    (h : load domain locale store = .error e after) : after = store := by
  cases hc : store.cache.get? (domain, locale) with
  | some b =>
    rw [load_of_cached hc] at h
    cases h
  | none =>
    cases hr : readBundle store.source domain locale with
    | ok b =>
      rw [load_of_readable hc hr] at h
      cases h
    | error e' =>
      rw [load_of_unreadable hc hr] at h
      cases h
      rfl

/-- The source lies behind the store, and the cache holds nothing but what the source holds. -/
structure Faithful (source : Source) (store : Store) : Prop where
  source_eq : store.source = source
  cached : ∀ domain locale b, store.cache.get? (domain, locale) = some b →
    readBundle source domain locale = .ok b

theorem faithful_ofSource (source : Source) : Faithful source (ofSource source) := by
  refine ⟨rfl, ?_⟩
  intro domain locale b h
  simp [ofSource] at h

theorem Faithful.insert {source : Source} {store : Store} (h : Faithful source store)
    {domain locale : String} {b : Bundle} (hr : readBundle source domain locale = .ok b) :
    Faithful source { store with cache := store.cache.insert (domain, locale) b } := by
  refine ⟨h.source_eq, ?_⟩
  intro d l c hc
  by_cases hk : (d, l) = (domain, locale)
  · obtain ⟨rfl, rfl⟩ := Prod.mk.inj hk
    simp only [SortedMap.get?_insert_self, Option.some.injEq] at hc
    rw [hr, hc]
  · rw [SortedMap.get?_insert_of_ne _ hk] at hc
    exact h.cached d l c hc

/-- A faithful store answers a load with what its source holds, and stays faithful. -/
theorem Faithful.load {source : Source} {store : Store} (h : Faithful source store)
    (domain locale : String) : ∃ after, Faithful source after ∧
      Store.load domain locale store =
        match readBundle source domain locale with
        | .ok b => .ok b after
        | .error e => .error e after := by
  cases hc : store.cache.get? (domain, locale) with
  | some b =>
    refine ⟨store, h, ?_⟩
    rw [load_of_cached hc, h.cached _ _ _ hc]
  | none =>
    have hs := h.source_eq
    cases hr : readBundle source domain locale with
    | ok b => exact ⟨_, h.insert hr, load_of_readable hc (hs ▸ hr)⟩
    | error e => exact ⟨store, h, load_of_unreadable hc (hs ▸ hr)⟩

end SampleData.Store
