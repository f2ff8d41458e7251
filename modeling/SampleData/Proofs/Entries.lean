import Mathlib.Data.List.Nodup
import Mathlib.Data.List.Perm.Basic
import SampleData.Json.Value

/-! # Ascending entries

Sorted maps and objects keep their entries in ascending order of keys. A key is listed exactly where it has a value,
no key is listed twice, and an object that is built field by field has the keys of the fields and, where these
differ, the value of each.
-/
namespace SampleData

variable {κ α : Type} [DecidableEq κ]

theorem lookup_isSome_iff {k : κ} {es : List (κ × α)} : (es.lookup k).isSome ↔ k ∈ es.map (·.1) := by
  induction es with
  | nil => simp
  | cons e es ih =>
    obtain ⟨j, v⟩ := e
    by_cases hk : k = j
    · simp [hk]
    · have hb : (k == j) = false := beq_false_of_ne hk
      simpa only [List.lookup_cons, hb, List.map_cons, List.mem_cons, hk, false_or] using ih

theorem mem_of_lookup {k : κ} {v : α} {es : List (κ × α)} (h : es.lookup k = some v) : (k, v) ∈ es := by
  obtain ⟨before, behind, rfl, _⟩ := List.lookup_eq_some_iff.mp h
  exact List.mem_append_cons_self

/-- Where no key comes twice, every entry is found. -/
theorem lookup_eq_some_iff_mem {k : κ} {v : α} {es : List (κ × α)} (hn : (es.map (·.1)).Nodup) :
    es.lookup k = some v ↔ (k, v) ∈ es := by
  refine ⟨mem_of_lookup, fun h => ?_⟩
  obtain ⟨w, hw⟩ := Option.isSome_iff_exists.mp (lookup_isSome_iff.mpr (List.mem_map_of_mem h))
  have he : (k, w) = (k, v) := List.inj_on_of_nodup_map hn (mem_of_lookup hw) h rfl
  rw [hw, (Prod.mk.inj he).2]

variable [KeyOrder κ]

theorem SortedMap.mem_keys_iff {m : SortedMap κ α} {k : κ} : k ∈ m.keys ↔ ∃ v, m.get? k = some v := by
  rw [← Option.isSome_iff_exists]
  exact lookup_isSome_iff.symm

omit [DecidableEq κ] in
theorem Ascending.nodup {es : List (κ × α)} (h : Ascending es) : (es.map (·.1)).Nodup :=
  List.pairwise_map.mpr (h.imp KeyOrder.ne_of_before)

/-- Putting in what is there already changes nothing. -/
theorem insertEntry_of_lookup {k : κ} {v : α} {es : List (κ × α)}
    (ha : Ascending es) (h : es.lookup k = some v) : insertEntry k v es = es := by
  induction es with
  | nil => cases h
  | cons e es ih =>
    obtain ⟨j, w⟩ := e
    obtain ⟨hj, hes⟩ := List.pairwise_cons.mp ha
    by_cases hk : k = j
    · subst hk
      obtain rfl : w = v := by simpa [List.lookup_cons] using h
      simp [insertEntry]
    · have hne : (k == j) = false := beq_false_of_ne hk
      have hl : es.lookup k = some v := by simpa only [List.lookup_cons, hne] using h
      obtain ⟨x, hx, rfl⟩ := List.mem_map.mp (lookup_isSome_iff.mp (Option.isSome_iff_exists.mpr ⟨v, hl⟩))
      have hb := KeyOrder.asymm (hj x hx)
      simp [insertEntry, hk, hb, ih hes hl]

theorem SortedMap.insert_of_get? {m : SortedMap κ α} {k : κ} {v : α}
    (h : m.get? k = some v) : m.insert k v = m := by
  obtain ⟨es, ha⟩ := m
  have he : insertEntry k v es = es := insertEntry_of_lookup ha h
  simp only [SortedMap.insert, he]

theorem mem_keys_insertEntry {k j : κ} {v : α} {es : List (κ × α)} :
    j ∈ (insertEntry k v es).map (·.1) ↔ j = k ∨ j ∈ es.map (·.1) := by
  rw [← lookup_isSome_iff, ← lookup_isSome_iff]
  by_cases h : j = k
  · subst h
    simp [lookup_insertEntry_self]
  · simp [lookup_insertEntry_of_ne h, h]

/-- The entries after putting in one field after the other. -/
def insertAll (es fields : List (κ × α)) : List (κ × α) :=
  fields.foldl (fun es f => insertEntry f.1 f.2 es) es

theorem ascending_insertAll {es : List (κ × α)} (h : Ascending es) (fields : List (κ × α)) :
    Ascending (insertAll es fields) := by
  induction fields generalizing es with
  | nil => exact h
  | cons f fs ih => exact ih (ascending_insertEntry h)

/-- The keys after putting in fields are the old ones and those of the fields. -/
theorem mem_keys_insertAll {k : κ} {es fields : List (κ × α)} :
    k ∈ (insertAll es fields).map (·.1) ↔ k ∈ es.map (·.1) ∨ k ∈ fields.map (·.1) := by
  induction fields generalizing es with
  | nil => simp [insertAll]
  | cons f fs ih =>
    have hi := @ih (insertEntry f.1 f.2 es)
    simp only [insertAll, List.foldl_cons] at hi ⊢
    rw [hi, mem_keys_insertEntry, List.map_cons, List.mem_cons]
    tauto

theorem lookup_insertAll_of_notMem {k : κ} {es fields : List (κ × α)} (h : k ∉ fields.map (·.1)) :
    (insertAll es fields).lookup k = es.lookup k := by
  induction fields generalizing es with
  | nil => rfl
  | cons f fs ih =>
    simp only [List.map_cons, List.mem_cons, not_or] at h
    obtain ⟨hf, hfs⟩ := h
    have hi := @ih (insertEntry f.1 f.2 es) hfs
    simp only [insertAll, List.foldl_cons] at hi ⊢
    rw [hi, lookup_insertEntry_of_ne hf]

/-- Where no key comes twice, every field keeps its value. -/
theorem lookup_insertAll_of_mem {k : κ} {v : α} {es fields : List (κ × α)}
    (hn : (fields.map (·.1)).Nodup) (h : (k, v) ∈ fields) : (insertAll es fields).lookup k = some v := by
  induction fields generalizing es with
  | nil => simp at h
  | cons f fs ih =>
    obtain ⟨hf, hfs⟩ := List.nodup_cons.mp hn
    rcases List.mem_cons.mp h with rfl | h
    · have hi := @lookup_insertAll_of_notMem _ _ _ _ k (insertEntry k v es) fs hf
      simp only [insertAll, List.foldl_cons] at hi ⊢
      rw [hi, lookup_insertEntry_self]
    · exact ih hfs h

/-- Where no key comes twice, the keys are those of the fields in another order. -/
theorem keys_insertAll_perm {fields : List (κ × α)} (hn : (fields.map (·.1)).Nodup) :
    ((insertAll [] fields).map (·.1)).Perm (fields.map (·.1)) := by
  have ha : Ascending (insertAll [] fields) := ascending_insertAll List.Pairwise.nil fields
  refine (List.perm_ext_iff_of_nodup ha.nodup hn).mpr ?_
  intro k
  rw [mem_keys_insertAll]
  simp

end SampleData
