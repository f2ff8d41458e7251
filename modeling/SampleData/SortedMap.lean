import SampleData.Text.Order

/-! # Sorted maps

A finite map kept as the list of its entries in ascending order of keys. The list functions
`insertEntry` and `List.lookup` are shared with the objects of the JSON type; `SortedMap` bundles
a list with the proof that its keys ascend, so that listing the keys shows each of them once.
-/
namespace SampleData

open KeyOrder

variable {κ α : Type} [DecidableEq κ] [KeyOrder κ]

/-- Puts `v` under `k` into an ascending list of entries, replacing what was there. -/
def insertEntry (k : κ) (v : α) : List (κ × α) → List (κ × α)
  | [] => [(k, v)]
  | e :: es =>
    if k = e.1 then (k, v) :: es
    else if before k e.1 then (k, v) :: e :: es
    else e :: insertEntry k v es

abbrev Ascending (es : List (κ × α)) : Prop :=
  es.Pairwise fun x y => before x.1 y.1 = true

theorem mem_insertEntry {k : κ} {v : α} {es : List (κ × α)} {x : κ × α}
    (h : x ∈ insertEntry k v es) : x = (k, v) ∨ x ∈ es := by
  induction es with
  | nil => simpa [insertEntry] using h
  | cons e es ih =>
    simp only [insertEntry] at h
    split at h
    · rcases List.mem_cons.mp h with h | h
      · exact .inl h
      · exact .inr (List.mem_cons_of_mem _ h)
    · split at h
      · rcases List.mem_cons.mp h with h | h
        · exact .inl h
        · exact .inr h
      · rcases List.mem_cons.mp h with h | h
        · exact .inr (h ▸ List.mem_cons_self ..)
        · exact (ih h).imp id (List.mem_cons_of_mem _)

theorem ascending_insertEntry {k : κ} {v : α} {es : List (κ × α)} (h : Ascending es) :
    Ascending (insertEntry k v es) := by
  induction es with
  | nil => simp [insertEntry]
  | cons e es ih =>
    obtain ⟨he, hes⟩ := List.pairwise_cons.mp h
    simp only [insertEntry]
    split
    · next hk => exact List.pairwise_cons.mpr ⟨fun x hx => hk ▸ he x hx, hes⟩
    · next hk =>
      split
      · next hb =>
        refine List.pairwise_cons.mpr ⟨fun x hx => ?_, h⟩
        rcases List.mem_cons.mp hx with rfl | hx
        · exact hb
        · exact trans hb (he x hx)
      · next hb =>
        refine List.pairwise_cons.mpr ⟨fun x hx => ?_, ih hes⟩
        rcases mem_insertEntry hx with rfl | hx
        · exact (total hk).resolve_left hb
        · exact he x hx

theorem lookup_insertEntry_self (k : κ) (v : α) (es : List (κ × α)) :
    (insertEntry k v es).lookup k = some v := by
  induction es with
  | nil => simp [insertEntry]
  | cons e es ih =>
    obtain ⟨i, w⟩ := e
    simp only [insertEntry]
    split
    · simp
    · next hk =>
      split
      · simp
      · simpa only [List.lookup_cons, beq_false_of_ne hk] using ih

theorem lookup_insertEntry_of_ne {k j : κ} (h : j ≠ k) (v : α) (es : List (κ × α)) :
    (insertEntry k v es).lookup j = es.lookup j := by
  induction es with
  | nil => simp only [insertEntry, List.lookup_cons, List.lookup_nil, beq_false_of_ne h]
  | cons e es ih =>
    obtain ⟨i, w⟩ := e
    simp only [insertEntry]
    split
    · next hk => simp only [List.lookup_cons, ← hk, beq_false_of_ne h]
    · split
      · rw [List.lookup_cons, beq_false_of_ne h]
      · simp only [List.lookup_cons, ih]

/-- A finite map from keys to values, listed in ascending order of its keys. -/
structure SortedMap (κ α : Type) [DecidableEq κ] [KeyOrder κ] where
  entries : List (κ × α)
  ascending : Ascending entries

namespace SortedMap

def empty : SortedMap κ α := ⟨[], .nil⟩

instance : Inhabited (SortedMap κ α) := ⟨empty⟩

def get? (m : SortedMap κ α) (k : κ) : Option α := m.entries.lookup k

def insert (m : SortedMap κ α) (k : κ) (v : α) : SortedMap κ α :=
  ⟨insertEntry k v m.entries, ascending_insertEntry m.ascending⟩

def keys (m : SortedMap κ α) : List κ := m.entries.map (·.1)

@[simp] theorem get?_empty (k : κ) : (empty : SortedMap κ α).get? k = none := rfl

@[simp] theorem get?_insert_self (m : SortedMap κ α) (k : κ) (v : α) :
    (m.insert k v).get? k = some v := lookup_insertEntry_self k v m.entries

theorem get?_insert_of_ne (m : SortedMap κ α) {k j : κ} (h : j ≠ k) (v : α) :
    (m.insert k v).get? j = m.get? j := lookup_insertEntry_of_ne h v m.entries

/-- The keys are listed in strictly ascending order. -/
theorem keys_pairwise (m : SortedMap κ α) :
    m.keys.Pairwise fun a b => before a b = true := List.pairwise_map.mpr m.ascending

end SortedMap

end SampleData
