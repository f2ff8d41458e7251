import SampleData.Proofs.Entries
import SampleData.Proofs.Steps
import SampleData.Provider.Builtin

/-! # Records

A record of a provider is made of its fields in turn. It has every field of the table as a key, and under it the
value that was made for the field, as no two fields of a provider have one name.
-/
namespace SampleData

/-- An object with the given names as keys, each once, and under every name its value. -/
def IsRecord (names : List String) (values : List Json) (record : Json) : Prop :=
  ∃ entries, record = .object entries ∧ Ascending entries ∧ (entries.map (·.1)).Perm names ∧
    ∀ (i : ℕ) (name : String), names[i]? = some name → record.get? name = values[i]?

theorem isRecord_ofFields {names : List String} {values : List Json} (hn : names.Nodup)
    (hl : values.length = names.length) : IsRecord names values (Json.ofFields (names.zip values)) := by
  have hk : (names.zip values).map (·.1) = names := List.map_fst_zip (by omega)
  have hd : ((names.zip values).map (·.1)).Nodup := by rwa [hk]
  refine ⟨insertAll [] (names.zip values), rfl, ascending_insertAll List.Pairwise.nil _, ?_, ?_⟩
  · have hp := keys_insertAll_perm hd
    rwa [hk] at hp
  · intro i name hi
    obtain ⟨hlt, rfl⟩ := List.getElem?_eq_some_iff.mp hi
    have hv : i < values.length := by omega
    have hm : (names[i], values[i]) ∈ names.zip values := by
      have hz : i < (names.zip values).length := by simp [List.length_zip]; omega
      have hg := List.getElem_mem hz
      rwa [List.getElem_zip] at hg
    rw [List.getElem?_eq_getElem hv]
    exact lookup_insertAll_of_mem hd hm

namespace Builtin

/-- No provider has two fields of one name. -/
theorem nodup_fieldNames (p : Builtin) : p.fieldNames.Nodup := by
  cases p <;> decide

def assemble (p : Builtin) (values : List Json) : Json := Json.ofFields (p.fieldNames.zip values)

variable {σ : Type} [WordSource σ]

/-- A record is assembled from the fields of the provider in their order. -/
theorem record_eq (p : Builtin) : (p.record : Gen (p.State σ × Store) Json) =
    p.assemble <$> Gen.inTurn p.performField p.fieldNames := by
  have h : ∀ names : List String,
      Gen.inTurn (fun field => (Prod.mk field <$> p.performField field : Gen (p.State σ × Store) _)) names =
        names.zip <$> Gen.inTurn p.performField names := by
    intro names
    induction names with
    | nil => rfl
    | cons name names ih =>
      rw [Gen.inTurn_cons, Gen.inTurn_cons, ih]
      simp only [map_bind, bind_map_left, Functor.map_map, List.zip_cons_cons]
  have hm : (fun field => (do return (field, ← p.performField field) : Gen (p.State σ × Store) _)) =
      fun field => Prod.mk field <$> p.performField field := rfl
  unfold record
  rw [hm, Gen.mapM_eq_inTurn, h, bind_map_left]
  rfl

end Builtin

end SampleData
