import Mathlib.Data.List.Nodup
import Mathlib.Data.List.Perm.Subperm
import SampleData.Proofs.Random.Draws

/-! # Samples without replacement

The positions that are chosen stay distinct: before the round of `j` all of them are below `j`, so the draw of the
round, which is at most `j`, is new, or it was chosen before and the earlier one makes way for `j`. What stands at
distinct positions of a list is a part of the list, in which no item comes more often than in the list.
-/
namespace SampleData.Random

variable {σ α : Type} [WordSource σ]

structure IsSample (bound count : ℕ) (chosen : List ℕ) : Prop where
  nodup : chosen.Nodup
  below : ∀ i ∈ chosen, i < bound
  length : chosen.length = count

theorem isSample_nil (bound : ℕ) : IsSample bound 0 [] where
  nodup := List.nodup_nil
  below := nofun
  length := rfl

/-- One round, whatever it draws. -/
theorem IsSample.round {j count t : ℕ} {chosen : List ℕ} (h : IsSample j count chosen) (ht : t < j + 1) :
    IsSample (j + 1) (count + 1) (chosen.map (fun i => if i = t then j else i) ++ [t]) where
  nodup := by
    have hkept : (chosen.map fun i => if i = t then j else i).Nodup := by
      refine List.Nodup.map_on ?_ h.nodup
      intro i hi i' hi' he
      have hlt := h.below i hi
      have hlt' := h.below i' hi'
      split at he <;> split at he <;> omega
    have hnew : t ∉ chosen.map fun i => if i = t then j else i := by
      rw [List.mem_map]
      rintro ⟨i, hi, he⟩
      have hlt := h.below i hi
      split at he <;> omega
    rw [List.nodup_append]
    refine ⟨hkept, List.nodup_singleton t, ?_⟩
    rintro i hi _ ht rfl
    exact hnew (List.mem_singleton.mp ht ▸ hi)
  below := by
    intro i hi
    rcases List.mem_append.mp hi with hi | hi
    · obtain ⟨i', hi', rfl⟩ := List.mem_map.mp hi
      have hlt := h.below i' hi'
      split <;> omega
    · rw [List.mem_singleton.mp hi]
      exact ht
  length := by rw [List.length_append, List.length_map, h.length, List.length_singleton]

theorem draws_chooseStep {j count : ℕ} {chosen : List ℕ} (h : IsSample j count chosen) :
    Draws (chooseStep chosen j : StateM σ (List ℕ)) (IsSample (j + 1) (count + 1)) :=
  (draws_index (Nat.succ_pos j)).bind fun _ ht => draws_pure (h.round ht)

/-- The rounds from `j` on raise the bound and the number of positions alike. -/
theorem draws_rounds {j count : ℕ} (rounds : ℕ) {chosen : List ℕ} (h : IsSample j count chosen) :
    Draws ((List.range' j rounds).foldlM chooseStep chosen : StateM σ (List ℕ))
      (IsSample (j + rounds) (count + rounds)) := by
  induction rounds generalizing j count chosen with
  | zero => exact draws_pure h
  | succ rounds ih =>
    rw [List.range'_succ, List.foldlM_cons]
    refine (draws_chooseStep h).bind fun chosen' h' => ?_
    have hr := ih h'
    rwa [Nat.add_assoc, Nat.add_assoc, Nat.add_comm 1 rounds] at hr

/-- The drawn positions are distinct and below the size. -/
theorem draws_positions {size count : ℕ} (h : count ≤ size) :
    Draws (positions size count : StateM σ (List ℕ)) (IsSample size count) := by
  have hr := draws_rounds (σ := σ) count (isSample_nil (size - count))
  rwa [Nat.sub_add_cancel h, Nat.zero_add] at hr

theorem IsSample.subperm_range {bound count : ℕ} {chosen : List ℕ} (h : IsSample bound count chosen) :
    List.Subperm chosen (List.range bound) :=
  h.nodup.subperm fun i hi => List.mem_range.mpr (h.below i hi)

theorem filterMap_range (items : List α) : (List.range items.length).filterMap (items[·]?) = items := by
  induction items with
  | nil => rfl
  | cons a items ih =>
    have hrest : (List.map Nat.succ (List.range items.length)).filterMap ((a :: items)[·]?) = items := by
      rw [List.filterMap_map]
      exact ih
    rw [List.length_cons, List.range_succ_eq_map]
    exact congrArg (List.cons a) hrest

/-- What stands at the positions of a sample. -/
theorem IsSample.subperm {items : List α} {count : ℕ} {chosen : List ℕ} (h : IsSample items.length count chosen) :
    List.Subperm (chosen.filterMap (items[·]?)) items ∧ (chosen.filterMap (items[·]?)).length = count := by
  obtain ⟨below, hperm, hsub⟩ := h.subperm_range
  constructor
  · refine ⟨below.filterMap (items[·]?), hperm.filterMap _, ?_⟩
    have hs := hsub.filterMap (items[·]?)
    rwa [filterMap_range] at hs
  · rw [List.length_filterMap_eq_countP, List.countP_eq_length.mpr, h.length]
    intro i hi
    rw [List.getElem?_eq_getElem (h.below i hi)]
    rfl

theorem nodup_map_of_subperm {β : Type} {f : α → β} {chosen items : List α} (h : List.Subperm chosen items)
    (hd : (items.map f).Nodup) : (chosen.map f).Nodup := by
  obtain ⟨part, hperm, hsub⟩ := h
  exact (hperm.map f).nodup_iff.mp (hd.sublist (hsub.map f))

/-- As many items as are asked for, or all of them, and none more often than it is there. -/
theorem draws_chooseSome (items : List α) (count : ℕ) : Draws (chooseSome items count : StateM σ (List α))
    fun chosen => List.Subperm chosen items ∧ chosen.length = min count items.length :=
  (draws_positions (Nat.min_le_right _ _)).bind fun _ h => draws_pure h.subperm

end SampleData.Random
