import SampleData.Proofs.Random.Bounds
import SampleData.Random.Choice

/-! # What draws answer

Draws cannot fail, so all there is to say of one is what it answers, whatever state its source is in. A choice from a
table is an item of the table, and a choice from a list that is not empty is an item of the list.
-/
namespace SampleData.Random

variable {σ α β : Type} {P : α → Prop} {Q : β → Prop}

def Draws (step : StateM σ α) (P : α → Prop) : Prop := ∀ s, P (step s).1

theorem draws_pure {a : α} (h : P a) : Draws (pure a : StateM σ α) P := fun _ => h

theorem Draws.imp {step : StateM σ α} {R : α → Prop} (h : Draws step P) (hr : ∀ a, P a → R a) : Draws step R :=
  fun s => hr _ (h s)

theorem Draws.bind {x : StateM σ α} {f : α → StateM σ β} (hx : Draws x P) (hf : ∀ a, P a → Draws (f a) Q) :
    Draws (x >>= f) Q := by
  intro s
  rw [bind_apply]
  exact hf _ (hx s) _

theorem Draws.mapM {f : β → StateM σ α} {bs : List β} (h : ∀ b ∈ bs, Draws (f b) P) :
    Draws (bs.mapM f) fun as => as.length = bs.length ∧ ∀ a ∈ as, P a := by
  induction bs with
  | nil => exact draws_pure ⟨rfl, by simp⟩
  | cons b bs ih =>
    obtain ⟨hb, hbs⟩ := List.forall_mem_cons.mp h
    rw [List.mapM_cons]
    refine hb.bind fun a ha => (ih hbs).bind ?_
    rintro as ⟨hl, has⟩
    exact draws_pure ⟨by simp [hl], List.forall_mem_cons.mpr ⟨ha, has⟩⟩

theorem Draws.times {step : StateM σ α} (h : Draws step P) (n : ℕ) :
    Draws (times n step) fun as => as.length = n ∧ ∀ a ∈ as, P a := by
  induction n with
  | zero => exact draws_pure ⟨rfl, by simp⟩
  | succ n ih =>
    refine h.bind fun a ha => ih.bind ?_
    rintro as ⟨hl, has⟩
    exact draws_pure ⟨by simp [hl], List.forall_mem_cons.mpr ⟨ha, has⟩⟩

variable [WordSource σ]

theorem draws_index {n : ℕ} (h0 : 0 < n) : Draws (index n : StateM σ ℕ) (· < n) := fun s => index_lt h0 s

theorem draws_unsigned {lo hi : UInt32} (h : lo ≤ hi) :
    Draws (unsigned lo hi : StateM σ UInt32) fun n => lo.toNat ≤ n.toNat ∧ n.toNat ≤ hi.toNat := by
  intro s
  obtain ⟨hlo, hhi⟩ := unsigned_mem h s
  exact ⟨UInt32.le_iff_toNat_le.mp hlo, UInt32.le_iff_toNat_le.mp hhi⟩

theorem draws_choose (t : Table α) : Draws (choose t : StateM σ α) (· ∈ t.toList) := by
  intro s
  have ho : (choose t s).1 = t.toList.getD (index t.toList.length s).1 t.first := rfl
  rw [ho, List.getD_eq_getElem?_getD]
  cases h : t.toList[(index t.toList.length s).1]? with
  | none => exact List.mem_cons_self
  | some a => exact List.mem_of_getElem? h

theorem draws_choose? {items : List α} (hne : items ≠ []) :
    Draws (choose? items : StateM σ (Option α)) fun o => ∃ a ∈ items, o = some a := by
  cases items with
  | nil => exact absurd rfl hne
  | cons a as =>
    intro s
    have hlt : (index (a :: as).length s).1 < (a :: as).length := index_lt (Nat.succ_pos _) s
    exact ⟨_, List.getElem_mem hlt, List.getElem?_eq_getElem hlt⟩

end SampleData.Random
