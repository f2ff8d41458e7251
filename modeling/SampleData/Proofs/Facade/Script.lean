import SampleData.Proofs.Provider.Alone

/-! # Scripts

A script asks providers one query after the other, draws from a stream, and goes on with what it was told. It does
not say who replies: that is up to the host it runs on. Hosts that reply alike cannot be told apart by a script.
-/
namespace SampleData

structure Host (σ s : Type) where
  ask : (p : Builtin) → p.Query → Gen s Json
  draw : {β : Type} → StateM σ β → Gen s β

structure Asked where
  provider : Builtin
  query : provider.Query
  reply : Except Error Json

def Asked.on? (p : Builtin) (e : Asked) : Option (p.Query × Except Error Json) :=
  if h : e.provider = p then some (h ▸ e.query, e.reply) else none

def Asked.of (p : Builtin) (entries : List Asked) : List (p.Query × Except Error Json) := entries.filterMap (on? p)

theorem Asked.of_cons_self {p : Builtin} (q : p.Query) (reply : Except Error Json) (entries : List Asked) :
    of p (⟨p, q, reply⟩ :: entries) = (q, reply) :: of p entries := by
  have ho : on? p ⟨p, q, reply⟩ = some (q, reply) := dif_pos rfl
  exact List.filterMap_cons_some ho

theorem Asked.of_cons_of_ne {p : Builtin} {e : Asked} (h : e.provider ≠ p) (entries : List Asked) :
    of p (e :: entries) = of p entries := by
  have ho : on? p e = none := dif_neg h
  exact List.filterMap_cons_none ho

theorem Asked.of_append (p : Builtin) (xs ys : List Asked) : of p (xs ++ ys) = of p xs ++ of p ys :=
  List.filterMap_append ..

inductive Script (σ α : Type) : Type 1 where
  | answer (a : α)
  | fail (e : Error)
  | ask (p : Builtin) (q : p.Query) (next : Json → Script σ α)
  | draw {β : Type} (step : StateM σ β) (next : β → Script σ α)

namespace Script

variable {σ s t α β : Type}

def andThen : Script σ α → (α → Script σ β) → Script σ β
  | .answer a, f => f a
  | .fail e, _ => .fail e
  | .ask p q next, f => .ask p q fun reply => (next reply).andThen f
  | .draw step next, f => .draw step fun b => (next b).andThen f

instance : Monad (Script σ) where
  pure := answer
  bind := andThen

def run (h : Host σ s) : Script σ α → Gen s α
  | .answer a => pure a
  | .fail e => throw e
  | .ask p q next => h.ask p q >>= fun reply => (next reply).run h
  | .draw step next => h.draw step >>= fun b => (next b).run h

/-- The queries that a script asks on its way, with the replies. -/
def asked (h : Host σ s) : Script σ α → s → List Asked
  | .answer _, _ => []
  | .fail _, _ => []
  | .ask p q next, st =>
    match h.ask p q st with
    | .ok reply st' => ⟨p, q, .ok reply⟩ :: (next reply).asked h st'
    | .error e _ => [⟨p, q, .error e⟩]
  | .draw step next, st =>
    match h.draw step st with
    | .ok b st' => (next b).asked h st'
    | .error _ _ => []

/-- A script of one query is told the reply and passes it on. -/
theorem asked_ask (p : Builtin) (q : p.Query) (h : Host σ s) (st : s) :
    (ask p q .answer).asked h st = [⟨p, q, Gen.answer ((ask p q .answer).run h st)⟩] := by
  have hr : (ask p q .answer).run h = h.ask p q := bind_pure _
  rw [hr]
  cases ho : h.ask p q st <;> simp [asked, ho]

theorem run_pure (h : Host σ s) (a : α) : (pure a : Script σ α).run h = pure a := rfl

/-- A script runs like the step that it describes, one part after the other. -/
theorem run_bind (h : Host σ s) (x : Script σ α) (f : α → Script σ β) :
    (x >>= f).run h = x.run h >>= fun a => (f a).run h := by
  induction x with
  | answer a => exact (pure_bind a fun a => (f a).run h).symm
  | fail e => rfl
  | ask p q next ih =>
    simp only [run, bind_assoc, ← ih]
    rfl
  | draw step next ih =>
    simp only [run, bind_assoc, ← ih]
    rfl

theorem run_map (h : Host σ s) (f : α → β) (x : Script σ α) : (f <$> x).run h = f <$> x.run h := by
  have hb : (f <$> x).run h = x.run h >>= fun a => (pure (f a) : Script σ β).run h := run_bind h x _
  rw [hb, map_eq_pure_bind]
  rfl

def inTurn (f : β → Script σ α) : List β → Script σ (List α)
  | [] => pure []
  | b :: bs => do
    let a ← f b
    let as ← inTurn f bs
    return a :: as

theorem run_inTurn (h : Host σ s) (f : β → Script σ α) (bs : List β) :
    (inTurn f bs).run h = Gen.inTurn (fun b => (f b).run h) bs := by
  induction bs with
  | nil => rfl
  | cons b bs ih =>
    rw [Gen.inTurn_cons, ← ih]
    simp only [inTurn, run_bind, run_pure, map_eq_pure_bind]

theorem preserves_run {I : s → Prop} {h : Host σ s} (ha : ∀ (p : Builtin) (q : p.Query), Gen.Preserves I (h.ask p q))
    (hd : ∀ {β : Type} (step : StateM σ β), Gen.Preserves I (h.draw step)) (x : Script σ α) :
    Gen.Preserves I (x.run h) := by
  induction x with
  | answer a => exact Gen.preserves_pure a
  | fail e => exact Gen.preserves_throw e
  | ask p q next ih => exact (ha p q).bind ih
  | draw step next ih => exact (hd step).bind ih

structure Alike (R : s → t → Prop) (h : Host σ s) (h' : Host σ t) : Prop where
  ask : ∀ (p : Builtin) (q : p.Query), Gen.Alike R (h.ask p q) (h'.ask p q)
  draw : ∀ {β : Type} (step : StateM σ β), Gen.Alike R (h.draw step) (h'.draw step)

variable {R : s → t → Prop} {h : Host σ s} {h' : Host σ t}

/-- A script gets along with any two hosts that reply alike. -/
theorem alike_run (ha : Alike R h h') (x : Script σ α) : Gen.Alike R (x.run h) (x.run h') := by
  induction x with
  | answer a => exact Gen.alike_pure a
  | fail e => exact Gen.alike_throw e
  | ask p q next ih => exact (ha.ask p q).bind ih
  | draw step next ih => exact (ha.draw step).bind ih

/-- From hosts that reply alike a script asks the same. -/
theorem asked_eq (ha : Alike R h h') (x : Script σ α) {st : s} {st' : t} (hr : R st st') :
    x.asked h st = x.asked h' st' := by
  induction x generalizing st st' with
  | answer a => rfl
  | fail e => rfl
  | ask p q next ih =>
    have hm := ha.ask p q st st' hr
    simp only [asked]
    generalize h.ask p q st = o at hm
    generalize h'.ask p q st' = o' at hm
    cases hm with
    | ok hn => simp only [ih _ hn]
    | error hn => rfl
  | draw step next ih =>
    have hm := ha.draw step st st' hr
    simp only [asked]
    generalize h.draw step st = o at hm
    generalize h'.draw step st' = o' at hm
    cases hm with
    | ok hn => simp only [ih _ hn]
    | error hn => rfl

/-- Whatever is replied, the script asks none but the given providers. -/
def AsksOnly (ps : List Builtin) : Script σ α → Prop
  | .answer _ => True
  | .fail _ => True
  | .ask p _ next => p ∈ ps ∧ ∀ reply, (next reply).AsksOnly ps
  | .draw _ next => ∀ b, (next b).AsksOnly ps

theorem AsksOnly.bind {ps : List Builtin} {x : Script σ α} {f : α → Script σ β} (hx : x.AsksOnly ps)
    (hf : ∀ a, (f a).AsksOnly ps) : (x >>= f).AsksOnly ps := by
  induction x with
  | answer a => exact hf a
  | fail e => trivial
  | ask p q next ih => exact ⟨hx.1, fun reply => ih reply (hx.2 reply)⟩
  | draw step next ih => exact fun b => ih b (hx b)

theorem AsksOnly.inTurn {ps : List Builtin} {f : β → Script σ α} (hf : ∀ b, (f b).AsksOnly ps) (bs : List β) :
    (inTurn f bs).AsksOnly ps := by
  induction bs with
  | nil => trivial
  | cons b bs ih => exact (hf b).bind fun a => ih.bind fun as => trivial

/-- What a script asks is asked of the providers it is said to ask. -/
theorem mem_of_asksOnly {ps : List Builtin} {x : Script σ α} (hx : x.AsksOnly ps) {st : s} {a : Asked}
    (hm : a ∈ x.asked h st) : a.provider ∈ ps := by
  induction x generalizing st with
  | answer b => cases hm
  | fail e => cases hm
  | ask p q next ih =>
    simp only [asked] at hm
    split at hm
    · rcases List.mem_cons.mp hm with rfl | hm
      · exact hx.1
      · exact ih _ (hx.2 _) hm
    · obtain rfl := List.mem_singleton.mp hm
      exact hx.1
  | draw step next ih =>
    simp only [asked] at hm
    split at hm
    · exact ih _ (hx _) hm
    · cases hm

end Script

end SampleData
