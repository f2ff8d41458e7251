import SampleData.Proofs.Facade.Apart

/-! # Exchanges

An exchange is a request to the built-in providers with the reply to it, and between the two everything that was
asked of a provider to make the reply. A facade and its providers apart have the same exchanges.
-/
namespace SampleData

structure Exchange where
  request : Request
  asked : List Asked
  reply : Except Error Json

namespace Apart

variable {σ : Type} [SeededSource σ]

/-- The exchange that a request leads to; there is none where the request is not for a built-in provider. -/
def exchange? (r : Request) (a : Apart σ) : Option Exchange :=
  (r.script? σ).map fun script => ⟨r, script.asked host a, Gen.answer (script.run host a)⟩

def behind (a : Apart σ) (r : Request) : Apart σ :=
  match r.script? σ with
  | some script => Gen.left (script.run host a)
  | none => a

def exchanges : List Request → Apart σ → List Exchange
  | [], _ => []
  | r :: rs, a => (a.exchange? r).toList ++ exchanges rs (a.behind r)

def after (a : Apart σ) (requests : List Request) : Apart σ := requests.foldl behind a

/-- In all exchanges together, a provider replies as it does alone to the same queries. -/
theorem follows_exchanges (requests : List Request) (a : Apart σ) (p : Builtin) :
    Builtin.Alone.Follows (a.alone p) ((a.after requests).alone p)
      (Asked.of p ((a.exchanges requests).flatMap (·.asked))) := by
  induction requests generalizing a with
  | nil => exact Builtin.Alone.follows_nil _
  | cons r rs ih =>
    have hi := ih (a.behind r)
    unfold exchanges
    rw [List.flatMap_append, Asked.of_append]
    refine Builtin.Alone.Follows.append ?_ hi
    unfold exchange? behind
    cases r.script? σ with
    | none => exact Builtin.Alone.follows_nil _
    | some script =>
      have hf := follows_asked script a p
      simpa using hf

theorem exists_of_mem_exchanges {requests : List Request} {a : Apart σ} {x : Exchange}
    (hx : x ∈ a.exchanges requests) : ∃ (b : Apart σ) (script : Script σ Json), x.request.script? σ = some script ∧
      x.asked = script.asked host b ∧ x.reply = Gen.answer (script.run host b) := by
  induction requests generalizing a with
  | nil => cases hx
  | cons r rs ih =>
    rcases List.mem_append.mp hx with hx | hx
    · obtain ⟨script, hr, rfl⟩ := Option.map_eq_some_iff.mp (Option.mem_toList.mp hx)
      exact ⟨a, script, hr, rfl, rfl⟩
    · exact ih hx

end Apart

namespace Facade

variable {σ ι : Type} [SeededSource σ] [Registrable ι] {c : Context σ} {source : Source}
  {st : Facade σ ι × Store} {a : Apart σ}

def exchange? (r : Request) (st : Facade σ ι × Store) : Option Exchange :=
  (r.script? σ).map fun script => ⟨r, script.asked host st, Gen.answer (answer r st)⟩

/-- A facade and its providers apart make the same exchange of a request. -/
theorem exchange?_eq (h : Mirrors c source st a) (r : Request) : exchange? r st = a.exchange? r := by
  unfold exchange? Apart.exchange?
  cases hr : r.script? σ with
  | none => rfl
  | some script =>
    have ha := (Script.alike_run alike_host script st a h).answer_eq
    rw [Option.map_some, Option.map_some, answer_eq_run hr, Script.asked_eq alike_host script h, ha]

omit [Registrable ι] in
theorem Mirrors.onRegistered {α : Type} (h : Mirrors c source st a) (step : Gen (Registry ι) α) :
    Mirrors c source (Gen.left (onRegistered step st)) a := by
  obtain ⟨⟨hc, hm, hb, hu⟩, hs⟩ := h
  unfold Facade.onRegistered Gen.onFirst Gen.focus
  cases step st.1.registered <;> exact ⟨⟨hc, hm, hb, hu⟩, hs⟩

/-- A facade stands for its providers apart behind every request. -/
theorem Mirrors.answer (h : Mirrors c source st a) (r : Request) :
    Mirrors c source (Gen.left (Facade.answer r st)) (a.behind r) := by
  unfold Apart.behind
  cases hr : r.script? σ with
  | some script =>
    rw [answer_eq_run hr]
    exact (Script.alike_run alike_host script st a h).left
  | none =>
    obtain ⟨step, ha⟩ := exists_onRegistered_of_unscripted (ι := ι) hr
    rw [ha]
    exact h.onRegistered step

omit [Registrable ι] in
/-- A step that some providers apart can follow keeps the store faithful. -/
theorem faithful_left {α : Type} {act : Step σ ι α} (h : ∀ {c : Context σ} {source : Source}
      {st : Facade σ ι × Store} {a : Apart σ}, Mirrors c source st a → ∃ b, Mirrors c source (Gen.left (act st)) b)
    {st : Facade σ ι × Store} (hs : Store.Faithful source st.2) : Store.Faithful source (Gen.left (act st)).2 := by
  obtain ⟨a, ha⟩ := exists_stands source st.1
  obtain ⟨b, hb⟩ := h ⟨ha, hs⟩
  exact hb.2

end Facade

end SampleData
