import SampleData.CommandLine.Run
import SampleData.Facade.Session
import SampleData.Proofs.Facade.Exchanges
import SampleData.Random.Keystream

/-! # A session refines its providers apart

Whatever happens in a session, each of its facades replies as if it were alone, and each of its providers as if it
were alone too: built once from the context of the facade over a fresh store, and asked nothing but what the facade
asks it. It does not matter when a provider is built, how often building it failed before, what else is asked of
this facade or another, and what the stores have cached, as long as the sources behind them do not change.
-/
namespace SampleData.Session

variable {σ ι α : Type} [SeededSource σ]

inductive Event (ι : Type) where
  | ask (i : ℕ) (r : Request)
  | register (i : ℕ) (fresh : ι)
  | load (j : ℕ) (domain locale : String)

def start (stores : List Store) (contexts : List (Context σ × ℕ)) : Session σ ι :=
  ⟨stores, contexts.map fun e => (.new e.1, e.2)⟩

section Runs

variable [Registrable ι]

def react (s : Session σ ι) : Event ι → Session σ ι
  | .ask i r => (s.step i (Facade.answer r)).2
  | .register i fresh => (s.step i (Facade.register fresh)).2
  | .load j domain locale =>
    match s.stores[j]? with
    | none => s
    | some store => { s with stores := s.stores.set j (Gen.left (Store.load domain locale store)) }

def after (s : Session σ ι) (events : List (Event ι)) : Session σ ι := events.foldl react s

/-- The exchange that an event leads to, if it is one of the facade with number `i`. -/
def exchange? (i : ℕ) (s : Session σ ι) : Event ι → Option Exchange
  | .ask k r => if k = i then (s.get? k).bind fun (f, _, store) => Facade.exchange? r (f, store) else none
  | _ => none

def exchanges (i : ℕ) : List (Event ι) → Session σ ι → List Exchange
  | [], _ => []
  | e :: es, s => (s.exchange? i e).toList ++ exchanges i es (s.react e)

end Runs

def request? (i : ℕ) : Event ι → Option Request
  | .ask k r => if k = i then some r else none
  | _ => none

def requests (i : ℕ) (events : List (Event ι)) : List Request := events.filterMap (request? i)

/-- The facade with number `i` works on the store with number `j` and stands for its providers apart; no store
holds anything but what its source holds. -/
structure Tracks (sources : List Source) (i j : ℕ) (c : Context σ) (source : Source) (s : Session σ ι)
    (a : Apart σ) : Prop where
  behind : sources[j]? = some source
  stores : ∀ (k : ℕ) (other : Source), sources[k]? = some other →
    ∃ store, s.stores[k]? = some store ∧ Store.Faithful other store
  member : ∃ f, s.members[i]? = some (f, j) ∧ Facade.Stands c source f a

variable {sources : List Source} {i j k : ℕ} {c : Context σ} {source : Source} {s : Session σ ι} {a b : Apart σ}

omit [SeededSource σ] in
theorem get?_eq_some {f : Facade σ ι} {m : ℕ} {store : Store} (h : s.get? k = some (f, m, store)) :
    s.members[k]? = some (f, m) ∧ s.stores[m]? = some store := by
  unfold get? at h
  obtain ⟨⟨g, n⟩, hm, h⟩ := Option.bind_eq_some_iff.mp h
  obtain ⟨other, ho, h⟩ := Option.bind_eq_some_iff.mp h
  cases h
  exact ⟨hm, ho⟩

omit [SeededSource σ] in
theorem step_of_get? {f : Facade σ ι} {m : ℕ} {store : Store} (h : s.get? k = some (f, m, store))
    (act : Facade.Step σ ι α) : (s.step k act).2 = s.put k m (Gen.left (act (f, store))) := by
  simp only [step, h]
  cases act (f, store) <;> rfl

omit [SeededSource σ] in
theorem step_of_none (h : s.get? k = none) (act : Facade.Step σ ι α) : (s.step k act).2 = s := by
  simp only [step, h]

/-- A store may be replaced by one that is just as faithful. -/
theorem stores_set {stores : List Store} (h : ∀ (k : ℕ) (other : Source), sources[k]? = some other →
      ∃ store, stores[k]? = some store ∧ Store.Faithful other store) {m : ℕ} {store : Store}
    (hf : ∀ other, sources[m]? = some other → Store.Faithful other store) (k : ℕ) (other : Source)
    (hk : sources[k]? = some other) : ∃ next, (stores.set m store)[k]? = some next ∧ Store.Faithful other next := by
  obtain ⟨old, ho, hold⟩ := h k other hk
  by_cases hm : m = k
  · subst hm
    obtain ⟨hlt, _⟩ := List.getElem?_eq_some_iff.mp ho
    exact ⟨store, by rw [List.getElem?_set_self hlt], hf other hk⟩
  · exact ⟨old, by rw [List.getElem?_set_ne hm, ho], hold⟩

namespace Tracks

theorem get? (h : Tracks sources i j c source s a) :
    ∃ f store, s.get? i = some (f, j, store) ∧ Facade.Mirrors c source (f, store) a := by
  obtain ⟨f, hf, hs⟩ := h.member
  obtain ⟨store, ho, hfaith⟩ := h.stores j source h.behind
  refine ⟨f, store, ?_, hs, hfaith⟩
  simp [Session.get?, hf, ho]

/-- What a facade does to its own store and its providers is what the providers apart do. -/
theorem step_self (h : Tracks sources i j c source s a) {act : Facade.Step σ ι α}
    (ha : ∀ st, Facade.Mirrors c source st a → Facade.Mirrors c source (Gen.left (act st)) b) :
    Tracks sources i j c source (s.step i act).2 b := by
  obtain ⟨f, store, hg, hm⟩ := h.get?
  obtain ⟨hmem, hst⟩ := get?_eq_some hg
  obtain ⟨hs, hf⟩ := ha _ hm
  rw [step_of_get? hg]
  refine ⟨h.behind, ?_, ?_⟩
  · refine stores_set h.stores ?_
    intro other ho
    obtain rfl : source = other := Option.some.inj (h.behind.symm.trans ho)
    exact hf
  · obtain ⟨hlt, _⟩ := List.getElem?_eq_some_iff.mp hmem
    exact ⟨_, List.getElem?_set_self hlt, hs⟩

/-- What another facade does is not noticed, though the two may share a store. -/
theorem step_other (h : Tracks sources i j c source s a) (hk : k ≠ i) {act : Facade.Step σ ι α}
    (ha : ∀ other st, Store.Faithful other st.2 → Store.Faithful other (Gen.left (act st)).2) :
    Tracks sources i j c source (s.step k act).2 a := by
  cases hg : s.get? k with
  | none =>
    rw [step_of_none hg]
    exact h
  | some e =>
    obtain ⟨f, m, store⟩ := e
    obtain ⟨hmem, hst⟩ := get?_eq_some hg
    rw [step_of_get? hg]
    refine ⟨h.behind, ?_, ?_⟩
    · refine stores_set h.stores ?_
      intro other ho
      obtain ⟨own, hown, hfaith⟩ := h.stores m other ho
      obtain rfl : store = own := Option.some.inj (hst.symm.trans hown)
      exact ha other _ hfaith
    · obtain ⟨g, hmem', hs⟩ := h.member
      exact ⟨g, (List.getElem?_set_ne hk).trans hmem', hs⟩

variable [Registrable ι] {e : Event ι} {r : Request}

/-- A request to the facade moves its providers on. -/
theorem of_request (h : Tracks sources i j c source s a) (hr : request? i e = some r) :
    s.exchange? i e = a.exchange? r ∧ Tracks sources i j c source (s.react e) (a.behind r) := by
  cases e with
  | ask k r' =>
    obtain ⟨rfl, he⟩ := Option.ite_none_right_eq_some.mp hr
    obtain rfl := Option.some.inj he
    obtain ⟨f, store, hg, hm⟩ := h.get?
    refine ⟨?_, h.step_self fun st hst => hst.answer r'⟩
    simp only [exchange?, hg, if_true, Option.bind_some]
    exact Facade.exchange?_eq hm r'
  | register k fresh => cases hr
  | load k domain locale => cases hr

/-- Nothing else moves the providers of the facade on. -/
theorem of_none (h : Tracks sources i j c source s a) (hr : request? i e = none) :
    s.exchange? i e = none ∧ Tracks sources i j c source (s.react e) a := by
  cases e with
  | ask k r =>
    by_cases hk : k = i
    · simp [request?, hk] at hr
    · refine ⟨by simp [exchange?, hk], h.step_other hk ?_⟩
      intro other st hs
      exact Facade.faithful_left (fun hm => ⟨_, hm.answer r⟩) hs
  | register k fresh =>
    refine ⟨rfl, ?_⟩
    by_cases hk : k = i
    · subst hk
      exact h.step_self fun st hst => hst.onRegistered _
    · refine h.step_other hk ?_
      intro other st hs
      exact Facade.faithful_left (fun hm => ⟨_, hm.onRegistered _⟩) hs
  | load k domain locale =>
    refine ⟨rfl, ?_⟩
    unfold Session.react
    dsimp only
    cases hk : s.stores[k]? with
    | none => exact h
    | some store =>
      refine ⟨h.behind, stores_set h.stores ?_, h.member⟩
      intro other ho
      obtain ⟨own, hown, hfaith⟩ := h.stores k other ho
      obtain rfl : store = own := Option.some.inj (hk.symm.trans hown)
      exact (Store.alike_load other domain locale store store ⟨hfaith, hfaith⟩).left.1

/-- Along any events, the facade has the exchanges of its providers apart. -/
theorem exchanges_eq (h : Tracks sources i j c source s a) (events : List (Event ι)) :
    s.exchanges i events = a.exchanges (requests i events) ∧
      Tracks sources i j c source (s.after events) (a.after (requests i events)) := by
  induction events generalizing s a with
  | nil => exact ⟨rfl, h⟩
  | cons e es ih =>
    cases hr : request? i e with
    | none =>
      obtain ⟨hx, hn⟩ := h.of_none hr
      have hq : requests i (e :: es) = requests i es := List.filterMap_cons_none hr
      obtain ⟨hxs, ht⟩ := ih hn
      rw [hq]
      refine ⟨?_, ht⟩
      simp only [exchanges, hx, Option.toList_none, List.nil_append, hxs]
    | some r =>
      obtain ⟨hx, hn⟩ := h.of_request hr
      have hq : requests i (e :: es) = r :: requests i es := List.filterMap_cons_some hr
      obtain ⟨hxs, ht⟩ := ih hn
      rw [hq]
      refine ⟨?_, ht⟩
      simp only [exchanges, Apart.exchanges, hx, hxs]

end Tracks

variable [Registrable ι]

/-- What the exchanges of a facade are, and how they leave it, when the facade was built from a context and the
source behind its store does not change. -/
structure Refines (c : Context σ) (source : Source) (requests : List Request) (exchanges : List Exchange)
    (f : Facade σ ι) : Prop where
  replies : exchanges = (Apart.new c source).exchanges requests
  /-- Every provider replies as it does alone to the same queries, and if it is built it is what it is alone. -/
  alone : ∀ p : Builtin, ∃ b : Builtin.Alone σ p,
    (Builtin.Alone.build c source p).Follows b (Asked.of p (exchanges.flatMap (·.asked))) ∧
      ∀ x, f.slots.get p = some x → ∃ own, b = .ok (x, own)
  /-- Every request is answered by a script, which asks none but the providers the request is about. -/
  scripted : ∀ x ∈ exchanges, ∃ script : Script σ Json, x.request.script? σ = some script ∧
    (Facade.answer x.request : Facade.Step σ ι Json) = script.run Facade.host ∧
      ∀ e ∈ x.asked, e.provider ∈ x.request.targets
  /-- A call on a provider is nothing but one query, and its reply is the reply to that. -/
  direct : ∀ x ∈ exchanges, ∀ (p : Builtin) (q : p.Query), x.request.script? σ = some (.ask p q .answer) →
    x.asked = [⟨p, q, x.reply⟩]

/-- The exchanges of providers apart are those of a facade that stands for them behind the requests. -/
theorem refines_of_stands {rs : List Request} {f : Facade σ ι}
    (h : Facade.Stands c source f ((Apart.new c source).after rs)) :
    Refines c source rs ((Apart.new c source).exchanges rs) f where
  replies := rfl
  alone := by
    intro p
    refine ⟨_, Apart.follows_exchanges rs (.new c source) p, ?_⟩
    intro x hx
    obtain ⟨own, _, ha⟩ := h.built p x hx
    exact ⟨own, ha⟩
  scripted := by
    intro x hx
    obtain ⟨a, script, hr, ha, _⟩ := Apart.exists_of_mem_exchanges hx
    refine ⟨script, hr, Facade.answer_eq_run hr, ?_⟩
    intro e he
    rw [ha] at he
    exact Script.mem_of_asksOnly (Script.asksOnly_targets hr) he
  direct := by
    intro x hx p q hd
    obtain ⟨a, script, hr, ha, hy⟩ := Apart.exists_of_mem_exchanges hx
    obtain rfl := Option.some.inj (hr.symm.trans hd)
    rw [ha, hy]
    exact Script.asked_ask p q _ a

omit [Registrable ι] in
/-- Fresh facades are tracked from the start. -/
theorem tracks_start {stores : List Store} (hs : List.Forall₂ Store.Faithful sources stores)
    {contexts : List (Context σ × ℕ)} (hi : contexts[i]? = some (c, j)) (hj : sources[j]? = some source) :
    Tracks sources i j c source (start stores contexts : Session σ ι) (.new c source) where
  behind := hj
  stores := by
    intro k other hk
    obtain ⟨hlt, rfl⟩ := List.getElem?_eq_some_iff.mp hk
    have hlt' : k < stores.length := hs.length_eq ▸ hlt
    exact ⟨stores[k], List.getElem?_eq_getElem hlt', hs.get hlt hlt'⟩
  member := by
    refine ⟨.new c, ?_, Facade.stands_new c source⟩
    simp [start, hi]

/-- In every session, whatever the events and however they interleave, each facade refines its providers apart. -/
theorem refines_apart {sources : List Source} {stores : List Store}
    (hs : List.Forall₂ Store.Faithful sources stores) {contexts : List (Context σ × ℕ)} {i j : ℕ} {c : Context σ}
    (hi : contexts[i]? = some (c, j)) {source : Source} (hj : sources[j]? = some source)
    (events : List (Event ι)) : ∃ f, ((start stores contexts).after events).members[i]? = some (f, j) ∧
      Refines c source (requests i events) ((start stores contexts).exchanges i events) f := by
  have ht : Tracks sources i j c source (start stores contexts : Session σ ι) (.new c source) := tracks_start hs hi hj
  obtain ⟨hx, ht⟩ := ht.exchanges_eq events
  obtain ⟨f, hf, hst⟩ := ht.member
  refine ⟨f, hf, ?_⟩
  rw [hx]
  exact refines_of_stands hst

def pair : List (Context Keystream × ℕ) :=
  [(⟨"en", some 1, fun _ => default⟩, 0), (⟨"de", some 2, fun _ => default⟩, 0)]

def pairEvents : List (Event Empty) :=
  [.ask 0 .rule, .ask 1 (.generate "personal" "email"), .load 0 "text" "de", .ask 1 .element]

theorem refines_apart_pair :
    List.Forall₂ Store.Faithful [Assets.source] [Assets.store] ∧
      pair[1]? = some (⟨"de", some 2, fun _ => default⟩, 0) ∧ [Assets.source][0]? = some Assets.source ∧
      ∃ f, ((start [Assets.store] pair).after pairEvents).members[1]? = some (f, 0) ∧
        Refines ⟨"de", some 2, fun _ => default⟩ Assets.source [.generate "personal" "email", .element]
          ((start [Assets.store] pair).exchanges 1 pairEvents) f := by
  have hs : List.Forall₂ Store.Faithful [Assets.source] [Assets.store] :=
    .cons (Store.faithful_ofSource Assets.source) .nil
  exact ⟨hs, rfl, rfl, refines_apart hs rfl rfl pairEvents⟩

end SampleData.Session
