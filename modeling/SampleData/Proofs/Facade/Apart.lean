import Mathlib.Logic.Function.Basic
import SampleData.Proofs.Facade.Scripted

/-! # Providers apart

The providers of a facade taken apart: each one stands alone, built before anything is asked, and beside them there
is the stream behind markup. A facade replies as its providers apart do, whenever it builds them and whatever its
store has cached.
-/
namespace SampleData

structure Apart (σ : Type) where
  alone : (p : Builtin) → Builtin.Alone σ p
  markup : σ

namespace Apart

variable {σ : Type}

def new [SeededSource σ] (c : Context σ) (source : Source) : Apart σ :=
  ⟨Builtin.Alone.build c source, c.stream Facade.markupKey⟩

def place (a : Apart σ) (p : Builtin) (st : p.State σ × Store) : Apart σ :=
  { a with alone := Function.update a.alone p (.ok st) }

/-- The provider `p` replies, and no other provider takes notice. -/
def ask [WordSource σ] (p : Builtin) (q : p.Query) : Gen (Apart σ) Json := fun a =>
  match a.alone p with
  | .error e => .error e a
  | .ok st => Gen.withState (a.place p) (q.perform st)

def draw {β : Type} (step : StateM σ β) : Gen (Apart σ) β :=
  Gen.focus markup (fun a w => { a with markup := w }) (Gen.draw step)

def host [WordSource σ] : Host σ (Apart σ) := ⟨ask, draw⟩

variable [WordSource σ] {α : Type}

theorem ask_of_ok {p : Builtin} {a : Apart σ} {st : p.State σ × Store} (h : a.alone p = .ok st) (q : p.Query) :
    ask p q a = Gen.withState (a.place p) (q.perform st) := by
  simp only [ask, h]

theorem ask_of_error {p : Builtin} {a : Apart σ} {e : Error} (h : a.alone p = .error e) (q : p.Query) :
    ask p q a = .error e a := by
  simp only [ask, h]

theorem answer_ask (p : Builtin) (q : p.Query) (a : Apart σ) :
    Gen.answer (ask p q a) = (Builtin.Alone.ask q (a.alone p)).1 := by
  unfold ask Builtin.Alone.ask
  cases a.alone p with
  | error e => rfl
  | ok st => cases hq : q.perform st <;> simp [Gen.withState, hq]

theorem alone_ask (p : Builtin) (q : p.Query) (a : Apart σ) :
    (Gen.left (ask p q a)).alone = Function.update a.alone p (Builtin.Alone.ask q (a.alone p)).2 := by
  unfold ask Builtin.Alone.ask
  cases ha : a.alone p with
  | error e => exact (ha ▸ Function.update_eq_self p a.alone).symm
  | ok st => cases hq : q.perform st <;> simp [Gen.withState, place, hq]

/-- A query goes in front of what its provider does next, and is nothing to the others. -/
theorem follows_ask {p q : Builtin} {query : q.Query} {a : Apart σ} {o : Gen.Outcome (Apart σ) Json}
    (ho : ask q query a = o) {b : Builtin.Alone σ p} {entries : List Asked}
    (h : Builtin.Alone.Follows ((Gen.left o).alone p) b (Asked.of p entries)) :
    Builtin.Alone.Follows (a.alone p) b (Asked.of p (⟨q, query, Gen.answer o⟩ :: entries)) := by
  subst ho
  rw [alone_ask] at h
  by_cases hp : q = p
  · subst hp
    rw [Function.update_self] at h
    rw [Asked.of_cons_self, answer_ask]
    exact h.cons
  · rw [Function.update_of_ne (Ne.symm hp)] at h
    rw [Asked.of_cons_of_ne hp]
    exact h

/-- What a script is told of a provider is what the provider alone replies to the same queries, and the script
leaves it as they do. -/
theorem follows_asked (x : Script σ α) (a : Apart σ) (p : Builtin) :
    Builtin.Alone.Follows (a.alone p) ((Gen.left (x.run host a)).alone p) (Asked.of p (x.asked host a)) := by
  induction x generalizing a with
  | answer b => exact Builtin.Alone.follows_nil _
  | fail e => exact Builtin.Alone.follows_nil _
  | ask q query next ih =>
    cases ho : ask q query a with
    | ok reply a' =>
      have hx : (Script.ask q query next).asked host a = ⟨q, query, .ok reply⟩ :: (next reply).asked host a' := by
        simp only [Script.asked, host, ho]
      have hr : (Script.ask q query next).run host a = (next reply).run host a' := Gen.bind_of_ok ho
      rw [hx, hr]
      exact follows_ask ho (ih reply a')
    | error e a' =>
      have hx : (Script.ask q query next).asked host a = [⟨q, query, .error e⟩] := by
        simp only [Script.asked, host, ho]
      have hr : (Script.ask q query next).run host a = .error e a' := Gen.bind_of_error ho
      rw [hx, hr]
      exact follows_ask ho (Builtin.Alone.follows_nil _)
  | draw step next ih =>
    have hx : (Script.draw step next).asked host a =
        (next (step a.markup).1).asked host { a with markup := (step a.markup).2 } := rfl
    have hr : (Script.draw step next).run host a =
        (next (step a.markup).1).run host { a with markup := (step a.markup).2 } := rfl
    rw [hx, hr]
    exact ih _ _

end Apart

namespace Facade

variable {σ ι : Type} [SeededSource σ] {c : Context σ} {source : Source} {f : Facade σ ι} {store : Store}
  {a : Apart σ}

/-- A provider that the facade has built is the provider alone but for its store; one that it has not built is
still as it is built from the context. -/
structure Stands (c : Context σ) (source : Source) (f : Facade σ ι) (a : Apart σ) : Prop where
  context : f.context = c
  markup : f.markup = a.markup
  built : ∀ p x, f.slots.get p = some x → ∃ own, Store.Faithful source own ∧ a.alone p = .ok (x, own)
  unbuilt : ∀ p, f.slots.get p = none → a.alone p = Builtin.Alone.build c source p

/-- A facade over a store that holds nothing but what the source holds, and its providers apart. -/
def Mirrors (c : Context σ) (source : Source) (st : Facade σ ι × Store) (a : Apart σ) : Prop :=
  Stands c source st.1 a ∧ Store.Faithful source st.2

theorem stands_new (c : Context σ) (source : Source) : Stands c source (new c : Facade σ ι) (.new c source) where
  context := rfl
  markup := rfl
  built := by
    intro p x h
    cases (Slots.get_empty p).symm.trans h
  unbuilt := by
    intro p _
    rfl

def aloneNow (source : Source) (f : Facade σ ι) (p : Builtin) : Builtin.Alone σ p :=
  match f.slots.get p with
  | some x => .ok (x, .ofSource source)
  | none => Builtin.Alone.build f.context source p

/-- Any facade stands for its providers apart as they are now. -/
theorem exists_stands (source : Source) (f : Facade σ ι) : ∃ a, Stands f.context source f a := by
  refine ⟨⟨f.aloneNow source, f.markup⟩, rfl, rfl, ?_, ?_⟩
  · intro p x hx
    exact ⟨_, Store.faithful_ofSource source, by simp only [aloneNow, hx]⟩
  · intro p hx
    simp only [aloneNow, hx]

/-- A facade stands for its providers apart behind a change of one of them on both sides. -/
theorem Stands.place (h : Stands c source f a) {p : Builtin} (x : p.State σ) (store : Store) {own : Store}
    (ho : Store.Faithful source own) : Stands c source (f.place p (x, store)).1 (a.place p (x, own)) where
  context := h.context
  markup := h.markup
  built := by
    intro q y hq
    by_cases hp : q = p
    · subst hp
      obtain rfl : x = y := Option.some.inj ((get_place f q (x, store)).symm.trans hq)
      exact ⟨own, ho, Function.update_self ..⟩
    · obtain ⟨own', ho', ha⟩ := h.built q y ((Slots.get_set_of_ne f.slots hp x).symm.trans hq)
      exact ⟨own', ho', (Function.update_of_ne hp ..).trans ha⟩
  unbuilt := by
    intro q hq
    by_cases hp : q = p
    · subst hp
      cases (get_place f q (x, store)).symm.trans hq
    · have ha := h.unbuilt q ((Slots.get_set_of_ne f.slots hp x).symm.trans hq)
      exact (Function.update_of_ne hp ..).trans ha

/-- Asked of the same provider over two stores, facade and providers apart reply alike. -/
theorem Stands.matches_perform (h : Stands c source f a) {p : Builtin} (q : p.Query) {x : p.State σ}
    (hs : Store.Faithful source store) {own : Store} (ho : Store.Faithful source own) :
    Gen.Matches (Mirrors c source) (Gen.withState (f.place p) (q.perform (x, store)))
      (Gen.withState (a.place p) (q.perform (x, own))) := by
  have hq := Builtin.alike_query source q (x, store) (x, own) ⟨rfl, hs, ho⟩
  generalize q.perform (x, store) = o at hq
  generalize q.perform (x, own) = o' at hq
  cases hq with
  | @ok reply st st' hb =>
    obtain ⟨y, after⟩ := st
    obtain ⟨_, after'⟩ := st'
    obtain ⟨rfl, hs', ho'⟩ := hb
    exact .ok ⟨h.place y after ho', hs'⟩
  | @error e st st' hb =>
    obtain ⟨y, after⟩ := st
    obtain ⟨_, after'⟩ := st'
    obtain ⟨rfl, hs', ho'⟩ := hb
    exact .error ⟨h.place y after ho', hs'⟩

/-- A query to a facade has the reply of the provider apart, and leaves both in step. -/
theorem alike_ask (p : Builtin) (q : p.Query) :
    Gen.Alike (Mirrors c source) (onProvider p q.perform : Step σ ι Json) (Apart.ask p q) := by
  rintro ⟨f, store⟩ a ⟨h, hs⟩
  cases hx : f.slots.get p with
  | some x =>
    obtain ⟨own, ho, ha⟩ := h.built p x hx
    rw [onProvider_of_get hx, Apart.ask_of_ok ha]
    exact h.matches_perform q hs ho
  | none =>
    have ha := h.unbuilt p hx
    obtain rfl := h.context
    cases hb : p.build f.context store with
    | ok x after =>
      obtain ⟨hs', own, ho, hu⟩ := Builtin.Alone.build_of_ok hs hb
      rw [onProvider_of_build hx hb, Apart.ask_of_ok (ha.trans hu)]
      exact h.matches_perform q hs' ho
    | error e after =>
      obtain ⟨hs', hu⟩ := Builtin.Alone.build_of_error hs hb
      rw [onProvider_of_unbuildable hx hb, Apart.ask_of_error (ha.trans hu)]
      exact .error ⟨h, hs'⟩

theorem alike_draw {β : Type} (step : StateM σ β) :
    Gen.Alike (Mirrors c source) (Markup.draw step : Step σ ι β) (Apart.draw step) := by
  rintro ⟨f, store⟩ a ⟨h, hs⟩
  obtain ⟨hc, hm, hb, hu⟩ := h
  have hd : Markup.draw step (f, store) = .ok (step f.markup).1 ({ f with markup := (step f.markup).2 }, store) := rfl
  have hd' : Apart.draw step a = .ok (step a.markup).1 { a with markup := (step a.markup).2 } := rfl
  rw [hd, hd', hm]
  exact .ok ⟨⟨hc, rfl, hb, hu⟩, hs⟩

/-- A script runs on a facade as it does on its providers apart. -/
theorem alike_host : Script.Alike (Mirrors c source) (host : Host σ (Facade σ ι × Store)) Apart.host :=
  ⟨alike_ask, alike_draw⟩

end Facade

end SampleData
