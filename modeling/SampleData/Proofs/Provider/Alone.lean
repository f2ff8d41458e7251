import SampleData.Proofs.Provider.Method
import SampleData.Proofs.Provider.Records
import SampleData.Proofs.Simulation
import SampleData.Proofs.Store.Loading

/-! # Providers that stand alone

A provider that stands alone is built once, over a store of its own that starts empty, and then is asked one query
after the other. What it answers does not depend on the store: any other store with the same source behind it gives
the same answers, whatever it has cached, both when the provider is built and when it is asked.
-/
namespace SampleData

namespace Store

/-- Two stores with one source behind them; what they have cached may differ. -/
def SameSource (source : Source) (store store' : Store) : Prop := Faithful source store ∧ Faithful source store'

/-- What is cached cannot be told from a load. -/
theorem alike_load (source : Source) (domain locale : String) :
    Gen.Alike (SameSource source) (load domain locale) (load domain locale) := by
  rintro store store' ⟨h, h'⟩
  obtain ⟨after, ha, hl⟩ := h.load domain locale
  obtain ⟨after', ha', hl'⟩ := h'.load domain locale
  rw [hl, hl']
  cases readBundle source domain locale with
  | ok b => exact .ok ⟨ha, ha'⟩
  | error e => exact .error ⟨ha, ha'⟩

end Store

namespace Personal

variable {σ : Type} {source : Source}

theorem alike_textOf (step : Bundle → Gen σ String) :
    Gen.Alike (Gen.Beside (Store.SameSource source)) (textOf step) (textOf step) :=
  Gen.alike_onFirst _

theorem alike_numberOf (step : Gen (Personal σ) UInt32) :
    Gen.Alike (Gen.Beside (Store.SameSource source)) (numberOf step) (numberOf step) :=
  Gen.alike_onFirst _

theorem alike_withEnglish (step : Bundle → Gen σ String) :
    Gen.Alike (Gen.Beside (Store.SameSource source)) (withEnglish step) (withEnglish step) :=
  (Store.alike_load source domain Locale.standard).beside.bind fun english => alike_textOf fun _ => step english

/-- The replies of a provider do not depend on what its store has cached. -/
theorem alike_perform [WordSource σ] (call : Call) :
    Gen.Alike (Gen.Beside (Store.SameSource source)) (perform call : Gen (Personal σ × Store) Json)
      (perform call) := by
  cases call with
  | storedAge => exact Gen.alike_onFirst _
  | username gender => exact alike_withEnglish _
  | email gender => exact alike_withEnglish _
  | paypal gender => exact alike_withEnglish _
  | age lo hi => exact alike_numberOf _
  | childCount limit => exact alike_numberOf _
  | workExperience start => exact alike_numberOf _
  | cvv => exact alike_numberOf _
  | cid => exact alike_numberOf _
  | weight lo hi => exact alike_numberOf _
  | _ => exact alike_textOf _

end Personal

namespace Builtin

variable {σ : Type}

theorem alike_build [SeededSource σ] (source : Source) (c : Context σ) (p : Builtin) :
    Gen.Alike (Store.SameSource source) (p.build c) (p.build c) := by
  have hl : ∀ domain locale, Gen.Alike (Store.SameSource source) (Store.load domain locale)
      (Store.load domain locale) := Store.alike_load source
  cases p with
  | address | business | datetime | food | internet | personal | science | text =>
    exact (hl _ _).bind fun _ => Gen.alike_pure _
  | _ => exact Gen.alike_pure _

section Calls

variable [WordSource σ]

theorem alike_call (source : Source) (p : Builtin) (call : p.Call) :
    Gen.Alike (Gen.Beside (Store.SameSource source)) (p.perform call : Gen (p.State σ × Store) Json)
      (p.perform call) := by
  cases p with
  | personal => exact Personal.alike_perform call
  | _ => exact Gen.alike_onFirst _

theorem alike_performField (source : Source) (p : Builtin) (field : String) :
    Gen.Alike (Gen.Beside (Store.SameSource source)) (p.performField field : Gen (p.State σ × Store) Json)
      (p.performField field) := by
  unfold performField
  cases p.fields.lookup field with
  | some call => exact alike_call source p call
  | none => exact Gen.alike_throw _

inductive Query (p : Builtin) where
  | method (m : p.Method)
  | names
  | records (items : ℕ)

def Query.perform {p : Builtin} : p.Query → Gen (p.State σ × Store) Json
  | .method m => m.perform
  | .names => pure (Json.ofStrings p.fieldNames)
  | .records items => Json.list <$> Random.times items p.record

theorem alike_query (source : Source) {p : Builtin} (q : p.Query) :
    Gen.Alike (Gen.Beside (Store.SameSource source)) (q.perform : Gen (p.State σ × Store) Json) q.perform := by
  cases q with
  | names => exact Gen.alike_pure _
  | method m =>
    cases m with
    | typed call => exact alike_call source p call
    | named field => exact alike_performField source p field
  | records items =>
    have hr : Gen.Alike (Gen.Beside (Store.SameSource source)) (p.record : Gen (p.State σ × Store) Json)
        p.record := by
      rw [record_eq]
      exact (Gen.Alike.inTurn (alike_performField source p) p.fieldNames).map _
    exact (hr.times items).map Json.list

end Calls

/-- A provider with its own store, or the error it could not be built for. -/
abbrev Alone (σ : Type) (p : Builtin) := Except Error (p.State σ × Store)

namespace Alone

variable {p : Builtin}

def build [SeededSource σ] (c : Context σ) (source : Source) (p : Builtin) : Alone σ p :=
  match p.build c (.ofSource source) with
  | .ok x store => .ok (x, store)
  | .error e _ => .error e

/-- Where a provider is built over any store, it is built alone just as well. -/
theorem build_of_ok [SeededSource σ] {c : Context σ} {source : Source} {store after : Store}
    (hs : Store.Faithful source store) {x : p.State σ} (h : p.build c store = .ok x after) :
    Store.Faithful source after ∧ ∃ own, Store.Faithful source own ∧ build c source p = .ok (x, own) := by
  have hb := alike_build source c p store (.ofSource source) ⟨hs, Store.faithful_ofSource source⟩
  rw [h] at hb
  unfold build
  generalize p.build c (.ofSource source) = o at hb
  cases hb with
  | @ok _ _ own hn => exact ⟨hn.1, own, hn.2, rfl⟩

/-- A provider that cannot be built over a store cannot be built alone. -/
theorem build_of_error [SeededSource σ] {c : Context σ} {source : Source} {store after : Store}
    (hs : Store.Faithful source store) {e : Error} (h : p.build c store = .error e after) :
    Store.Faithful source after ∧ build c source p = .error e := by
  have hb := alike_build source c p store (.ofSource source) ⟨hs, Store.faithful_ofSource source⟩
  rw [h] at hb
  unfold build
  generalize p.build c (.ofSource source) = o at hb
  cases hb with
  | error hn => exact ⟨hn.1, rfl⟩

variable [WordSource σ]

def ask (q : p.Query) : Alone σ p → Except Error Json × Alone σ p
  | .error e => (.error e, .error e)
  | .ok st => (Gen.answer (q.perform st), .ok (Gen.left (q.perform st)))

def replies (a : Alone σ p) : List p.Query → List (Except Error Json)
  | [] => []
  | q :: qs => (a.ask q).1 :: replies (a.ask q).2 qs

def after (a : Alone σ p) (qs : List p.Query) : Alone σ p := qs.foldl (fun a q => (a.ask q).2) a

theorem replies_append (a : Alone σ p) (qs rs : List p.Query) :
    replies a (qs ++ rs) = replies a qs ++ replies (after a qs) rs := by
  induction qs generalizing a with
  | nil => rfl
  | cons q qs ih =>
    simp only [List.cons_append, replies, ih]
    rfl

theorem after_append (a : Alone σ p) (qs rs : List p.Query) : after a (qs ++ rs) = after (after a qs) rs := by
  unfold after
  rw [List.foldl_append]

/-- The entries pair queries with what the provider alone replies to them, and `b` is the provider behind them. -/
def Follows (a b : Alone σ p) (entries : List (p.Query × Except Error Json)) : Prop :=
  entries.map (·.2) = replies a (entries.map (·.1)) ∧ b = after a (entries.map (·.1))

theorem follows_nil (a : Alone σ p) : Follows a a [] := ⟨rfl, rfl⟩

theorem Follows.cons {a b : Alone σ p} {q : p.Query} {entries : List (p.Query × Except Error Json)}
    (h : Follows (ask q a).2 b entries) : Follows a b ((q, (ask q a).1) :: entries) := by
  obtain ⟨hr, hb⟩ := h
  refine ⟨?_, hb⟩
  simp only [List.map_cons, replies, hr]

theorem Follows.append {a b c : Alone σ p} {xs ys : List (p.Query × Except Error Json)} (hx : Follows a b xs)
    (hy : Follows b c ys) : Follows a c (xs ++ ys) := by
  obtain ⟨hr, rfl⟩ := hx
  obtain ⟨hs, rfl⟩ := hy
  constructor
  · rw [List.map_append, List.map_append, replies_append, hr, hs]
  · rw [List.map_append, after_append]

end Alone

end Builtin

end SampleData
