import SampleData.Proofs.Provider.Method
import SampleData.Proofs.Random.Bounds

/-! # The stored age

The age is the one thing that a provider of personal data remembers. Three calls touch it: an explicit age stores
what it drew, and the number of children and the years of work establish an age only where none is stored. The law
of a single method says what it answers and leaves behind; a run of methods, with anything happening to the store in
between, obeys it at every step.
-/
namespace SampleData.Personal

variable {σ : Type} [WordSource σ]

theorem age_of_le {lo hi : UInt32} (h : lo ≤ hi) (p : Personal σ) :
    age lo hi p = .ok (Random.unsigned lo hi p.words).1
      { p with words := (Random.unsigned lo hi p.words).2,
               storedAge := .holding (Random.unsigned lo hi p.words).1 } := by
  have hle : ¬ (hi.toNat : ℤ) < lo.toNat := by
    have := UInt32.le_iff_toNat_le.mp h
    omega
  simp only [age, Bounds.whole, hle, ↓reduceIte]
  rfl

/-- Bounds in the wrong order are refused before anything is drawn. -/
theorem age_of_lt {lo hi : UInt32} (h : hi < lo) (p : Personal σ) :
    age lo hi p =
      .error (.invalidInput (.reversedBounds "age" (.whole lo.toNat) (.whole hi.toNat))) p := by
  have hlt : (hi.toNat : ℤ) < lo.toNat := by
    have := UInt32.lt_iff_toNat_lt.mp h
    omega
  simp only [age, Bounds.whole, hlt, ↓reduceIte]
  rfl

theorem currentAge_of_holding {p : Personal σ} {n : UInt32} (h : p.storedAge = .holding n) :
    currentAge p = .ok n p := by
  have hg : (get : Gen (Personal σ) (Personal σ)) p = .ok p p := rfl
  rw [currentAge, Gen.bind_of_ok hg, h]
  rfl

/-- An age is only made up where none is stored. -/
theorem currentAge_of_unset {p : Personal σ} (h : p.storedAge = .unset) :
    currentAge p = age leastAge greatestAge p := by
  have hg : (get : Gen (Personal σ) (Personal σ)) p = .ok p p := rfl
  rw [currentAge, Gen.bind_of_ok hg, h]

/-- What a dependent call finds: the stored age and an untouched provider, or a fresh age that is stored now. -/
theorem currentAge_spec (p : Personal σ) : ∃ n q, currentAge p = .ok n q ∧ q.storedAge = .holding n ∧
    (p.storedAge = .holding n ∧ q = p ∨
      p.storedAge = .unset ∧ leastAge ≤ n ∧ n ≤ greatestAge) := by
  cases h : p.storedAge with
  | holding n => exact ⟨n, p, currentAge_of_holding h, h, .inl ⟨rfl, rfl⟩⟩
  | unset =>
    have hle : leastAge ≤ greatestAge := by decide
    have hm := Random.unsigned_mem hle p.words
    refine ⟨_, _, (currentAge_of_unset h).trans (age_of_le hle p), rfl, .inr ⟨rfl, hm⟩⟩

theorem childCount_of_minor {p q : Personal σ} {n : UInt32} (h : currentAge p = .ok n q)
    (hn : n < adultAge) (limit : UInt32) : childCount limit p = .ok 0 q := by
  rw [childCount, Gen.bind_of_ok h, if_pos hn]
  rfl

theorem childCount_of_adult {p q : Personal σ} {n : UInt32} (h : currentAge p = .ok n q)
    (hn : ¬ n < adultAge) (limit : UInt32) : childCount limit p =
      .ok (Random.unsigned 0 limit q.words).1
        { q with words := (Random.unsigned 0 limit q.words).2 } := by
  rw [childCount, Gen.bind_of_ok h, if_neg hn]
  rfl

theorem workExperience_of_currentAge {p q : Personal σ} {n : UInt32} (h : currentAge p = .ok n q)
    (start : UInt32) : workExperience start p = .ok (if n < start then 0 else n - start) q := by
  rw [workExperience, Gen.bind_of_ok h]
  rfl

theorem toNat_years (n start : UInt32) :
    ((if n < start then 0 else n - start : UInt32).toNat : ℤ) = max ((n.toNat : ℤ) - start.toNat) 0 := by
  split
  · next h =>
    have hlt := UInt32.lt_iff_toNat_lt.mp h
    have h0 : (0 : UInt32).toNat = 0 := rfl
    omega
  · next h =>
    have hle : start ≤ n := UInt32.not_lt.mp h
    have hnat := UInt32.le_iff_toNat_le.mp hle
    rw [UInt32.toNat_sub_of_le _ _ hle]
    omega

omit [WordSource σ] in
theorem numberOf_of_ok {step : Gen (Personal σ) UInt32} {p q : Personal σ} {n : UInt32}
    (h : step p = .ok n q) (store : Store) : numberOf step (p, store) = .ok (.int n.toNat) (q, store) := by
  unfold numberOf Gen.onFirst Gen.focus
  simp only [Gen.map_of_ok h]

omit [WordSource σ] in
theorem numberOf_of_error {step : Gen (Personal σ) UInt32} {p q : Personal σ} {e : Error}
    (h : step p = .error e q) (store : Store) : numberOf step (p, store) = .error e (q, store) := by
  unfold numberOf Gen.onFirst Gen.focus
  simp only [Gen.map_of_error h]

/-- The calls that may touch the stored age. -/
def Call.touchesAge : Call → Bool
  | .age .. | .childCount _ | .workExperience _ => true
  | _ => false

omit [WordSource σ] in
theorem keeps_onWords {α : Type} (step : Bundle → Gen σ α) :
    Gen.Keeps (fun p : Personal σ => p.storedAge) (onWords step) := by
  intro p
  unfold onWords Gen.focus
  cases step p.bundle p.words <;> rfl

omit [WordSource σ] in
theorem keeps_textOf (step : Bundle → Gen σ String) :
    Gen.Keeps (fun st : Personal σ × Store => st.1.storedAge) (textOf step) :=
  ((keeps_onWords step).map Json.str).onFirst

omit [WordSource σ] in
theorem keeps_numberOf (step : Bundle → Gen σ UInt32) :
    Gen.Keeps (fun st : Personal σ × Store => st.1.storedAge) (numberOf (onWords step)) :=
  ((keeps_onWords step).map fun n => Json.int n.toNat).onFirst

omit [WordSource σ] in
theorem keeps_withEnglish (step : Bundle → Gen σ String) :
    Gen.Keeps (fun st : Personal σ × Store => st.1.storedAge) (withEnglish step) :=
  (Gen.keeps_onSecond (fun p : Personal σ => p.storedAge) _).bind fun english =>
    keeps_textOf fun _ => step english

def shown : Slot UInt32 → Json
  | .unset => .null
  | .holding n => .int n.toNat

theorem perform_storedAge (st : Personal σ × Store) :
    perform .storedAge st = .ok (shown st.1.storedAge) st := by
  obtain ⟨⟨bundle, words, slot⟩, store⟩ := st
  cases slot <;> rfl

/-- No other call changes the stored age, whether it goes well or fails. -/
theorem keeps_perform {call : Call} (h : call.touchesAge = false) :
    Gen.Keeps (fun st : Personal σ × Store => st.1.storedAge) (perform call) := by
  cases call with
  | age lo hi => cases h
  | childCount limit => cases h
  | workExperience start => cases h
  | storedAge =>
    intro st
    rw [perform_storedAge]
    rfl
  | username gender => exact keeps_withEnglish _
  | email gender => exact keeps_withEnglish _
  | paypal gender => exact keeps_withEnglish _
  | cvv => exact keeps_numberOf _
  | cid => exact keeps_numberOf _
  | weight lo hi => exact keeps_numberOf _
  | _ => exact keeps_textOf _

/-- The age that a dependent call goes by: the stored one, or one between 16 and 66 where none was stored. -/
def Found (before after : Personal σ) (n : UInt32) : Prop :=
  after.storedAge = .holding n ∧
    (before.storedAge = .holding n ∨ before.storedAge = .unset ∧ 16 ≤ n ∧ n ≤ 66)

/-- What a method answers and does to the provider; a method comes down to a call, or to none where its name is
unknown. -/
def AgeLaw (before : Personal σ) (answer : Except Error Json) (after : Personal σ) : Option Call → Prop
  | some (.age lo hi) =>
    if lo ≤ hi then ∃ n, lo ≤ n ∧ n ≤ hi ∧ answer = .ok (.int n.toNat) ∧ after.storedAge = .holding n
    else (∃ fault, answer = .error (.invalidInput fault)) ∧ after = before
  | some (.workExperience start) => ∃ n, Found before after n ∧
    answer = .ok (.int (max ((n.toNat : ℤ) - start.toNat) 0)) ∧
    (before.storedAge = .holding n → after = before)
  | some (.childCount limit) => ∃ n, Found before after n ∧
    if n < 18 then answer = .ok (.int 0) ∧ (before.storedAge = .holding n → after = before)
    else ∃ k, k ≤ limit ∧ answer = .ok (.int k.toNat)
  | some .storedAge => answer = .ok (shown before.storedAge) ∧ after = before
  | _ => after.storedAge = before.storedAge

theorem ageLaw_age (lo hi : UInt32) (p : Personal σ) (store : Store) :
    AgeLaw p (Gen.answer (perform (.age lo hi) (p, store))) (Gen.left (perform (.age lo hi) (p, store))).1
      (some (.age lo hi)) := by
  simp only [AgeLaw]
  split
  · next h =>
    have hp : perform (.age lo hi) (p, store) = _ := numberOf_of_ok (age_of_le h p) store
    obtain ⟨h1, h2⟩ := Random.unsigned_mem h p.words
    rw [hp]
    exact ⟨_, h1, h2, rfl, rfl⟩
  · next h =>
    have hp : perform (.age lo hi) (p, store) = _ :=
      numberOf_of_error (age_of_lt (UInt32.not_le.mp h) p) store
    rw [hp]
    exact ⟨⟨_, rfl⟩, rfl⟩

/-- The provider behind `currentAge` holds the age that was found, and is the old one where an age was stored. -/
theorem found_of_currentAge (p : Personal σ) : ∃ n q, currentAge p = .ok n q ∧ Found p q n ∧
    (p.storedAge = .holding n → q = p) := by
  obtain ⟨n, q, hc, hq, h | ⟨hu, h1, h2⟩⟩ := currentAge_spec p
  · exact ⟨n, q, hc, ⟨hq, .inl h.1⟩, fun _ => h.2⟩
  · refine ⟨n, q, hc, ⟨hq, .inr ⟨hu, h1, h2⟩⟩, ?_⟩
    intro hs
    rw [hu] at hs
    cases hs

theorem ageLaw_workExperience (start : UInt32) (p : Personal σ) (store : Store) :
    AgeLaw p (Gen.answer (perform (.workExperience start) (p, store)))
      (Gen.left (perform (.workExperience start) (p, store))).1 (some (.workExperience start)) := by
  obtain ⟨n, q, hc, hf, hq⟩ := found_of_currentAge p
  have hp : perform (.workExperience start) (p, store) = _ :=
    numberOf_of_ok (workExperience_of_currentAge hc start) store
  rw [hp]
  refine ⟨n, hf, ?_, hq⟩
  rw [Gen.answer_ok, toNat_years]

theorem ageLaw_childCount (limit : UInt32) (p : Personal σ) (store : Store) :
    AgeLaw p (Gen.answer (perform (.childCount limit) (p, store)))
      (Gen.left (perform (.childCount limit) (p, store))).1 (some (.childCount limit)) := by
  obtain ⟨n, q, hc, hf, hq⟩ := found_of_currentAge p
  by_cases hn : n < 18
  · have hp : perform (.childCount limit) (p, store) = _ :=
      numberOf_of_ok (childCount_of_minor hc hn limit) store
    rw [hp]
    refine ⟨n, hf, ?_⟩
    rw [if_pos hn]
    exact ⟨rfl, hq⟩
  · have hp : perform (.childCount limit) (p, store) = _ :=
      numberOf_of_ok (childCount_of_adult hc hn limit) store
    have h0 : (0 : UInt32) ≤ limit := UInt32.le_iff_toNat_le.mpr (Nat.zero_le _)
    rw [hp]
    refine ⟨n, hf, ?_⟩
    rw [if_neg hn]
    exact ⟨_, (Random.unsigned_mem h0 q.words).2, rfl⟩

/-- Every call obeys the law of the stored age. -/
theorem ageLaw_perform (call : Call) (p : Personal σ) (store : Store) :
    AgeLaw p (Gen.answer (perform call (p, store))) (Gen.left (perform call (p, store))).1 (some call) := by
  cases call with
  | age lo hi => exact ageLaw_age lo hi p store
  | childCount limit => exact ageLaw_childCount limit p store
  | workExperience start => exact ageLaw_workExperience start p store
  | storedAge =>
    rw [perform_storedAge]
    exact ⟨rfl, rfl⟩
  | _ => exact keeps_perform rfl (p, store)

theorem ageLaw_method (m : Builtin.Method .personal) (p : Personal σ) (store : Store) :
    AgeLaw p (Gen.answer (m.perform (p, store))) (Gen.left (m.perform (p, store))).1 m.call? := by
  cases h : m.call? with
  | some call =>
    rw [Builtin.Method.perform_of_call h]
    exact ageLaw_perform call p store
  | none =>
    obtain ⟨field, hp⟩ := Builtin.Method.perform_of_none h (p, store)
    rw [hp]
    rfl

inductive Event where
  | method (m : Builtin.Method .personal)
  | elsewhere (store : Store)

structure Entry (σ : Type) where
  call? : Option Call
  before : Personal σ
  answer : Except Error Json
  after : Personal σ

def trace : List Event → Personal σ × Store → List (Entry σ)
  | [], _ => []
  | .method m :: es, st =>
    ⟨m.call?, st.1, Gen.answer (m.perform st), (Gen.left (m.perform st)).1⟩ ::
      trace es (Gen.left (m.perform st))
  | .elsewhere store :: es, st => trace es (st.1, store)

def final : List Event → Personal σ × Store → Personal σ × Store
  | [], st => st
  | .method m :: es, st => final es (Gen.left (m.perform st))
  | .elsewhere store :: es, st => final es (st.1, store)

def Entry.SetsAge (e : Entry σ) : Prop :=
  ∃ lo hi a, e.call? = some (.age lo hi) ∧ e.answer = .ok a

def Entry.Establishes (e : Entry σ) : Prop :=
  e.SetsAge ∨ (∃ limit, e.call? = some (.childCount limit)) ∨ ∃ start, e.call? = some (.workExperience start)

def Entry.Lawful (e : Entry σ) : Prop := AgeLaw e.before e.answer e.after e.call?

omit [WordSource σ] in
/-- An entry sets an age, or finds or establishes one, or leaves the stored age alone. -/
theorem Entry.Lawful.cases {e : Entry σ} (h : e.Lawful) :
    (e.SetsAge ∧ ∃ n, e.after.storedAge = .holding n) ∨
    (e.Establishes ∧ ¬ e.SetsAge ∧ ∃ n, Found e.before e.after n) ∨
    (¬ e.Establishes ∧ e.after.storedAge = e.before.storedAge) := by
  obtain ⟨call, before, answer, after⟩ := e
  simp only [Lawful] at h
  cases call with
  | none => exact .inr (.inr ⟨by simp [Establishes, SetsAge], h⟩)
  | some c =>
    cases c with
    | age lo hi =>
      simp only [AgeLaw] at h
      split at h
      · obtain ⟨n, _, _, ha, hn⟩ := h
        exact .inl ⟨⟨lo, hi, _, rfl, ha⟩, n, hn⟩
      · obtain ⟨⟨fault, ha⟩, rfl⟩ := h
        exact .inr (.inr ⟨by simp [Establishes, SetsAge, ha], rfl⟩)
    | childCount limit =>
      obtain ⟨n, hf, _⟩ := h
      exact .inr (.inl ⟨.inr (.inl ⟨limit, rfl⟩), by simp [SetsAge], n, hf⟩)
    | workExperience start =>
      obtain ⟨n, hf, _⟩ := h
      exact .inr (.inl ⟨.inr (.inr ⟨start, rfl⟩), by simp [SetsAge], n, hf⟩)
    | storedAge =>
      obtain ⟨_, rfl⟩ := h
      exact .inr (.inr ⟨by simp [Establishes, SetsAge], rfl⟩)
    | _ => exact .inr (.inr ⟨by simp [Establishes, SetsAge], h⟩)

omit [WordSource σ] in
/-- The age is unset behind an entry if it was unset before and the entry established none. -/
theorem Entry.Lawful.unset_iff {e : Entry σ} (h : e.Lawful) :
    e.after.storedAge = .unset ↔ e.before.storedAge = .unset ∧ ¬ e.Establishes := by
  rcases h.cases with ⟨hs, n, hn⟩ | ⟨he, _, n, hn, _⟩ | ⟨he, ha⟩
  · have he : e.Establishes := .inl hs
    simp [hn, he]
  · simp [hn, he]
  · simp [ha, he]

omit [WordSource σ] in
/-- A stored age stays until an explicit age goes well. -/
theorem Entry.Lawful.holding {e : Entry σ} (h : e.Lawful) {n : UInt32}
    (hb : e.before.storedAge = .holding n) (hs : ¬ e.SetsAge) : e.after.storedAge = .holding n := by
  rcases h.cases with ⟨hs', _⟩ | ⟨_, _, m, hm, hf | ⟨hu, _⟩⟩ | ⟨_, ha⟩
  · exact absurd hs' hs
  · rw [hm, ← hf, hb]
  · rw [hb] at hu
    cases hu
  · rw [ha, hb]

/-- Every method that was called in a run obeys the law of the stored age. -/
theorem lawful_trace (events : List Event) (st : Personal σ × Store) :
    ∀ e ∈ trace events st, e.Lawful := by
  induction events generalizing st with
  | nil => simp [trace]
  | cons ev es ih =>
    cases ev with
    | elsewhere store => exact ih (st.1, store)
    | method m =>
      intro e he
      rcases List.mem_cons.mp he with rfl | he
      · exact ageLaw_method m st.1 st.2
      · exact ih _ e he

theorem unset_final_iff (events : List Event) (st : Personal σ × Store) :
    (final events st).1.storedAge = .unset ↔
      st.1.storedAge = .unset ∧ ∀ e ∈ trace events st, ¬ e.Establishes := by
  induction events generalizing st with
  | nil => simp [final, trace]
  | cons ev es ih =>
    cases ev with
    | elsewhere store => exact ih (st.1, store)
    | method m =>
      have hl : Entry.Lawful ⟨m.call?, st.1, Gen.answer (m.perform st), (Gen.left (m.perform st)).1⟩ :=
        ageLaw_method m st.1 st.2
      simp only [final, trace, List.forall_mem_cons]
      rw [ih, hl.unset_iff, and_assoc]

/-- A stored age is lost to nothing but another explicit age. -/
theorem holding_final (events : List Event) (st : Personal σ × Store) {n : UInt32}
    (h : st.1.storedAge = .holding n) (hs : ∀ e ∈ trace events st, ¬ e.SetsAge) :
    (final events st).1.storedAge = .holding n := by
  induction events generalizing st with
  | nil => exact h
  | cons ev es ih =>
    cases ev with
    | elsewhere store => exact ih (st.1, store) h hs
    | method m =>
      obtain ⟨hhead, htail⟩ := List.forall_mem_cons.mp hs
      have hl : Entry.Lawful ⟨m.call?, st.1, Gen.answer (m.perform st), (Gen.left (m.perform st)).1⟩ :=
        ageLaw_method m st.1 st.2
      exact ih _ (hl.holding h hhead) htail

end SampleData.Personal

namespace SampleData.Builtin

variable {σ : Type} [SeededSource σ]

theorem storedAge_of_build {c : Context σ} {store after : Store} {p : Personal σ}
    (h : build c .personal store = .ok p after) : p.storedAge = .unset := by
  have hb : (c.load Personal.domain >>= fun bundle =>
      pure (⟨bundle, c.stream Personal.domain, .unset⟩ : Personal σ)) store = .ok p after := h
  cases hl : c.load Personal.domain store with
  | ok bundle st =>
    rw [Gen.bind_of_ok hl] at hb
    cases hb
    rfl
  | error e st =>
    rw [Gen.bind_of_error hl] at hb
    cases hb

end SampleData.Builtin

namespace SampleData.Personal

variable {σ : Type} [SeededSource σ]

/-- The stored age over any run of methods, with anything done to the store in between: every method obeys the law,
the age is unset from the start until the first method that establishes one and never again, and it changes only
where an explicit age goes well. A provider starts without an age. -/
theorem storedAge_run (events : List Event) (p : Personal σ) (store : Store) :
    (∀ e ∈ trace events (p, store), AgeLaw e.before e.answer e.after e.call?) ∧
    ((final events (p, store)).1.storedAge = .unset ↔
      p.storedAge = .unset ∧ ∀ e ∈ trace events (p, store), ¬ e.Establishes) ∧
    (∀ n, p.storedAge = .holding n → (∀ e ∈ trace events (p, store), ¬ e.SetsAge) →
      (final events (p, store)).1.storedAge = .holding n) ∧
    (∀ (c : Context σ) before after q, Builtin.build c .personal before = .ok q after →
      q.storedAge = .unset) := by
  refine ⟨lawful_trace events (p, store), unset_final_iff events (p, store), ?_, ?_⟩
  · intro n h hs
    exact holding_final events (p, store) h hs
  · intro c before after q h
    exact Builtin.storedAge_of_build h

end SampleData.Personal
