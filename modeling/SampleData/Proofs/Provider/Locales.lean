import SampleData.Proofs.Assets.Complete
import SampleData.Proofs.Personal.StoredAge
import SampleData.Random.Keystream

/-! # Locales do not interfere

Two providers of personal data that differ in their bundles only cannot be told apart by the calls that do not read
the bundle: each of these draws the same words and leaves the same age behind. The English names that user names are
made of come from the store, and two stores over one source give the same. The internet provider does not read the
locale at all.
-/
namespace SampleData

namespace Personal

variable {σ : Type} [WordSource σ] {source : Source}

def Call.localeFree : Call → Bool
  | .age .. | .storedAge | .childCount _ | .workExperience _ | .username _ | .password .. | .email _ | .paypal _
  | .bitcoin | .creditCardNumber _ | .creditCardExpirationDate .. | .cvv | .cid | .gender true
  | .sexualOrientation true | .favoriteMusicGenre | .levelOfEnglish | .avatar _ | .telephone (some _) _
  | .identifier _ | .bloodType | .height .. | .weight .. => true
  | _ => false

/-- Two providers that may differ in their bundles and in nothing else. -/
structure Twins (p p' : Personal σ) : Prop where
  words : p.words = p'.words
  storedAge : p.storedAge = p'.storedAge

omit [WordSource σ] in
theorem alike_onWords {α : Type} {step : Bundle → Gen σ α} (h : ∀ b b', step b = step b') :
    Gen.Alike Twins (onWords step) (onWords step) := by
  rintro ⟨b, words, slot⟩ ⟨b', _, _⟩ ⟨rfl, rfl⟩
  unfold onWords Gen.focus
  dsimp only
  rw [h b' b]
  cases step b words with
  | ok a words => exact .ok ⟨rfl, rfl⟩
  | error e words => exact .error ⟨rfl, rfl⟩

theorem alike_age (lo hi : UInt32) : Gen.Alike Twins (age lo hi : Gen (Personal σ) UInt32) (age lo hi) := by
  rintro p p' ⟨hw, ha⟩
  by_cases h : lo ≤ hi
  · rw [age_of_le h, age_of_le h, hw]
    exact .ok ⟨rfl, rfl⟩
  · have hlt : hi < lo := UInt32.not_le.mp h
    rw [age_of_lt hlt, age_of_lt hlt]
    exact .error ⟨hw, ha⟩

theorem alike_currentAge : Gen.Alike Twins (currentAge : Gen (Personal σ) UInt32) currentAge := by
  intro p p' h
  cases ha : p.storedAge with
  | holding n =>
    rw [currentAge_of_holding ha, currentAge_of_holding (h.storedAge.symm.trans ha)]
    exact .ok h
  | unset =>
    rw [currentAge_of_unset ha, currentAge_of_unset (h.storedAge.symm.trans ha)]
    exact alike_age leastAge greatestAge p p' h

theorem alike_childCount (limit : UInt32) :
    Gen.Alike Twins (childCount limit : Gen (Personal σ) UInt32) (childCount limit) := by
  refine alike_currentAge.bind fun n => ?_
  by_cases hn : n < adultAge
  · rw [if_pos hn]
    exact Gen.alike_pure 0
  · rw [if_neg hn]
    have hd : Gen.Alike Twins (onWords fun _ => Gen.draw (Random.unsigned 0 limit) : Gen (Personal σ) UInt32) _ :=
      alike_onWords fun _ _ => rfl
    exact hd

theorem alike_workExperience (start : UInt32) :
    Gen.Alike Twins (workExperience start : Gen (Personal σ) UInt32) (workExperience start) :=
  alike_currentAge.bind fun _ => Gen.alike_pure _

abbrev TwinsOver (source : Source) : Personal σ × Store → Personal σ × Store → Prop :=
  Gen.Both Twins (Store.SameSource source)

omit [WordSource σ] in
theorem twins_textOf {step : Bundle → Gen σ String} (h : ∀ b b', step b = step b') :
    Gen.Alike (TwinsOver source) (textOf step) (textOf step) :=
  ((alike_onWords h).map Json.str).onFirst

omit [WordSource σ] in
theorem twins_numberOf {step : Gen (Personal σ) UInt32} (h : Gen.Alike Twins step step) :
    Gen.Alike (TwinsOver source) (numberOf step) (numberOf step) :=
  (h.map fun n => Json.int n.toNat).onFirst

omit [WordSource σ] in
theorem twins_withEnglish (step : Bundle → Gen σ String) :
    Gen.Alike (TwinsOver source) (withEnglish step) (withEnglish step) :=
  (Store.alike_load source domain Locale.standard).onSecond.bind fun _ => twins_textOf fun _ _ => rfl

theorem twins_storedAge :
    Gen.Alike (TwinsOver source) (perform .storedAge : Gen (Personal σ × Store) Json) (perform .storedAge) := by
  intro st st' h
  have ha : st.1.storedAge = st'.1.storedAge := h.1.storedAge
  rw [perform_storedAge, perform_storedAge, ha]
  exact .ok h

/-- A call that does not read the bundle cannot tell twins apart. -/
theorem twins_perform {call : Call} (h : call.localeFree = true) :
    Gen.Alike (TwinsOver source) (perform call : Gen (Personal σ × Store) Json) (perform call) := by
  cases call with
  | age lo hi => exact twins_numberOf (alike_age lo hi)
  | storedAge => exact twins_storedAge
  | childCount limit => exact twins_numberOf (alike_childCount limit)
  | workExperience start => exact twins_numberOf (alike_workExperience start)
  | username gender => exact twins_withEnglish _
  | email gender => exact twins_withEnglish _
  | paypal gender => exact twins_withEnglish _
  | gender symbol =>
    cases symbol with
    | true => exact twins_textOf fun _ _ => rfl
    | false => cases h
  | sexualOrientation symbol =>
    cases symbol with
    | true => exact twins_textOf fun _ _ => rfl
    | false => cases h
  | telephone mask placeholder =>
    cases mask with
    | some mask => exact twins_textOf fun _ _ => rfl
    | none => cases h
  | cvv => exact twins_numberOf (alike_onWords fun _ _ => rfl)
  | cid => exact twins_numberOf (alike_onWords fun _ _ => rfl)
  | weight lo hi => exact twins_numberOf (alike_onWords fun _ _ => rfl)
  | password | bitcoin | creditCardNumber | creditCardExpirationDate | favoriteMusicGenre | levelOfEnglish | avatar
  | identifier | bloodType | height => exact twins_textOf fun _ _ => rfl
  | _ => cases h

end Personal

namespace Builtin

variable {σ : Type}

/-- A method that is called, and the store as others left it where they have worked on it since the last call. -/
structure Visit (p : Builtin) where
  others : Option Store
  method : p.Method

section Runs

variable [WordSource σ] {p : Builtin} {source : Source}

def Visit.outcome (v : p.Visit) (st : p.State σ × Store) : Gen.Outcome (p.State σ × Store) Json :=
  v.method.perform (st.1, v.others.getD st.2)

def replies : List p.Visit → p.State σ × Store → List (Except Error Json)
  | [], _ => []
  | v :: vs, st => Gen.answer (v.outcome st) :: replies vs (Gen.left (v.outcome st))

/-- The same method, whatever others do to the two stores without changing the source. -/
structure Visit.Same (source : Source) (v v' : p.Visit) : Prop where
  method : v.method = v'.method
  stores : ∀ store ∈ v.others, Store.Faithful source store
  stores' : ∀ store ∈ v'.others, Store.Faithful source store

/-- The same method has the same outcome on stores with one source. -/
theorem Visit.Same.matches {R : p.State σ → p.State σ → Prop} {v v' : p.Visit} (hv : Visit.Same source v v')
    (hm : Gen.Alike (Gen.Both R (Store.SameSource source)) (v.method.perform : Gen _ Json) v.method.perform)
    {st st' : p.State σ × Store} (h : Gen.Both R (Store.SameSource source) st st') :
    Gen.Matches (Gen.Both R (Store.SameSource source)) (v.outcome st) (v'.outcome st') := by
  obtain ⟨hr, hf, hf'⟩ := h
  obtain ⟨others, method⟩ := v
  obtain ⟨others', _⟩ := v'
  obtain ⟨rfl, ho, ho'⟩ := hv
  have hstore : Store.Faithful source (others.getD st.2) := by
    cases others with
    | none => exact hf
    | some store => exact ho store rfl
  have hstore' : Store.Faithful source (others'.getD st'.2) := by
    cases others' with
    | none => exact hf'
    | some store => exact ho' store rfl
  exact hm (st.1, others.getD st.2) (st'.1, others'.getD st'.2) ⟨hr, hstore, hstore'⟩

/-- From states that no method of a run can tell apart, the run gets the same replies. -/
theorem replies_eq {R : p.State σ → p.State σ → Prop} {vs vs' : List p.Visit}
    (hs : List.Forall₂ (Visit.Same source) vs vs')
    (hm : ∀ v ∈ vs, Gen.Alike (Gen.Both R (Store.SameSource source)) (v.method.perform : Gen _ Json) v.method.perform)
    {st st' : p.State σ × Store} (h : Gen.Both R (Store.SameSource source) st st') :
    replies vs st = replies vs' st' := by
  induction hs generalizing st st' with
  | nil => rfl
  | cons hv _ ih =>
    obtain ⟨hp, hps⟩ := List.forall_mem_cons.mp hm
    have hx := hv.matches hp h
    simp only [replies]
    rw [hx.answer_eq, ih hps hx.left]

end Runs

section Locales

variable [SeededSource σ] {source : Source} {c : Context σ} {store store' after after' : Store}

theorem twin_of_build {l l' : String} {x x' : Personal σ}
    (h : Builtin.personal.build { c with locale := l } store = .ok x after)
    (h' : Builtin.personal.build { c with locale := l' } store' = .ok x' after') : Personal.Twins x x' := by
  have hb : ∀ {l : String} {store after : Store} {x : Personal σ},
      Builtin.personal.build { c with locale := l } store = .ok x after →
      x.words = c.stream Personal.domain ∧ x.storedAge = .unset := by
    intro l store after x h
    cases hl : Store.load Personal.domain l store with
    | error e after =>
      cases (Gen.bind_of_error hl).symm.trans h
    | ok b after =>
      cases (Gen.bind_of_ok hl).symm.trans h
      exact ⟨rfl, rfl⟩
  obtain ⟨hw, ha⟩ := hb h
  obtain ⟨hw', ha'⟩ := hb h'
  exact ⟨hw.trans hw'.symm, ha.trans ha'.symm⟩

/-- Methods that do not read the bundle do not tell the locales apart. -/
theorem twins_method {m : Method .personal} (h : m.call?.all Personal.Call.localeFree = true) :
    Gen.Alike (Personal.TwinsOver source) (m.perform : Gen (Personal σ × Store) Json) m.perform := by
  cases m with
  | typed call => exact Personal.twins_perform h
  | named field =>
    have hf : (Builtin.personal.fields.lookup field).all Personal.Call.localeFree = true := h
    simp only [Method.perform, performField]
    cases hl : Builtin.personal.fields.lookup field with
    | some call =>
      rw [hl] at hf
      exact Personal.twins_perform hf
    | none => exact Gen.alike_throw _

/-- Over one source, two providers of personal data that differ in their locale only reply alike to all calls that
do not read the bundle, and two internet providers to all calls. -/
theorem replies_across_locales (c : Context σ) (l l' : String) (hs : Store.SameSource source store store') :
    (∀ {x x' : Personal σ} {after after' : Store}, Builtin.personal.build { c with locale := l } store = .ok x after →
      Builtin.personal.build { c with locale := l' } store' = .ok x' after' →
      ∀ vs vs' : List (Visit .personal), List.Forall₂ (Visit.Same source) vs vs' →
        (∀ v ∈ vs, v.method.call?.all Personal.Call.localeFree = true) → replies vs (x, after) = replies vs' (x', after')) ∧
    ((∃ e after after', Builtin.internet.build { c with locale := l } store = .error e after ∧
        Builtin.internet.build { c with locale := l' } store' = .error e after') ∨
      ∃ x after after', Builtin.internet.build { c with locale := l } store = .ok x after ∧
        Builtin.internet.build { c with locale := l' } store' = .ok x after' ∧
        ∀ vs vs' : List (Visit .internet), List.Forall₂ (Visit.Same source) vs vs' →
          replies vs (x, after) = replies vs' (x, after')) := by
  constructor
  · intro x x' after after' h h' vs vs' hvs hfree
    obtain ⟨ha, _⟩ := Alone.build_of_ok hs.1 h
    obtain ⟨ha', _⟩ := Alone.build_of_ok hs.2 h'
    exact replies_eq hvs (fun v hv => twins_method (hfree v hv)) ⟨twin_of_build h h', ha, ha'⟩
  · have hb : Gen.Matches (Store.SameSource source) (Builtin.internet.build { c with locale := l } store)
        (Builtin.internet.build { c with locale := l' } store') :=
      alike_build source { c with locale := l } .internet store store' hs
    generalize Builtin.internet.build { c with locale := l } store = o at hb
    generalize Builtin.internet.build { c with locale := l' } store' = o' at hb
    cases hb with
    | error h => exact .inl ⟨_, _, _, rfl, rfl⟩
    | ok h =>
      refine .inr ⟨_, _, _, rfl, rfl, ?_⟩
      intro vs vs' hvs
      exact replies_eq (R := Eq) hvs (fun v _ => alike_query source (.method v.method)) ⟨rfl, h⟩

def freeVisits : List (Visit .personal) :=
  [⟨none, .typed (.username .male)⟩, ⟨none, .typed (.age 40 20)⟩, ⟨none, .named "cvv"⟩, ⟨none, .named "shoe_size"⟩]

def linkVisits : List (Visit .internet) := [⟨none, .named "home_page"⟩, ⟨none, .typed .emoji⟩]

def plainContext : Context Keystream := ⟨Locale.standard, some 5, fun _ => default⟩

theorem replies_across_english_russian : Store.SameSource Assets.source Assets.store Assets.store ∧
    (∃ x x' after after', Builtin.personal.build { plainContext with locale := "en" } Assets.store = .ok x after ∧
      Builtin.personal.build { plainContext with locale := "ru" } Assets.store = .ok x' after' ∧
      replies freeVisits (x, after) = replies freeVisits (x', after')) ∧
    ∃ x after after', Builtin.internet.build { plainContext with locale := "en" } Assets.store = .ok x after ∧
      Builtin.internet.build { plainContext with locale := "ru" } Assets.store = .ok x after' ∧
      replies linkVisits (x, after) = replies linkVisits (x, after') := by
  have hf : Store.Faithful Assets.source Assets.store := Store.faithful_ofSource Assets.source
  have hs : Store.SameSource Assets.source Assets.store Assets.store := ⟨hf, hf⟩
  have hen : Assets.source.Equips "en" := Assets.equips_of_mem_locales (by decide +kernel)
  have hru : Assets.source.Equips "ru" := Assets.equips_of_mem_locales (by decide +kernel)
  have hsame : ∀ {p : Builtin} (vs : List (Visit p)), (∀ v ∈ vs, v.others = none) →
      List.Forall₂ (Visit.Same Assets.source) vs vs := by
    intro p vs hvs
    refine List.forall₂_same.mpr fun v hv => ⟨rfl, ?_, ?_⟩ <;>
    · intro store hstore
      rw [hvs v hv] at hstore
      cases hstore
  obtain ⟨hpersonal, hinternet⟩ := replies_across_locales plainContext "en" "ru" hs
  obtain ⟨x, after, hx, _⟩ := succeeds_build (c := { plainContext with locale := "en" }) hen .personal _ hf
  obtain ⟨x', after', hx', _⟩ := succeeds_build (c := { plainContext with locale := "ru" }) hru .personal _ hf
  obtain ⟨y, behind, hy, _⟩ := succeeds_build (c := { plainContext with locale := "en" }) hen .internet _ hf
  refine ⟨hs, ⟨x, x', after, after', hx, hx', ?_⟩, ?_⟩
  · exact hpersonal hx hx' freeVisits freeVisits (hsame freeVisits (by decide)) (by decide)
  · rcases hinternet with ⟨e, store, _, he, _⟩ | ⟨z, store, store', hz, hz', hreplies⟩
    · cases hy.symm.trans he
    · exact ⟨z, store, store', hz, hz', hreplies linkVisits linkVisits (hsame linkVisits (by decide))⟩

end Locales

end Builtin

end SampleData
