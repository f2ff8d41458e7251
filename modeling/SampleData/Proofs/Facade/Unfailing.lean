import SampleData.CommandLine.Run
import SampleData.Proofs.Assets.Complete
import SampleData.Proofs.Facade.Documents
import SampleData.Proofs.Facade.Runs
import SampleData.Random.Keystream

/-! # Facades that do not fail

A facade is sound if every provider it has built is supplied and its store holds nothing but what the source holds.
Where the source equips the locale, no event makes a sound facade unsound, not even one that fails, and a sound
facade makes every field, document and snippet it declares.
-/
namespace SampleData.Facade

open Gen

variable {σ ι : Type} {c : Context σ} {source : Source} {α : Type} {Q : α → Prop}

structure Sound (c : Context σ) (source : Source) (st : Facade σ ι × Store) : Prop where
  context : st.1.context = c
  supplied : ∀ (p : Builtin) (x : p.State σ), st.1.slots.get p = some x → p.Supplied x
  faithful : Store.Faithful source st.2

theorem Sound.place {st : Facade σ ι × Store} (h : Sound c source st) {p : Builtin} {part : p.State σ × Store}
    (hp : p.Ready source part) : Sound c source (st.1.place p part) where
  context := h.context
  supplied := by
    intro q y hy
    by_cases hq : q = p
    · subst hq
      obtain rfl : part.1 = y := Option.some.inj ((get_place st.1 q part).symm.trans hy)
      exact hp.1
    · have hg := Slots.get_set_of_ne st.1.slots hq part.1
      exact h.supplied q y (hg.symm.trans hy)
  faithful := hp.2

theorem preserves_draw (step : StateM σ α) : Preserves (Sound c source) (Markup.draw step : Step σ ι α) := by
  intro st hst
  obtain ⟨hc, hp, hf⟩ := hst
  exact ⟨hc, hp, hf⟩

theorem succeeds_draw (step : StateM σ α) : Succeeds (Sound c source) (Markup.draw step : Step σ ι α) Any := by
  intro st hst
  exact ⟨_, _, rfl, trivial, preserves_draw step st hst⟩

theorem preserves_onRegistered (step : Gen (Registry ι) α) :
    Preserves (Sound c source) (onRegistered step : Step σ ι α) := by
  rintro ⟨f, store⟩ ⟨hc, hp, hf⟩
  rw [onRegistered_eq]
  cases step f.registered <;> exact ⟨hc, hp, hf⟩

variable [SeededSource σ]

theorem sound_new (c : Context σ) {store : Store} (hs : Store.Faithful source store) :
    Sound c source ((new c, store) : Facade σ ι × Store) where
  context := rfl
  supplied := by
    intro p x hx
    cases (Slots.get_empty p).symm.trans hx
  faithful := hs

/-- Every provider can be built where the source has what it needs. -/
theorem succeeds_ensure (h : source.Equips c.locale) (p : Builtin) :
    Succeeds (Sound c source) (ensure p : Step σ ι (p.State σ)) p.Supplied := by
  rintro ⟨f, store⟩ hst
  cases hg : f.slots.get p with
  | some x => exact ⟨x, _, ensure_of_get hg store, hst.supplied p x hg, hst⟩
  | none =>
    have hb := Builtin.succeeds_build h p store hst.faithful
    rw [← hst.context] at hb
    obtain ⟨x, store', ho, hx, hf⟩ := hb
    exact ⟨x, _, ensure_of_build hg ho, hx, hst.place ⟨hx, hf⟩⟩

theorem succeeds_onProvider (h : source.Equips c.locale) {p : Builtin} {step : Gen (p.State σ × Store) α}
    (hs : Succeeds (p.Ready source) step Q) : Succeeds (Sound c source) (onProvider p step : Step σ ι α) Q := by
  intro st hst
  obtain ⟨x, mid, he, hx, hm⟩ := succeeds_ensure h p st hst
  obtain ⟨a, part, ho, ha, hp⟩ := hs (x, mid.2) ⟨hx, hm.faithful⟩
  have hr := onProvider_of_ensure he step
  rw [ho] at hr
  exact ⟨a, _, hr, ha, hm.place hp⟩

theorem preserves_onProvider (h : source.Equips c.locale) {p : Builtin} {step : Gen (p.State σ × Store) α}
    (hs : Preserves (p.Ready source) step) : Preserves (Sound c source) (onProvider p step : Step σ ι α) := by
  intro st hst
  obtain ⟨x, mid, he, hx, hm⟩ := succeeds_ensure h p st hst
  have hp := hs (x, mid.2) ⟨hx, hm.faithful⟩
  rw [onProvider_of_ensure he]
  cases ho : step (x, mid.2) with
  | ok a part =>
    rw [ho] at hp
    exact hm.place hp
  | error e part =>
    rw [ho] at hp
    exact hm.place hp

/-- A sound facade stays sound in every run. -/
theorem sound_after [Registrable ι] (h : source.Equips c.locale) (events : List (Event ι)) {st : Facade σ ι × Store}
    (hst : Sound c source st) : Sound c source (after st events) := by
  refine preserves_after (fun e => ?_) events hst
  have ha : ∀ (p : Builtin) (q : p.Query), Preserves (Sound c source) (onProvider p q.perform : Step σ ι Json) :=
    fun p q => preserves_onProvider h (Builtin.preserves_query source q)
  exact preserves_react ha preserves_draw preserves_onRegistered e

theorem succeeds_prose (h : source.Equips c.locale) {step : Bundle → Gen σ String}
    (hs : ∀ b, Prose.supplied b = true → Succeeds Anywhere (step b) Any) :
    Succeeds (Sound c source) (Markup.prose step : Step σ ι String) Any :=
  succeeds_onProvider h (Builtin.succeeds_stockedCall hs)

theorem succeeds_styleValue (h : source.Equips c.locale) (kind : Markup.StyleValue) :
    Succeeds (Sound c source) (Markup.styleValue kind : Step σ ι String) Any := by
  cases kind with
  | choice values => exact succeeds_draw _
  | color => exact succeeds_prose h fun _ _ => succeeds_drawn _
  | size => exact succeeds_draw _

theorem succeeds_declaration (h : source.Equips c.locale) :
    Succeeds (Sound c source) (Markup.declaration : Step σ ι String) Any :=
  (succeeds_draw _).bind fun e _ => (succeeds_styleValue h e.2).bind fun _ _ => succeeds_pure trivial

theorem succeeds_rule (h : source.Equips c.locale) :
    Succeeds (Sound c source) (Markup.rule : Step σ ι String) Any := by
  have hword : Succeeds (Sound c source) (Markup.prose Prose.word : Step σ ι String) Any :=
    succeeds_prose h fun _ hb => Prose.succeeds_word hb
  refine hword.bind fun word _ => (succeeds_draw _).bind fun mark _ => (succeeds_draw _).bind fun container _ => ?_
  refine (succeeds_draw _).bind fun tag _ => (succeeds_draw _).bind fun base _ => (succeeds_draw _).bind fun count _ => ?_
  exact ((succeeds_declaration h).times count.toNat).bind fun _ _ => succeeds_pure trivial

theorem succeeds_attributeValue (h : source.Equips c.locale) (kind : Markup.AttributeValue) :
    Succeeds (Sound c source) (Markup.attributeValue kind : Step σ ι String) Any := by
  cases kind with
  | choice values => exact succeeds_draw _
  | style => exact succeeds_declaration h
  | word => exact succeeds_prose h fun _ hb => Prose.succeeds_word hb
  | url =>
    exact succeeds_onProvider h (Builtin.succeeds_stockedCall fun _ hb => Internet.succeeds_homePage hb .female)

theorem succeeds_element (h : source.Equips c.locale) :
    Succeeds (Sound c source) (Markup.element : Step σ ι String) Any := by
  have hsentence : Succeeds (Sound c source) (Markup.prose Prose.sentence : Step σ ι String) Any :=
    succeeds_prose h fun _ hb => Prose.succeeds_text hb 1
  have hattribute : ∀ e : String × Markup.AttributeValue, Succeeds (Sound c source)
      (do return e.1 ++ "=\"" ++ (← Markup.attributeValue e.2) ++ "\"" : Step σ ι String) Any :=
    fun e => (succeeds_attributeValue h e.2).bind fun _ _ => succeeds_pure trivial
  refine (succeeds_draw _).bind fun container _ => (succeeds_draw _).bind fun count _ => ?_
  refine (succeeds_draw _).bind fun chosen _ => ?_
  rw [mapM_eq_inTurn]
  exact (Succeeds.inTurn fun e _ => hattribute e).bind fun _ _ => hsentence.bind fun _ _ => succeeds_pure trivial

structure Unfailing [Registrable ι] (st : Facade σ ι × Store) : Prop where
  named : ∀ p : Builtin, ∃ st', fields p.name st = .ok p.fieldNames st'
  made : ∀ (p : Builtin), ∀ field ∈ p.fieldNames, ∃ value st', generate p.name field st = .ok value st'
  listed : ∀ (p : Builtin) key, documentKey? p.name = some key → ∀ n, ∃ records st',
    json p.name n st = .ok (.object [(key, .list records)]) st' ∧ records.length = n
  declaration : ∃ text st', Markup.declaration st = .ok text st'
  rule : ∃ text st', Markup.rule st = .ok text st'
  element : ∃ text st', Markup.element st = .ok text st'

/-- Where the source has what the providers need, a sound facade is unfailing. -/
theorem unfailing_of_sound [Registrable ι] (h : source.Equips c.locale) {st : Facade σ ι × Store}
    (hst : Sound c source st) : Unfailing st where
  named := by
    intro p
    obtain ⟨x, st', ho, _⟩ := succeeds_ensure h p st hst
    rw [fields_name]
    exact ⟨st', map_of_ok ho⟩
  made := by
    intro p field hf
    have hs := succeeds_onProvider (ι := ι) h (Builtin.succeeds_performField h.names hf)
    obtain ⟨value, st', ho, _⟩ := hs st hst
    rw [generate_name]
    exact ⟨value, st', ho⟩
  listed := by
    intro p key hk n
    have hs := succeeds_onProvider (ι := ι) h ((Builtin.succeeds_record h.names p).times n)
    obtain ⟨records, st', ho, ⟨hlen, _⟩, _⟩ := hs st hst
    rw [json_of_root (mem_of_documentKey? hk)]
    exact ⟨records, st', map_of_ok ho, hlen⟩
  declaration := by
    obtain ⟨text, st', ho, _⟩ := succeeds_declaration h st hst
    exact ⟨text, st', ho⟩
  rule := by
    obtain ⟨text, st', ho, _⟩ := succeeds_rule h st hst
    exact ⟨text, st', ho⟩
  element := by
    obtain ⟨text, st', ho, _⟩ := succeeds_element h st hst
    exact ⟨text, st', ho⟩

/-- Over the shipped bundles a facade of a shipped locale does not fail, whatever was asked of it before. -/
theorem unfailing_after [Registrable ι] {c : Context σ} (hl : c.locale ∈ Assets.locales) {store : Store}
    (hs : Store.Faithful Assets.source store) (events : List (Event ι)) : Unfailing (after (new c, store) events) := by
  have he := Assets.equips_of_mem_locales hl
  exact unfailing_of_sound he (sound_after he events (sound_new c hs))

def mixedRun : List (Event Empty) :=
  [.request (.generate "personal" "age"), .request (.generate "personal" "shoe_size"), .request (.json "address" 2),
   .request .rule]

def russianContext : Context Keystream := ⟨"ru", some 7, fun _ => default⟩

theorem unfailing_after_mixedRun : russianContext.locale ∈ Assets.locales ∧
    Store.Faithful Assets.source Assets.store ∧ Unfailing (after (new russianContext, Assets.store) mixedRun) := by
  have hl : russianContext.locale ∈ Assets.locales := by decide +kernel
  have hs : Store.Faithful Assets.source Assets.store := Store.faithful_ofSource Assets.source
  exact ⟨hl, hs, unfailing_after hl hs mixedRun⟩

end SampleData.Facade
