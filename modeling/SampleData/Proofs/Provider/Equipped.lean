import SampleData.Proofs.Personal.Admission
import SampleData.Proofs.Provider.Admission
import SampleData.Proofs.Provider.Alone

/-! # Providers that are equipped

A source equips a locale if it provides every bundle that a provider of that locale needs, and the English names.
Over such a source every provider can be built, and a built provider makes every field it declares, whatever was
asked of it before, since no call ever changes its bundle.
-/
namespace SampleData

open Gen

structure Source.Equips (source : Source) (locale : String) : Prop where
  address : source.Provides Address.domain locale Address.supplied
  business : source.Provides Business.domain locale Business.supplied
  datetime : source.Provides Datetime.domain locale Datetime.supplied
  food : source.Provides Food.domain locale Food.supplied
  personal : source.Provides Personal.domain locale Personal.supplied
  science : source.Provides Science.domain locale Science.supplied
  text : source.Provides Prose.domain locale Prose.supplied
  names : source.Provides Personal.domain Locale.standard Personal.namesSupplied

namespace Builtin

variable {σ : Type}

def Supplied : (p : Builtin) → p.State σ → Prop
  | .address, x => Address.supplied x.bundle = true
  | .business, x => Business.supplied x.bundle = true
  | .datetime, x => Datetime.supplied x.bundle = true
  | .food, x => Food.supplied x.bundle = true
  | .internet, x => Personal.namesSupplied x.bundle = true
  | .personal, x => Personal.Supplied x.bundle
  | .science, x => Science.supplied x.bundle = true
  | .text, x => Prose.supplied x.bundle = true
  | .clothingSizes, _ | .code, _ | .development, _ | .file, _ | .hardware, _ | .network, _ | .numbers, _
  | .transport, _ => True

def Ready (source : Source) (p : Builtin) (st : p.State σ × Store) : Prop := p.Supplied st.1 ∧ Store.Faithful source st.2

/-- Arguments with which a call is sure to succeed. -/
def Admissible : (p : Builtin) → p.Call → Prop
  | .address, call => Address.Call.Admissible call
  | .business, call => Business.Call.Admissible call
  | .clothingSizes, call => ClothingSizes.Call.Admissible call
  | .code, call => Coder.Call.Admissible call
  | .datetime, call => Datetime.Call.Admissible call
  | .numbers, call => Numbers.Call.Admissible call
  | .personal, call => Personal.Call.Admissible call
  | .text, call => Prose.Call.Admissible call
  | .development, _ | .file, _ | .food, _ | .hardware, _ | .internet, _ | .network, _ | .science, _
  | .transport, _ => True

variable {source : Source}

theorem succeeds_stocked [SeededSource σ] {c : Context σ} {domain : String} {test : Bundle → Bool}
    (h : source.Provides domain c.locale test) :
    Succeeds (Store.Faithful source) (stocked c domain) fun x => test x.bundle = true :=
  h.load.bind fun _ hb => succeeds_pure hb

/-- Every provider can be built with the bundles it needs. -/
theorem succeeds_build [SeededSource σ] {c : Context σ} (h : source.Equips c.locale) (p : Builtin) :
    Succeeds (Store.Faithful source) (p.build c) p.Supplied := by
  cases p with
  | address => exact succeeds_stocked h.address
  | business => exact succeeds_stocked h.business
  | datetime => exact succeeds_stocked h.datetime
  | food => exact succeeds_stocked h.food
  | science => exact succeeds_stocked h.science
  | text => exact succeeds_stocked h.text
  | personal => exact h.personal.load.bind fun _ hb => succeeds_pure (Personal.supplied_iff.mp hb)
  | internet => exact h.names.load.bind fun _ hb => succeeds_pure hb
  | _ => exact succeeds_pure trivial

theorem succeeds_onFirst {s α : Type} {I : s → Prop} {step : Gen s α} (h : Succeeds I step Any) :
    Succeeds (fun st : s × Store => I st.1 ∧ Store.Faithful source st.2) (Gen.onFirst step) Any :=
  h.onFirst (fun _ hst => hst.1) fun _ _ hst hp => ⟨hp, hst.2⟩

theorem succeeds_stockedCall {α : Type} {test : Bundle → Bool} {step : Bundle → Gen σ α}
    (h : ∀ b, test b = true → Succeeds Anywhere (step b) Any) :
    Succeeds (fun st : Stocked σ × Store => test st.1.bundle = true ∧ Store.Faithful source st.2)
      (Gen.onFirst (Stocked.onWords step)) Any :=
  succeeds_onFirst (Succeeds.onWords h)

variable [WordSource σ]

/-- A provider with the bundles it needs answers every admissible call. -/
theorem succeeds_call (h : source.Provides Personal.domain Locale.standard Personal.namesSupplied) (p : Builtin)
    {call : p.Call} (hc : p.Admissible call) : Succeeds (p.Ready source) (p.perform call : Gen (p.State σ × Store) Json)
      Any := by
  cases p with
  | address => exact succeeds_stockedCall fun b hb => Address.succeeds_perform hb hc
  | business => exact succeeds_stockedCall fun b hb => Business.succeeds_perform hb hc
  | datetime => exact succeeds_stockedCall fun b hb => Datetime.succeeds_perform hb hc
  | food => exact succeeds_stockedCall fun b hb => Food.succeeds_perform hb call
  | internet => exact succeeds_stockedCall fun b hb => Internet.succeeds_perform hb call
  | science => exact succeeds_stockedCall fun b hb => Science.succeeds_perform hb call
  | text => exact succeeds_stockedCall fun b hb => Prose.succeeds_perform hb hc
  | personal => exact Personal.succeeds_perform h hc
  | clothingSizes => exact succeeds_onFirst (ClothingSizes.succeeds_perform hc)
  | development => exact succeeds_onFirst (Development.succeeds_perform call)
  | file => exact succeeds_onFirst (Files.succeeds_perform call)
  | hardware => exact succeeds_onFirst (Hardware.succeeds_perform call)
  | network => exact succeeds_onFirst (Network.succeeds_perform call)
  | numbers => exact succeeds_onFirst (Numbers.succeeds_perform hc)
  | transport => exact succeeds_onFirst (Transport.succeeds_perform call)
  | code => exact succeeds_onFirst (Coder.succeeds_onWords fun locale => Coder.succeeds_perform locale hc)

omit [WordSource σ] in
theorem preserves_stockedCall (test : Bundle → Bool) (step : Bundle → Gen σ Json) :
    Preserves (fun st : Stocked σ × Store => test st.1.bundle = true) (Gen.onFirst (Stocked.onWords step)) := by
  have hk : Keeps Stocked.bundle (Stocked.onWords step) := by
    intro p
    unfold Stocked.onWords focus
    cases step p.bundle p.words <;> rfl
  exact hk.onFirst.preserves (test · = true)

/-- A call leaves a supplied provider supplied, also a call that fails. -/
theorem preserves_call (p : Builtin) (call : p.Call) :
    Preserves (fun st : p.State σ × Store => p.Supplied st.1) (p.perform call) := by
  cases p with
  | address => exact preserves_stockedCall Address.supplied _
  | business => exact preserves_stockedCall Business.supplied _
  | datetime => exact preserves_stockedCall Datetime.supplied _
  | food => exact preserves_stockedCall Food.supplied _
  | internet => exact preserves_stockedCall Personal.namesSupplied _
  | science => exact preserves_stockedCall Science.supplied _
  | text => exact preserves_stockedCall Prose.supplied _
  | personal => exact (Personal.bundle_perform call).preserves Personal.Supplied
  | _ => exact fun _ _ => trivial

theorem preserves_performField (p : Builtin) (field : String) :
    Preserves (fun st : p.State σ × Store => p.Supplied st.1) (p.performField field) := by
  unfold performField
  cases p.fields.lookup field with
  | some call => exact preserves_call p call
  | none => exact preserves_throw _

/-- A provider that has what it needs keeps it. -/
theorem preserves_query (source : Source) {p : Builtin} (q : p.Query) :
    Preserves (p.Ready source) (q.perform : Gen (p.State σ × Store) Json) := by
  have hs : Preserves (fun st : p.State σ × Store => p.Supplied st.1) (q.perform : Gen _ Json) := by
    cases q with
    | names => exact preserves_pure _
    | method m =>
      cases m with
      | typed call => exact preserves_call p call
      | named field => exact preserves_performField p field
    | records items =>
      have hr : Preserves (fun st : p.State σ × Store => p.Supplied st.1) p.record := by
        rw [record_eq]
        exact (Preserves.inTurn fun field _ => preserves_performField p field).map _
      exact (hr.times items).map _
  rintro ⟨x, store⟩ ⟨hx, hf⟩
  exact ⟨hs (x, store) hx, (alike_query source q (x, store) (x, store) ⟨rfl, hf, hf⟩).left.2.1⟩

theorem admissible_fields (p : Builtin) : ∀ e ∈ p.fields, p.Admissible e.2 := by
  cases p with
  | address => exact Address.admissible_fields
  | business => exact Business.admissible_fields
  | clothingSizes => exact ClothingSizes.admissible_fields
  | code => exact Coder.admissible_fields
  | datetime => exact Datetime.admissible_fields
  | numbers => exact Numbers.admissible_fields
  | personal => exact Personal.admissible_fields
  | text => exact Prose.admissible_fields
  | _ => exact fun _ _ => trivial

theorem succeeds_performField (h : source.Provides Personal.domain Locale.standard Personal.namesSupplied) {p : Builtin}
    {field : String} (hf : field ∈ p.fieldNames) :
    Succeeds (p.Ready source) (p.performField field : Gen (p.State σ × Store) Json) Any := by
  obtain ⟨call, hl⟩ := Option.isSome_iff_exists.mp (lookup_isSome_iff.mpr hf)
  obtain ⟨before, behind, he, _⟩ := List.lookup_eq_some_iff.mp hl
  have hm : (field, call) ∈ p.fields := by simp [he]
  unfold performField
  rw [hl]
  exact succeeds_call h p (admissible_fields p _ hm)

/-- A record can always be made. -/
theorem succeeds_record (h : source.Provides Personal.domain Locale.standard Personal.namesSupplied) (p : Builtin) :
    Succeeds (p.Ready source) (p.record : Gen (p.State σ × Store) Json) Any := by
  rw [record_eq]
  exact (Succeeds.inTurn fun field hf => succeeds_performField h hf).map fun _ _ => trivial

end Builtin

end SampleData
