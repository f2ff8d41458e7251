import SampleData.Proofs.Store.Loading
import SampleData.Proofs.Success
import SampleData.Store

/-! # Supplies

A bundle offers a path if there is a list of texts under it, with one at least and no more than a draw can tell
apart. Whether it does is a test, so it can be run on any bundle; where it comes out true, picking from the path
succeeds from every state. A source provides a bundle if it can be loaded and passes a given test.
-/
namespace SampleData

namespace Bundle

variable {b : Bundle} {path : String} {paths : List String} {accepts : String → Bool}

def offers (b : Bundle) (path : String) (accepts : String → Bool) : Bool :=
  match b.list path with
  | .ok items => !items.isEmpty && decide (items.length ≤ 2 ^ 32) && items.all fun item => item.string?.any accepts
  | .error _ => false

/-- The bundle offers every one of the paths, whatever the texts are. -/
def stocks (b : Bundle) (paths : List String) : Bool := paths.all fun path => b.offers path fun _ => true

def holds (b : Bundle) (path : String) (accepts : String → Bool) : Bool :=
  match b.string path with
  | .ok text => accepts text
  | .error _ => false

theorem exists_of_offers (h : b.offers path accepts = true) : ∃ items, b.list path = .ok items ∧ items ≠ [] ∧
    items.length ≤ 2 ^ 32 ∧ ∀ item ∈ items, ∃ text, b.stringItem path item = .ok text ∧ accepts text = true := by
  unfold offers at h
  cases hl : b.list path with
  | error fault => simp [hl] at h
  | ok items =>
    simp only [hl, Bool.and_eq_true, decide_eq_true_eq, List.all_eq_true] at h
    obtain ⟨⟨hne, hlen⟩, hall⟩ := h
    refine ⟨items, rfl, by simpa using hne, hlen, ?_⟩
    intro item hi
    have ha := hall item hi
    cases hs : item.string? with
    | none => simp [hs] at ha
    | some text =>
      rw [hs] at ha
      exact ⟨text, by simp only [stringItem, hs], ha⟩

theorem offers_of_stocks (h : b.stocks paths = true) (hp : path ∈ paths) : b.offers path (fun _ => true) = true :=
  List.all_eq_true.mp h path hp

theorem exists_of_holds (h : b.holds path accepts = true) : ∃ text, b.string path = .ok text ∧ accepts text = true := by
  unfold holds at h
  cases hs : b.string path with
  | error fault => simp [hs] at h
  | ok text =>
    rw [hs] at h
    exact ⟨text, rfl, h⟩

theorem succeeds_pick_of_list {σ : Type} [WordSource σ] {items : List Json} {Q : String → Prop}
    (hl : b.list path = .ok items) (hne : items ≠ [])
    (h : ∀ item ∈ items, ∃ text, b.stringItem path item = .ok text ∧ Q text) :
    Gen.Succeeds Gen.Anywhere (b.pick path : Gen σ String) Q := by
  simp only [pick, hl]
  refine (Gen.succeeds_draw (Random.draws_choose? hne)).bind ?_
  rintro _ ⟨item, hi, rfl⟩
  obtain ⟨text, ht, hq⟩ := h item hi
  simp only [ht]
  exact Gen.succeeds_pure hq

/-- From a list that is offered a text can always be picked. -/
theorem succeeds_pick {σ : Type} [WordSource σ] (h : b.offers path accepts = true) :
    Gen.Succeeds Gen.Anywhere (b.pick path : Gen σ String) (accepts · = true) := by
  obtain ⟨items, hl, hne, _, hall⟩ := exists_of_offers h
  exact succeeds_pick_of_list hl hne hall

/-- What is picked from a list of texts is one of them. -/
theorem succeeds_pick_of_strings {σ : Type} [WordSource σ] {texts : List String} (h : b.strings path = .ok texts)
    (hne : texts ≠ []) : Gen.Succeeds Gen.Anywhere (b.pick path : Gen σ String) (· ∈ texts) := by
  unfold strings at h
  cases hl : b.list path with
  | error fault =>
    rw [hl] at h
    cases h
  | ok items =>
    rw [hl] at h
    have hm : items.mapM (b.stringItem path) = .ok texts := h
    obtain ⟨hlength, hall⟩ := exists_of_mapM_ok hm
    refine succeeds_pick_of_list hl ?_ ?_
    · rintro rfl
      exact hne (List.eq_nil_of_length_eq_zero hlength.symm)
    · intro item hi
      obtain ⟨text, ht, hs⟩ := hall item hi
      exact ⟨text, hs, ht⟩

theorem succeeds_pick_of_stocks {σ : Type} [WordSource σ] (h : b.stocks paths = true) (hp : path ∈ paths) :
    Gen.Succeeds Gen.Anywhere (b.pick path : Gen σ String) Gen.Any :=
  (succeeds_pick (offers_of_stocks h hp)).any

theorem succeeds_text {s : Type} {I : s → Prop} (h : b.holds path accepts = true) :
    Gen.Succeeds I (b.text path) (accepts · = true) := by
  obtain ⟨text, ht, ha⟩ := exists_of_holds h
  simp only [Bundle.text, ht]
  exact Gen.succeeds_pure ha

theorem exists_strings (h : b.offers path accepts = true) : ∃ texts, b.strings path = .ok texts := by
  obtain ⟨items, hl, _, _, hall⟩ := exists_of_offers h
  obtain ⟨texts, hts⟩ : ∃ texts, items.mapM (b.stringItem path) = .ok texts := by
    refine exists_mapM_ok fun item hi => ?_
    obtain ⟨text, ht, _⟩ := hall item hi
    exact ⟨text, ht⟩
  refine ⟨texts, ?_⟩
  unfold strings
  rw [hl]
  exact hts

end Bundle

def Source.Provides (source : Source) (domain locale : String) (test : Bundle → Bool) : Prop :=
  ∃ b, Store.readBundle source domain locale = .ok b ∧ test b = true

theorem Source.Provides.imp {source : Source} {domain locale : String} {test test' : Bundle → Bool}
    (h : source.Provides domain locale test) (ht : ∀ b, test b = true → test' b = true) :
    source.Provides domain locale test' := by
  obtain ⟨b, hr, hb⟩ := h
  exact ⟨b, hr, ht b hb⟩

/-- A bundle that the source provides can be loaded from every faithful store. -/
theorem Source.Provides.load {source : Source} {domain locale : String} {test : Bundle → Bool}
    (h : source.Provides domain locale test) :
    Gen.Succeeds (Store.Faithful source) (Store.load domain locale) (test · = true) := by
  intro store hs
  obtain ⟨b, hr, hb⟩ := h
  obtain ⟨after, ha, hl⟩ := hs.load domain locale
  rw [hr] at hl
  exact ⟨b, after, hl, hb, ha⟩

theorem Gen.Succeeds.onWords {σ α : Type} {test : Bundle → Bool} {Q : α → Prop} {step : Bundle → Gen σ α}
    (h : ∀ b, test b = true → Gen.Succeeds Gen.Anywhere (step b) Q) :
    Gen.Succeeds (fun p : Stocked σ => test p.bundle = true) (Stocked.onWords step) Q := by
  rintro ⟨b, words⟩ hb
  obtain ⟨a, after, ho, ha, _⟩ := h b hb words trivial
  refine ⟨a, ⟨b, after⟩, ?_, ha, hb⟩
  simp only [Stocked.onWords, focus, ho]

end SampleData
