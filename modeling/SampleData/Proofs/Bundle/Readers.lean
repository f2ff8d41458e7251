import SampleData.Proofs.Answers
import SampleData.Proofs.Provider.Supply
import SampleData.Proofs.Random.Reached

/-! # Readers of a bundle

What lies at a path can be asked for as it is, as a text, as a list of texts, or as one text of a list at random. All
four look up the path in the same way and differ in what they take for granted. Picking is the least strict with lists:
it looks at no item but the one it chose. It chooses first and looks afterwards, so whether the random source moves is
decided by the list alone.
-/
namespace SampleData

open SampleData.Random

structure Tape where
  words : WordStream
  position : ℕ

instance : WordSource Tape where
  next t := (t.words t.position, { t with position := t.position + 1 })

/-- A number below a range takes one word or two. -/
theorem position_index (n : ℕ) (t : Tape) :
    (index n t).2.position = t.position + 1 ∨ (index n t).2.position = t.position + 2 := by
  unfold index below
  rw [bind_apply]
  dsimp only
  split
  · exact .inr rfl
  · exact .inl rfl

namespace Bundle

variable {b : Bundle} {path : String} {items : List Json} {texts : List String} {fault : BundleFault}

/-- The value at the path, if it is of the expected kind. -/
def readAs {α : Type} (b : Bundle) (path : String) (expected : Shape) (as? : Json → Option α) : Except BundleFault α :=
  match b.get? path with
  | none => .error (.missingKey path b.locale b.domain)
  | some v =>
    match as? v with
    | some a => .ok a
    | none => .error (b.wrongShape path expected)

section ReadAs

variable {α : Type} {expected : Shape} {as? : Json → Option α}

theorem readAs_eq_ok_iff {a : α} : b.readAs path expected as? = .ok a ↔ ∃ v, b.get? path = some v ∧ as? v = some a := by
  unfold readAs
  cases b.get? path with
  | none => simp
  | some v => cases h : as? v <;> simp [h]

/-- A reader fails where nothing lies at its path, or something of another kind. -/
theorem readAs_eq_error_iff : b.readAs path expected as? = .error fault ↔
    (b.get? path = none ∧ fault = .missingKey path b.locale b.domain) ∨
    ∃ v, b.get? path = some v ∧ as? v = none ∧ fault = b.wrongShape path expected := by
  unfold readAs
  cases b.get? path with
  | none => simp [eq_comm]
  | some v => cases h : as? v <;> simp [h, eq_comm]

end ReadAs

theorem string_eq (b : Bundle) (path : String) : b.string path = b.readAs path .string Json.string? := by
  unfold string require readAs
  cases b.get? path with
  | none => rfl
  | some v => cases v <;> rfl

theorem list_eq (b : Bundle) (path : String) : b.list path = b.readAs path .list Json.list? := by
  unfold list require readAs
  cases b.get? path with
  | none => rfl
  | some v => cases v <;> rfl

theorem require_eq_error_iff : b.require path = .error fault ↔
    b.get? path = none ∧ fault = .missingKey path b.locale b.domain := by
  unfold require
  cases b.get? path <;> simp [eq_comm]

theorem list?_eq_some_iff {v : Json} : v.list? = some items ↔ v = .list items := by
  cases v <;> simp [Json.list?]

theorem list_eq_ok_iff : b.list path = .ok items ↔ b.get? path = some (.list items) := by
  rw [list_eq, readAs_eq_ok_iff]
  simp only [list?_eq_some_iff, exists_eq_right]

theorem stringItem_eq_ok_iff {item : Json} {text : String} : b.stringItem path item = .ok text ↔
    (∃ s, item = .str s) ∧ text = item.string?.getD "" := by
  cases item <;> simp [stringItem, Json.string?, eq_comm]

theorem stringItem_of_none {item : Json} (h : item.string? = none) :
    b.stringItem path item = .error (b.wrongShape path .stringList) := by
  simp only [stringItem, h]

theorem mapM_stringItem_eq_ok_iff : items.mapM (b.stringItem path) = .ok texts ↔ items = texts.map Json.str := by
  rw [mapM_eq_ok_iff fun _ _ => stringItem_eq_ok_iff]
  constructor
  · rintro ⟨hall, rfl⟩
    have hsame : ∀ item ∈ items, Json.str (item.string?.getD "") = item := by
      intro item hi
      obtain ⟨text, rfl⟩ := hall item hi
      rfl
    rw [List.map_map]
    exact ((List.map_congr_left hsame).trans (List.map_id' items)).symm
  · rintro rfl
    simp [Function.comp_def, Json.string?]

/-- The first item that is no text decides, and all of them fail in the same way. -/
theorem mapM_stringItem_eq_error_iff : items.mapM (b.stringItem path) = .error fault ↔
    (∃ item ∈ items, item.string? = none) ∧ fault = b.wrongShape path .stringList := by
  induction items with
  | nil => simp [pure, Except.pure]
  | cons item items ih =>
    rw [List.mapM_cons]
    cases hi : item.string? with
    | none =>
      rw [stringItem_of_none hi]
      simp [bind, Except.bind, hi, eq_comm]
    | some text =>
      have hs : b.stringItem path item = .ok text := by simp only [stringItem, hi]
      rw [hs]
      cases hm : items.mapM (b.stringItem path) with
      | error fault' =>
        rw [hm] at ih
        simpa [bind, Except.bind, hi] using ih
      | ok rest =>
        rw [hm] at ih
        simpa [bind, Except.bind, pure, Except.pure, hi] using ih

/-- Texts are read from exactly the lists of texts. -/
theorem strings_eq_ok_iff : b.strings path = .ok texts ↔ b.get? path = some (.list (texts.map Json.str)) := by
  unfold strings
  cases hl : b.list path with
  | error fault =>
    have hne : b.get? path ≠ some (.list (texts.map Json.str)) := by
      intro hg
      cases hl.symm.trans (list_eq_ok_iff.mpr hg)
    exact ⟨nofun, fun hg => absurd hg hne⟩
  | ok items =>
    have hg := list_eq_ok_iff.mp hl
    rw [hg, Option.some.injEq, Json.list.injEq]
    exact mapM_stringItem_eq_ok_iff

theorem strings_eq_error_iff : b.strings path = .error fault ↔
    b.list path = .error fault ∨
    ∃ items, b.get? path = some (.list items) ∧ (∃ item ∈ items, item.string? = none) ∧
      fault = b.wrongShape path .stringList := by
  unfold strings
  cases hl : b.list path with
  | error fault' =>
    have hne : ∀ items, b.get? path ≠ some (.list items) := by
      intro items hg
      cases hl.symm.trans (list_eq_ok_iff.mpr hg)
    simp [bind, Except.bind, hne]
  | ok items =>
    have hg := list_eq_ok_iff.mp hl
    have hm : items.mapM (b.stringItem path) = .error fault ↔ _ := mapM_stringItem_eq_error_iff
    simpa [bind, Except.bind, hg] using hm

variable {σ : Type} [WordSource σ]

/-- A position is drawn, and only then the item at it is looked at. -/
theorem exists_pick_of_list (h : b.get? path = some (.list items)) (hne : items ≠ []) (w : σ) :
    ∃ item, items[(index items.length w).1]? = some item ∧
      b.pick path w = match item.string? with
        | some text => .ok text (index items.length w).2
        | none => .error (.invalidBundle (b.wrongShape path .stringList)) (index items.length w).2 := by
  have hlt : (index items.length w).1 < items.length := index_lt (List.length_pos_iff.mpr hne) w
  refine ⟨_, List.getElem?_eq_getElem hlt, ?_⟩
  have hc : choose? items w = (some items[(index items.length w).1], (index items.length w).2) := by
    cases items with
    | nil => exact absurd rfl hne
    | cons first rest => exact Prod.ext (List.getElem?_eq_getElem hlt) rfl
  simp only [pick, list_eq_ok_iff.mpr h]
  rw [Gen.bind_draw_apply, hc]
  cases hs : (items[(index items.length w).1]).string? with
  | some text =>
    simp only [stringItem, hs]
    rfl
  | none =>
    simp only [stringItem, hs]
    rfl

/-- One position of the list is drawn, whatever stands there. -/
theorem left_pick_of_list (h : b.get? path = some (.list items)) (hne : items ≠ []) (w : σ) :
    Gen.left (b.pick path w) = (index items.length w).2 := by
  obtain ⟨item, _, hp⟩ := exists_pick_of_list h hne w
  rw [hp]
  cases item.string? <;> rfl

theorem pick_of_empty (h : b.get? path = some (.list [])) (w : σ) :
    b.pick path w = .error (.invalidBundle (.emptyList path b.locale b.domain)) w := by
  simp only [pick, list_eq_ok_iff.mpr h]
  rfl

theorem pick_of_list_error (h : b.list path = .error fault) (w : σ) :
    b.pick path w = .error (.invalidBundle fault) w := by
  simp only [pick, h]
  rfl

/-- Every text of a list is picked for some words. -/
theorem reaches_pick_of_mem (h : b.get? path = some (.list items)) (hl : items.length ≤ UInt32.size) {text : String}
    (ht : .str text ∈ items) : ∃ s s' : WordStream, b.pick path s = .ok text s' := by
  obtain ⟨i, hi, hit⟩ := List.mem_iff_getElem.mp ht
  obtain ⟨s, hs⟩ := reaches_index hi hl .zeros
  obtain ⟨item, hitem, hp⟩ := exists_pick_of_list h (List.ne_nil_of_mem ht) s
  rw [hs, List.getElem?_eq_getElem hi, hit] at hitem
  obtain rfl := Option.some.inj hitem
  exact ⟨s, _, hp⟩

inductive Reader where
  | require
  | string
  | strings
  | pick

/-- A reader as a step on a random source. What is wrong with the bundle is what the step fails with. -/
def read (b : Bundle) (path : String) : Reader → Gen σ Json
  | .require => Gen.ofExcept ((b.require path).mapError .invalidBundle)
  | .string => Json.str <$> b.text path
  | .strings => Json.ofStrings <$> Gen.ofExcept ((b.strings path).mapError .invalidBundle)
  | .pick => Json.str <$> b.pick path

/-- The fault names the path and the bundle. -/
def Blames (b : Bundle) (path : String) (fault : BundleFault) : Prop :=
  fault = .missingKey path b.locale b.domain ∨ (∃ expected, fault = b.wrongShape path expected) ∨
    fault = .emptyList path b.locale b.domain

theorem blames_of_readAs {α : Type} {expected : Shape} {as? : Json → Option α}
    (h : b.readAs path expected as? = .error fault) : b.Blames path fault := by
  rcases readAs_eq_error_iff.mp h with ⟨_, hf⟩ | ⟨_, _, _, hf⟩
  · exact .inl hf
  · exact .inr (.inl ⟨expected, hf⟩)

theorem blames_of_strings (h : b.strings path = .error fault) : b.Blames path fault := by
  rcases strings_eq_error_iff.mp h with hl | ⟨_, _, _, hf⟩
  · rw [list_eq] at hl
    exact blames_of_readAs hl
  · exact .inr (.inl ⟨.stringList, hf⟩)

theorem blames_of_pick {w w' : σ} {e : Error} (h : b.pick path w = .error e w') :
    ∃ fault, e = .invalidBundle fault ∧ b.Blames path fault := by
  cases hl : b.list path with
  | error fault =>
    rw [pick_of_list_error hl] at h
    cases h
    rw [list_eq] at hl
    exact ⟨fault, rfl, blames_of_readAs hl⟩
  | ok items =>
    have hg := list_eq_ok_iff.mp hl
    by_cases hne : items = []
    · subst hne
      rw [pick_of_empty hg] at h
      cases h
      exact ⟨_, rfl, .inr (.inr rfl)⟩
    · obtain ⟨item, _, hp⟩ := exists_pick_of_list hg hne w
      rw [hp] at h
      cases hs : item.string? with
      | some text =>
        rw [hs] at h
        cases h
      | none =>
        rw [hs] at h
        cases h
        exact ⟨_, rfl, .inr (.inl ⟨.stringList, rfl⟩)⟩

omit [WordSource σ] in
theorem exists_of_mapError {α : Type} {x : Except BundleFault α} {w w' : σ} {e : Error}
    (h : Gen.ofExcept (x.mapError .invalidBundle) w = .error e w') : ∃ fault, e = .invalidBundle fault ∧ x = .error fault := by
  cases x with
  | ok a => cases h
  | error fault =>
    cases h
    exact ⟨fault, rfl, rfl⟩

/-- Whatever a reader fails with names the path and the bundle. -/
theorem blames_of_read {reader : Reader} {w w' : σ} {e : Error} (h : b.read path reader w = .error e w') :
    ∃ fault, e = .invalidBundle fault ∧ b.Blames path fault := by
  cases reader with
  | require =>
    obtain ⟨fault, rfl, hr⟩ := exists_of_mapError h
    exact ⟨fault, rfl, .inl (require_eq_error_iff.mp hr).2⟩
  | string =>
    have ht : Gen.ofExcept ((b.string path).mapError .invalidBundle) w = .error e w' := by
      have hm := Gen.eq_error_of_map h
      unfold text at hm
      cases hs : b.string path with
      | ok text =>
        rw [hs] at hm
        cases hm
      | error fault =>
        rw [hs] at hm
        exact hm
    obtain ⟨fault, rfl, hr⟩ := exists_of_mapError ht
    rw [string_eq] at hr
    exact ⟨fault, rfl, blames_of_readAs hr⟩
  | strings =>
    obtain ⟨fault, rfl, hr⟩ := exists_of_mapError (Gen.eq_error_of_map h)
    exact ⟨fault, rfl, blames_of_strings hr⟩
  | pick => exact blames_of_pick (Gen.eq_error_of_map h)

structure PicksAlike (σ : Type) [WordSource σ] (b : Bundle) (path : String) : Prop where
  /-- Only texts of a list at the path are picked. -/
  listed : ∀ (w : σ) text w', b.pick path w = .ok text w' →
    ∃ items, b.get? path = some (.list items) ∧ .str text ∈ items
  /-- From a list of texts that is not empty one of them is picked, whatever the words are, and each of them for some
  words. -/
  served : ∀ texts, b.strings path = .ok texts → texts ≠ [] → texts.length < UInt32.size →
    (∀ w : σ, ∃ text ∈ texts, ∃ w', b.pick path w = .ok text w') ∧
      ∀ text ∈ texts, ∃ s s' : WordStream, b.pick path s = .ok text s'
  empty : b.strings path = .ok [] → ∀ w : σ,
    b.pick path w = .error (.invalidBundle (.emptyList path b.locale b.domain)) w
  /-- One position of the list is drawn, and nothing else. -/
  drawn : ∀ items, b.get? path = some (.list items) → items ≠ [] → ∀ w : σ,
    Gen.left (b.pick path w) = (index items.length w).2
  /-- This is so as well where the item at the position is no text. -/
  mixed : ∀ items, b.get? path = some (.list items) → ∀ (w : σ) item,
    items[(index items.length w).1]? = some item → item.string? = none →
      b.pick path w = .error (.invalidBundle (b.wrongShape path .stringList)) (index items.length w).2
  untouched : (∀ items, b.get? path = some (.list items) → items = []) → ∀ w : σ, Gen.left (b.pick path w) = w
  /-- Words are read where there is a list that is not empty, and only there. -/
  advances : ∀ t : Tape, t.position < (Gen.left (b.pick path t)).position ↔
    ∃ items, b.get? path = some (.list items) ∧ items ≠ []
  /-- Whatever a reader fails with says what is wrong with the bundle at this path. -/
  blamed : ∀ reader (w : σ) e w', b.read path reader w = .error e w' →
    e.kind = .invalidBundle ∧ ∃ fault, e = .invalidBundle fault ∧ b.Blames path fault

/-- Nothing is drawn where there is nothing to choose from. -/
theorem left_pick_of_unlisted (h : ∀ items, b.get? path = some (.list items) → items = []) (w : σ) :
    Gen.left (b.pick path w) = w := by
  cases hl : b.list path with
  | error fault => rw [pick_of_list_error hl, Gen.left_error]
  | ok items =>
    have hg := list_eq_ok_iff.mp hl
    obtain rfl := h items hg
    rw [pick_of_empty hg, Gen.left_error]

/-- Picking agrees with the other readers on every bundle. For every tree of data, every path and every state of the
random source it succeeds only where there is a list that is not empty, it succeeds wherever there is one of texts alone
and covers it, and it draws one position where there is a list that is not empty and nothing elsewhere. -/
theorem readers_agree (b : Bundle) (path : String) : PicksAlike σ b path where
  listed := by
    intro w text w' h
    obtain ⟨items, hl, ht⟩ := exists_of_pick h
    exact ⟨items, list_eq_ok_iff.mp hl, ht⟩
  served := by
    intro texts h hne hlength
    constructor
    · intro w
      obtain ⟨text, w', ho, ht, _⟩ := succeeds_pick_of_strings h hne w trivial
      exact ⟨text, ht, w', ho⟩
    · intro text ht
      have hl : (texts.map Json.str).length ≤ UInt32.size := by
        rw [List.length_map]
        exact hlength.le
      exact reaches_pick_of_mem (strings_eq_ok_iff.mp h) hl (List.mem_map_of_mem ht)
  empty := fun h w => pick_of_empty (strings_eq_ok_iff.mp h) w
  drawn := fun _ h hne w => left_pick_of_list h hne w
  mixed := by
    intro items h w item hi hs
    have hne : items ≠ [] := by
      rintro rfl
      cases hi
    obtain ⟨drawn, hd, hp⟩ := exists_pick_of_list h hne w
    obtain rfl := Option.some.inj (hi.symm.trans hd)
    rw [hp, hs]
  untouched := left_pick_of_unlisted
  advances := by
    intro t
    constructor
    · intro hlt
      by_contra hnone
      have hempty : ∀ items, b.get? path = some (.list items) → items = [] := by
        intro items hg
        by_contra hne
        exact hnone ⟨items, hg, hne⟩
      rw [left_pick_of_unlisted hempty] at hlt
      exact lt_irrefl _ hlt
    · rintro ⟨items, hg, hne⟩
      rw [left_pick_of_list hg hne]
      rcases position_index items.length t with hp | hp <;> omega
  blamed := by
    intro reader w e w' h
    obtain ⟨fault, rfl, hb⟩ := blames_of_read h
    exact ⟨rfl, fault, rfl, hb⟩

end Bundle

end SampleData
