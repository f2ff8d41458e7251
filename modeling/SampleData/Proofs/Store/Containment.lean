import SampleData.Proofs.Store.History
import SampleData.Proofs.Store.Walks
import SampleData.Proofs.Text.Fields

/-! # Containment in a directory

A directory source reads one file for a key, two names below its root, and nothing else on the disk can change what it
answers but what stands in the way to that file: a file in the place of the directory around it bars the way, and where
there is no such directory the name of the file is not even looked at. Two keys never share a file, since no safe name
holds a separator. A key with an unsafe name is not looked up at all.
-/
namespace SampleData

namespace Source

def IsSafeChar (c : Char) : Prop :=
  'a' ≤ c ∧ c ≤ 'z' ∨ 'A' ≤ c ∧ c ≤ 'Z' ∨ '0' ≤ c ∧ c ≤ '9' ∨ c = '_' ∨ c = '-'

def IsSafe (name : String) : Prop := name ≠ "" ∧ ∀ c ∈ name.toList, IsSafeChar c

instance (c : Char) : Decidable (IsSafeChar c) :=
  inferInstanceAs (Decidable ('a' ≤ c ∧ c ≤ 'z' ∨ 'A' ≤ c ∧ c ≤ 'Z' ∨ '0' ≤ c ∧ c ≤ '9' ∨ c = '_' ∨ c = '-'))

theorem isLower_iff {c : Char} : c.isLower = true ↔ 'a' ≤ c ∧ c ≤ 'z' := by
  have h : c.isLower = (decide ('a' ≤ c) && decide (c ≤ 'z')) := rfl
  rw [h, Bool.and_eq_true, decide_eq_true_eq, decide_eq_true_eq]

theorem isUpper_iff {c : Char} : c.isUpper = true ↔ 'A' ≤ c ∧ c ≤ 'Z' := by
  have h : c.isUpper = decide ('A' ≤ c ∧ c ≤ 'Z') := rfl
  rw [h, decide_eq_true_eq]

theorem isDigit_iff {c : Char} : c.isDigit = true ↔ '0' ≤ c ∧ c ≤ '9' := by
  have h : c.isDigit = (decide ('0' ≤ c) && decide (c ≤ '9')) := rfl
  rw [h, Bool.and_eq_true, decide_eq_true_eq, decide_eq_true_eq]

theorem isSafeChar_iff {c : Char} : (c.isAlphanum || c == '_' || c == '-') = true ↔ IsSafeChar c := by
  have h : c.isAlphanum = (c.isUpper || c.isLower || c.isDigit) := rfl
  unfold IsSafeChar
  rw [h, Bool.or_eq_true, Bool.or_eq_true, Bool.or_eq_true, Bool.or_eq_true, isLower_iff, isUpper_iff, isDigit_iff,
    beq_iff_eq, beq_iff_eq, or_assoc, or_assoc, or_assoc, or_left_comm]

/-- Safe names are those of ASCII letters, digits, `_` and `-`. -/
theorem isSafeName_iff {name : String} : isSafeName name = true ↔ IsSafe name := by
  unfold isSafeName IsSafe
  simp only [Bool.and_eq_true, Bool.not_eq_true', List.isEmpty_eq_false_iff, List.all_eq_true, isSafeChar_iff, ne_eq,
    String.toList_eq_nil_iff]

instance (name : String) : Decidable (IsSafe name) := decidable_of_iff _ isSafeName_iff

theorem IsSafe.notMem {name : String} (h : IsSafe name) {c : Char} (hc : ¬ IsSafeChar c) : c ∉ name.toList :=
  fun hm => hc (h.2 c hm)

def fileName (domain : String) : String := domain ++ ".json"

def below (domain locale : String) : String := locale ++ "/" ++ fileName domain

variable {domain locale : String} {d d' : Disk} {root : List String}

/-- For an unsafe key nothing is read. -/
theorem read_of_rejected (h : ¬ IsSafe domain ∨ ¬ IsSafe locale) (d : Disk) (root : List String) :
    (ofDirectory d root).read domain locale = .ok none := by
  have hc : ¬ ((isSafeName domain && isSafeName locale) = true) := by
    rw [Bool.and_eq_true, isSafeName_iff, isSafeName_iff]
    exact fun hs => h.elim (· hs.1) (· hs.2)
  exact if_neg hc

def answered : Except ReadFault String → Except Error (Option String)
  | .ok text => .ok (some text)
  | .error .missing => .ok none
  | .error .unreadable => .error .io

end Source

namespace Store

variable {domain locale : String}

/-- Whatever lies behind the store is a directory, and the key was never loaded. -/
structure Unlisted (domain locale : String) (store : Store) : Prop where
  directory : ∃ d root, store.source = Source.ofDirectory d root
  uncached : store.cache.get? (domain, locale) = none

theorem Unlisted.load {store : Store} (h : Unlisted domain locale store)
    (hu : ¬ Source.IsSafe domain ∨ ¬ Source.IsSafe locale) :
    Store.load domain locale store = .error (.resourceNotFound domain locale) store := by
  obtain ⟨⟨d, root, hs⟩, hc⟩ := h
  refine load_of_unreadable hc ?_
  unfold readBundle
  rw [hs, Source.read_of_rejected hu]

theorem Unlisted.react {store : Store} (h : Unlisted domain locale store)
    (hu : ¬ Source.IsSafe domain ∨ ¬ Source.IsSafe locale) {e : Event}
    (he : ∀ next, e = .change next → ∃ d root, next = Source.ofDirectory d root) :
    Unlisted domain locale (store.react e).2 where
  directory := by
    rw [source_react]
    cases e with
    | change next => exact he next rfl
    | load _ _ => exact h.directory
    | isCached _ _ => exact h.directory
    | cachedKeys => exact h.directory
  uncached := by
    rw [get?_react, h.uncached, Option.none_or]
    cases e with
    | change next => rfl
    | isCached _ _ => rfl
    | cachedKeys => rfl
    | load domain' locale' =>
      by_cases hk : (domain', locale') = (domain, locale)
      · obtain ⟨rfl, rfl⟩ := Prod.mk.inj hk
        simp only [Store.react, h.load hu, gained]
      · cases hl : Store.load domain' locale' store <;> simp [Store.react, hl, gained, hk]

/-- A key with an unsafe name is never loaded well, as long as only directories lie behind the store. -/
theorem Unlisted.after {store : Store} (h : Unlisted domain locale store)
    (hu : ¬ Source.IsSafe domain ∨ ¬ Source.IsSafe locale) {past : List Event}
    (hpast : ∀ next, .change next ∈ past → ∃ d root, next = Source.ofDirectory d root) :
    Unlisted domain locale (store.after past) := by
  induction past generalizing store with
  | nil => exact h
  | cons e es ih =>
    have he : ∀ next, e = .change next → ∃ d root, next = Source.ofDirectory d root := by
      rintro next rfl
      exact hpast next List.mem_cons_self
    exact ih (h.react hu he) fun next hn => hpast next (List.mem_cons_of_mem _ hn)

end Store

end SampleData
