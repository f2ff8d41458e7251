import SampleData.Bundle
import SampleData.Proofs.Text.Fields

/-! # Dotted paths

A path is made of keys with dots between them, and there is only one way to take it apart. It leads from one object
into the next: a key is looked up in an object and nowhere else, so no path enters a list or goes on behind a text or
a number. Two paths in a row are followed one after the other. A key that contains a dot is named by no path, and the
data might as well be without it.
-/
namespace SampleData

def IsKeysOf (keys : List String) (path : String) : Prop :=
  keys ≠ [] ∧ path = ".".intercalate keys ∧ ∀ key ∈ keys, '.' ∉ key.toList

theorem keysOf_eq_iff {keys : List String} {path : String} : keysOf path = keys ↔ IsKeysOf keys path := by
  have hchars : keysOf path = keys ↔ Text.pieces '.' path.toList = keys.map String.toList := by
    unfold keysOf
    constructor
    · rintro rfl
      simp [Function.comp_def]
    · intro h
      simp [h, Function.comp_def]
  have hjoined : path.toList = ['.'].intercalate (keys.map String.toList) ↔ path = ".".intercalate keys := by
    rw [← String.toList_inj, String.toList_intercalate]
    rfl
  rw [hchars, Text.pieces_eq_iff, hjoined, List.forall_mem_map]
  unfold IsKeysOf
  rw [Ne, List.map_eq_nil_iff]

/-- A dot between two paths joins their keys. -/
theorem keysOf_append (p q : String) : keysOf (p ++ "." ++ q) = keysOf p ++ keysOf q := by
  have hjoined : (p ++ "." ++ q).toList = p.toList ++ '.' :: q.toList := by simp
  unfold keysOf
  rw [hjoined, Text.pieces_append, List.map_append]

theorem keysOf_ne_nil (path : String) : keysOf path ≠ [] := (keysOf_eq_iff.mp rfl).1

namespace Json

/-- Objects from the first value down to the last one, each with the next value under the next key. -/
inductive Descends : Json → List String → Json → Prop
  | here (v : Json) : Descends v [] v
  | into {fields : List (String × Json)} {key : String} {keys : List String} {u w : Json}
      (hu : fields.lookup key = some u) (hw : Descends u keys w) : Descends (.object fields) (key :: keys) w

theorem follow_cons (v : Json) (key : String) (keys : List String) :
    v.follow (key :: keys) = (v.get? key).bind (·.follow keys) := by
  rw [follow]
  cases v.get? key <;> rfl

theorem follow_append (v : Json) (keys behind : List String) :
    v.follow (keys ++ behind) = (v.follow keys).bind (·.follow behind) := by
  induction keys generalizing v with
  | nil => rfl
  | cons key keys ih =>
    rw [List.cons_append, follow_cons, follow_cons, Option.bind_assoc]
    exact Option.bind_congr fun u _ => ih u

/-- Following keys leads to exactly the value that they descend to. -/
theorem follow_eq_some_iff {v w : Json} {keys : List String} : v.follow keys = some w ↔ v.Descends keys w := by
  constructor
  · intro h
    induction keys generalizing v with
    | nil =>
      obtain rfl := Option.some.inj h
      exact .here v
    | cons key keys ih =>
      rw [follow_cons, Option.bind_eq_some_iff] at h
      obtain ⟨u, hu, hw⟩ := h
      cases v with
      | object fields => exact .into hu (ih hw)
      | _ => cases hu
  · intro h
    induction h with
    | here v => rfl
    | into hu _ ih =>
      rw [follow_cons, Option.bind_eq_some_iff]
      exact ⟨_, hu, ih⟩

theorem follow_of_not_isObject {v : Json} (h : v.isObject = false) {keys : List String} (hne : keys ≠ []) :
    v.follow keys = none := by
  cases keys with
  | nil => exact absurd rfl hne
  | cons key keys =>
    cases v with
    | object fields => cases h
    | _ => rfl

mutual

/-- The value without the fields that have a dot in their key, in every object that is reached through objects. -/
def undotted : Json → Json
  | .object fields => .object (undottedFields fields)
  | v => v

def undottedFields : List (String × Json) → List (String × Json)
  | [] => []
  | (key, v) :: fields =>
    if '.' ∈ key.toList then undottedFields fields else (key, undotted v) :: undottedFields fields

end

theorem lookup_undottedFields {key : String} (h : '.' ∉ key.toList) (fields : List (String × Json)) :
    (undottedFields fields).lookup key = (fields.lookup key).map undotted := by
  induction fields with
  | nil => rfl
  | cons field fields ih =>
    obtain ⟨other, v⟩ := field
    rw [undottedFields]
    by_cases hk : key = other
    · subst hk
      rw [if_neg h, List.lookup_cons_self, List.lookup_cons_self, Option.map_some]
    · have hne : (key == other) = false := beq_false_of_ne hk
      split
      · simpa only [List.lookup_cons, hne] using ih
      · simpa only [List.lookup_cons, hne] using ih

theorem get?_undotted {key : String} (h : '.' ∉ key.toList) (v : Json) :
    v.undotted.get? key = (v.get? key).map undotted := by
  cases v with
  | object fields =>
    rw [undotted]
    exact lookup_undottedFields h fields
  | _ => rfl

/-- Keys without dots never lead through a key with one. -/
theorem follow_undotted {keys : List String} (h : ∀ key ∈ keys, '.' ∉ key.toList) (v : Json) :
    v.undotted.follow keys = (v.follow keys).map undotted := by
  induction keys generalizing v with
  | nil => rfl
  | cons key keys ih =>
    obtain ⟨hk, hks⟩ := List.forall_mem_cons.mp h
    rw [follow_cons, follow_cons, get?_undotted hk]
    cases v.get? key with
    | none => rfl
    | some u => exact ih hks u

end Json

namespace Bundle

structure PathsDescend (b : Bundle) : Prop where
  /-- A path behind another one starts from the value that the first one leads to. -/
  composed : ∀ p q w, b.get? (p ++ "." ++ q) = some w ↔
    ∃ u, b.get? p = some u ∧ { b with data := u }.get? q = some w
  chained : ∀ path w, b.get? path = some w ↔ ∃ keys, IsKeysOf keys path ∧ b.data.Descends keys w
  /-- Lists, texts, numbers and the other values that are no objects have nothing below them, -/
  ended : ∀ p u, b.get? p = some u → u.isObject = false → ∀ q, b.get? (p ++ "." ++ q) = none
  /-- and where the data are such a value no path leads anywhere. -/
  rootless : b.data.isObject = false → ∀ path, b.get? path = none
  undotted : ∀ path, { b with data := b.data.undotted }.get? path = (b.get? path).map Json.undotted

/-- A path behind another one is followed from where the first one leads. -/
theorem get?_append (b : Bundle) (p q : String) :
    b.get? (p ++ "." ++ q) = (b.get? p).bind fun u => { b with data := u }.get? q := by
  unfold get?
  rw [keysOf_append, Json.follow_append]

theorem get?_of_not_isObject {b : Bundle} (h : b.data.isObject = false) (path : String) : b.get? path = none :=
  Json.follow_of_not_isObject h (keysOf_ne_nil path)

/-- Paths compose, and they descend through objects alone. For every tree of data and all paths, empty ones and ones with
empty keys among them, a path leads to a value exactly where its keys lead there from object to object. -/
theorem paths_descend (b : Bundle) : b.PathsDescend where
  composed := by
    intro p q w
    rw [get?_append, Option.bind_eq_some_iff]
  chained := by
    intro path w
    unfold get?
    rw [Json.follow_eq_some_iff]
    constructor
    · intro h
      exact ⟨keysOf path, keysOf_eq_iff.mp rfl, h⟩
    · rintro ⟨keys, hk, h⟩
      rwa [keysOf_eq_iff.mpr hk]
  ended := by
    intro p u hp hu q
    rw [get?_append, hp, Option.bind_some]
    exact get?_of_not_isObject hu q
  rootless := fun h path => get?_of_not_isObject h path
  undotted := fun path => Json.follow_undotted (keysOf_eq_iff.mp rfl).2.2 b.data

end Bundle

end SampleData
