import SampleData.Proofs.Facade.Calls

/-! # Names of registered providers

An instance is registered under the name that its type declares, or else under the last part of the type's path in
lower case, whatever modules stand before it and whatever arguments behind it. A name is admitted if it is an
identifier and no built-in name; then the instance takes its place, and otherwise nothing changes.
-/
namespace SampleData

namespace Registry

def IsPart (name : String) : Prop := ':' ∉ name.toList ∧ '<' ∉ name.toList

def qualified (modules : List String) (type : String) : String :=
  modules.foldr (fun m rest => m ++ "::" ++ rest) type

theorem lastPart_of_notMem {cs : List Char} (h : ':' ∉ cs) (part : List Char) : lastPart part cs = part := by
  induction cs with
  | nil => rfl
  | cons c cs ih =>
    obtain ⟨hc, hcs⟩ := not_or.mp (mt List.mem_cons.mpr h)
    rw [lastPart.eq_3]
    · exact ih hcs
    · rintro cs rfl
      exact absurd rfl hc

theorem lastPart_append {cs : List Char} (h : ':' ∉ cs) (part rest : List Char) :
    lastPart part (cs ++ ':' :: ':' :: rest) = lastPart rest rest := by
  induction cs with
  | nil => rfl
  | cons c cs ih =>
    obtain ⟨hc, hcs⟩ := not_or.mp (mt List.mem_cons.mpr h)
    rw [List.cons_append, lastPart.eq_3]
    · exact ih hcs
    · rintro cs rfl
      exact absurd rfl hc

theorem lastPart_qualified {modules : List String} (hm : ∀ m ∈ modules, IsPart m) {type : String} (ht : IsPart type) :
    lastPart (qualified modules type).toList (qualified modules type).toList = type.toList := by
  induction modules with
  | nil => exact lastPart_of_notMem ht.1 _
  | cons m ms ih =>
    obtain ⟨hm, hms⟩ := List.forall_mem_cons.mp hm
    have hq : (qualified (m :: ms) type).toList = m.toList ++ ':' :: ':' :: (qualified ms type).toList := by
      simp [qualified]
    rw [hq, lastPart_append hm.1]
    exact ih hms

theorem notMem_qualified {modules : List String} (hm : ∀ m ∈ modules, IsPart m) {type : String} (ht : IsPart type) :
    '<' ∉ (qualified modules type).toList := by
  induction modules with
  | nil => exact ht.2
  | cons m ms ih =>
    obtain ⟨hm, hms⟩ := List.forall_mem_cons.mp hm
    have hq : (qualified (m :: ms) type).toList = m.toList ++ ':' :: ':' :: (qualified ms type).toList := by
      simp [qualified]
    rw [hq]
    simp [hm.2, ih hms]

def IsArguments (text : String) : Prop := text = "" ∨ ∃ args, text = "<" ++ args ++ ">"

theorem withoutArguments_append {cs : List Char} (h : '<' ∉ cs) {arguments : String} (ha : IsArguments arguments) :
    withoutArguments (cs ++ arguments.toList) = cs := by
  have hp : ∀ c ∈ cs, decide (c ≠ '<') = true := by
    intro c hc
    exact decide_eq_true fun he => h (he ▸ hc)
  unfold withoutArguments
  rw [List.takeWhile_append_of_pos hp]
  rcases ha with rfl | ⟨args, rfl⟩ <;> simp

/-- Neither the modules in front nor the arguments behind are part of the name of a type. -/
theorem typeName_qualified {modules : List String} (hm : ∀ m ∈ modules, IsPart m) {type : String} (ht : IsPart type)
    {arguments : String} (ha : IsArguments arguments) :
    typeName (qualified modules type ++ arguments) = type.toList := by
  unfold typeName
  rw [String.toList_append, withoutArguments_append (notMem_qualified hm ht) ha]
  exact lastPart_qualified hm ht

/-- A small ASCII letter or an underscore, and then any number of these and of digits. -/
def IsName (name : String) : Prop :=
  ∃ c cs, name.toList = c :: cs ∧ (('a' ≤ c ∧ c ≤ 'z') ∨ c = '_') ∧
    ∀ d ∈ cs, ('a' ≤ d ∧ d ≤ 'z') ∨ ('0' ≤ d ∧ d ≤ '9') ∨ d = '_'

theorem isIdentifier_iff {name : String} : isIdentifier name = true ↔ IsName name := by
  have hsmall : ∀ c : Char, isSmall c = true ↔ 'a' ≤ c ∧ c ≤ 'z' := by
    intro c
    simp only [isSmall, Bool.and_eq_true, decide_eq_true_eq]
    exact Iff.rfl
  have hdigit : ∀ c : Char, Text.isDigit c = true ↔ '0' ≤ c ∧ c ≤ '9' := by
    intro c
    simp only [Text.isDigit, Bool.and_eq_true, decide_eq_true_eq]
    exact Iff.rfl
  unfold isIdentifier IsName
  cases h : name.toList with
  | nil => simp
  | cons c cs =>
    simp only [Bool.and_eq_true, Bool.or_eq_true, List.all_eq_true, hsmall, hdigit, beq_iff_eq, or_assoc]
    constructor
    · rintro ⟨hc, hcs⟩
      exact ⟨c, cs, rfl, hc, hcs⟩
    · rintro ⟨d, ds, he, hd, hds⟩
      obtain ⟨rfl, rfl⟩ := List.cons.inj he
      exact ⟨hd, hds⟩

theorem isName_name (p : Builtin) : IsName p.name := by
  rw [← isIdentifier_iff]
  cases p <;> decide

variable {ι : Type} [Registrable ι]

/-- The name that an instance would be registered under. -/
def proposed (fresh : ι) : String :=
  (Registrable.declaredName fresh).getD (Text.lower (String.ofList (typeName (Registrable.typePath fresh))))

theorem proposed_of_declared {fresh : ι} {name : String} (h : Registrable.declaredName fresh = some name) :
    proposed fresh = name := by
  simp only [proposed, h, Option.getD_some]

/-- A type that declares no name is known by its own, in small letters. -/
theorem proposed_of_typePath {fresh : ι} (h : Registrable.declaredName fresh = none) {modules : List String}
    (hm : ∀ m ∈ modules, IsPart m) {type arguments : String} (ht : IsPart type) (ha : IsArguments arguments)
    (hp : Registrable.typePath fresh = qualified modules type ++ arguments) : proposed fresh = Text.lower type := by
  simp only [proposed, h, Option.getD_none, hp, typeName_qualified hm ht ha, String.ofList_toList]

theorem nameOf_of_admitted {fresh : ι} (h : IsName (proposed fresh)) (hb : ∀ p : Builtin, p.name ≠ proposed fresh) :
    nameOf fresh = .ok (proposed fresh) := by
  have hi := isIdentifier_iff.mpr h
  have hn : proposed fresh ∉ Builtin.names := fun h => (Builtin.mem_names_iff.mp h).elim hb
  unfold proposed at hi hn ⊢
  simp only [nameOf, hi, if_neg hn]
  rfl

theorem nameOf_of_notName {fresh : ι} (h : ¬ IsName (proposed fresh)) :
    nameOf fresh = .error (.notAnIdentifier (proposed fresh) (Registrable.typePath fresh)) := by
  have hi : isIdentifier (proposed fresh) = false := by
    rw [← Bool.not_eq_true]
    exact mt isIdentifier_iff.mp h
  unfold proposed at hi ⊢
  simp only [nameOf, hi]
  rfl

theorem nameOf_of_builtIn {fresh : ι} {p : Builtin} (h : p.name = proposed fresh) :
    nameOf fresh = .error (.builtIn (proposed fresh)) := by
  have hi := isIdentifier_iff.mpr (h ▸ isName_name p)
  have hn : proposed fresh ∈ Builtin.names := Builtin.mem_names_iff.mpr ⟨p, h⟩
  unfold proposed at hi hn ⊢
  simp only [nameOf, hi, if_pos hn]
  rfl

/-- Only names that are free and well formed are given. -/
theorem admitted_of_nameOf {fresh : ι} {name : String} (h : nameOf fresh = .ok name) :
    name = proposed fresh ∧ IsName name ∧ ∀ p : Builtin, p.name ≠ name := by
  by_cases hi : IsName (proposed fresh)
  · by_cases hb : ∃ p : Builtin, p.name = proposed fresh
    · obtain ⟨p, hp⟩ := hb
      cases (nameOf_of_builtIn hp).symm.trans h
    · have hfree : ∀ p : Builtin, p.name ≠ proposed fresh := fun p hp => hb ⟨p, hp⟩
      obtain rfl := Except.ok.inj ((nameOf_of_admitted hi hfree).symm.trans h)
      exact ⟨rfl, hi, hfree⟩
  · cases (nameOf_of_notName hi).symm.trans h

theorem register_of_ok {fresh : ι} {name : String} (h : nameOf fresh = .ok name) (r : Registry ι) :
    register fresh r = .ok name (r.insert name fresh) := by
  simp only [register, h]
  rfl

theorem register_of_error {fresh : ι} {fault : NameFault} (h : nameOf fresh = .error fault) (r : Registry ι) :
    register fresh r = .error (.invalidProvider fault) r := by
  simp only [register, h]
  rfl

omit [Registrable ι] in
theorem onInstance_of_none {α : Type} {r : Registry ι} {name : String} (h : r.get? name = none) (step : Gen ι α) :
    onInstance name step r = .error (.unsupportedOption "provider" name) r := by
  simp only [onInstance, h]

omit [Registrable ι] in
theorem onInstance_of_some {α : Type} {r : Registry ι} {name : String} {i : ι} (h : r.get? name = some i)
    (step : Gen ι α) : onInstance name step r = Gen.withState (r.insert name) (step i) := by
  simp only [onInstance, h]
  cases step i <;> rfl

theorem isSome_find?_iff {r : Registry ι} {name path : String} :
    (r.find? name path).isSome ↔ (r.get? name).map Registrable.typePath = some path := by
  unfold find?
  cases r.get? name with
  | none => simp
  | some i => simp [Option.filter]

omit [Registrable ι] in
/-- A step on one instance changes that instance and no other. -/
theorem get?_onInstance {α : Type} (r : Registry ι) (name other : String) (step : Gen ι α) :
    (Gen.left (onInstance name step r)).get? other =
      if name = other then (r.get? other).map fun i => Gen.left (step i) else r.get? other := by
  cases h : r.get? name with
  | none =>
    rw [onInstance_of_none h, Gen.left_error]
    split
    · next he =>
      subst he
      rw [h]
      rfl
    · rfl
  | some i =>
    have hl : Gen.left (onInstance name step r) = r.insert name (Gen.left (step i)) := by
      rw [onInstance_of_some h]
      cases step i <;> rfl
    rw [hl]
    split
    · next he =>
      subst he
      rw [SortedMap.get?_insert_self, h]
      rfl
    · next he => exact SortedMap.get?_insert_of_ne r (Ne.symm he) _

end Registry

end SampleData
