import SampleData.Proofs.Answers
import SampleData.Proofs.Facade.Unfailing
import SampleData.Proofs.Random.Samples
import SampleData.Proofs.Text.Fields

/-! # Snippets

Neither a property nor a value contains a separator of style rules, so a rule falls apart into the declarations it was
joined of, and each declaration into its property and its value. An element renders a sample of the attributes of its
tag, and a colour is a sample of the hexadecimal digits.
-/
namespace SampleData

open Gen

namespace Markup

variable {σ ι α : Type} {Q : α → Prop}

theorem yields_drawn {step : StateM σ α} (h : Random.Draws step Q) : Yields (draw step : Facade.Step σ ι α) Q := by
  unfold draw Gen.onFirst
  exact (yields_draw h).focus.focus

variable [SeededSource σ] {st st' : Facade σ ι × Store} {text : String}

theorem exists_of_prose {step : Bundle → Gen σ String} (h : prose step st = .ok text st') :
    ∃ (x : Stocked σ) (built : Facade σ ι × Store) (w : σ), Facade.ensure .text st = .ok x built ∧
      step x.bundle x.words = .ok text w := by
  obtain ⟨x, built, he, _⟩ := exists_of_bind_ok h
  have hp : Facade.onProvider .text (onFirst (Stocked.onWords step)) st = .ok text st' := h
  rw [Facade.onProvider_of_ensure he] at hp
  obtain ⟨part, ho⟩ := exists_of_withState_ok hp
  obtain ⟨_, ho⟩ := exists_of_focus_ok ho
  obtain ⟨w, ho⟩ := exists_of_focus_ok ho
  exact ⟨x, built, w, he, ho⟩

def IsColor (text : String) : Prop := ∃ digits : List Char, text = String.ofList ('#' :: digits) ∧ digits.length = 6 ∧
  digits.Nodup ∧ ∀ c ∈ digits, c ∈ "0123456789ABCDEF".toList

theorem draws_hexColor {σ : Type} [WordSource σ] : Random.Draws (Prose.hexColor : StateM σ String) IsColor := by
  refine (Random.draws_chooseSome Prose.hexDigits 6).bind ?_
  rintro digits ⟨hsub, hlen⟩
  have hnodup := Random.nodup_map_of_subperm (f := id) hsub (by decide)
  rw [List.map_id] at hnodup
  have htable : Prose.hexDigits = "0123456789ABCDEF".toList := by decide
  exact Random.draws_pure ⟨digits, rfl, hlen, hnodup, fun c hc => htable ▸ hsub.subset hc⟩

def StyleValue.choices : StyleValue → List String
  | .choice values => values.toList
  | _ => []

def StyleValue.Permits : StyleValue → String → Prop
  | .choice values, value => value ∈ values.toList
  | .color, value => IsColor value
  | .size, value => ∃ n unit, 1 ≤ n ∧ n ≤ 99 ∧ (toString n).toList.head? ≠ some '0' ∧ unit ∈ sizeUnits.toList ∧
    value = toString n ++ unit

/-- The characters that hold a rule together. -/
def marks : List Char := [';', ':', '{', '}']

def IsClear (text : String) : Prop := ∀ c ∈ text.toList, c ∉ marks

instance (text : String) : Decidable (IsClear text) := List.decidableBAll _ _

/-- The texts of the tables. -/
theorem isClear_of_mem : (∀ e ∈ properties.toList, ∀ text ∈ e.1 :: e.2.choices, IsClear text) ∧
    ∀ unit ∈ sizeUnits.toList, IsClear unit := by
  decide +kernel

theorem IsClear.append {text more : String} (h : IsClear text) (hm : IsClear more) : IsClear (text ++ more) := by
  intro c hc
  rw [String.toList_append] at hc
  exact (List.mem_append.mp hc).elim (h c) (hm c)

/-- What holds of every character of a text and of no mark shows that the text is clear. -/
theorem IsClear.of_forall {text : String} (P : Char → Bool) (h : ∀ c ∈ text.toList, P c = true)
    (hmarks : marks.any P = false) : IsClear text := by
  intro c hc hm
  exact List.any_eq_false.mp hmarks c hm (h c hc)

theorem isClear_toString (n : ℕ) : IsClear (toString n) :=
  .of_forall Text.isDigit (Text.areDigits_toString n) (by decide)

theorem IsColor.isClear {text : String} (h : IsColor text) : IsClear text := by
  obtain ⟨digits, rfl, _, _, hd⟩ := h
  refine .of_forall ("#0123456789ABCDEF".toList.contains ·) (fun c hc => ?_) (by decide)
  have hall : '#' :: digits ⊆ "#0123456789ABCDEF".toList := List.cons_subset_cons '#' hd
  rw [String.toList_ofList] at hc
  exact List.contains_iff_mem.mpr (hall hc)

/-- No value of a property has a character that holds a rule together. -/
theorem StyleValue.Permits.isClear {property value : String} {kind : StyleValue}
    (hk : (property, kind) ∈ properties.toList) (h : kind.Permits value) : IsClear value := by
  cases kind with
  | choice values => exact isClear_of_mem.1 _ hk value (List.mem_cons_of_mem _ h)
  | color => exact IsColor.isClear h
  | size =>
    obtain ⟨n, unit, _, _, _, hu, rfl⟩ := h
    exact (isClear_toString n).append (isClear_of_mem.2 unit hu)

def IsDeclaration (text : String) : Prop := ∃ property kind value,
  (property, kind) ∈ properties.toList ∧ kind.Permits value ∧ text = property ++ ": " ++ value

theorem yields_styleValue (kind : StyleValue) :
    Yields (styleValue kind : Facade.Step σ ι String) kind.Permits := by
  cases kind with
  | choice values => exact yields_drawn (Random.draws_choose values)
  | color =>
    intro st value st' h
    obtain ⟨x, _, w, _, ho⟩ := exists_of_prose h
    exact yields_draw draws_hexColor _ value w ho
  | size =>
    refine yields_drawn ((Random.draws_unsigned (by decide)).bind ?_)
    rintro amount ⟨hlo, hhi⟩
    refine (Random.draws_choose sizeUnits).bind fun unit hu => Random.draws_pure ?_
    have hhead : ∀ n < 100, 1 ≤ n → (toString n).toList.head? ≠ some '0' := by decide +kernel
    exact ⟨amount.toNat, unit, hlo, hhi, hhead _ (Nat.lt_succ_of_le hhi) hlo, hu, rfl⟩

/-- A declaration is a property with a value that the property permits. -/
theorem yields_declaration : Yields (declaration : Facade.Step σ ι String) IsDeclaration := by
  refine (yields_drawn (Random.draws_choose properties)).bind ?_
  rintro ⟨property, kind⟩ hk
  exact (yields_styleValue kind).bind fun value hv => yields_pure ⟨property, kind, value, hk, hv, rfl⟩

/-- A declaration falls apart at its only colon. -/
theorem IsDeclaration.pieces {text : String} (h : IsDeclaration text) : ∃ property kind value,
    (property, kind) ∈ properties.toList ∧ kind.Permits value ∧
      Text.piecesAtPair ':' ' ' text.toList = [property.toList, value.toList] := by
  obtain ⟨property, kind, value, hk, hv, rfl⟩ := h
  have hproperty : ':' ∉ property.toList := fun hc => isClear_of_mem.1 _ hk property List.mem_cons_self ':' hc (by decide)
  have hvalue : ':' ∉ value.toList := fun hc => hv.isClear hk ':' hc (by decide)
  have htext : (property ++ ": " ++ value).toList = property.toList ++ ':' :: ' ' :: value.toList := by simp
  refine ⟨property, kind, value, hk, hv, ?_⟩
  rw [htext, Text.piecesAtPair_append hproperty, Text.piecesAtPair_of_notMem hvalue]

/-- No mark but the colon is in a declaration. -/
theorem IsDeclaration.notMem {text : String} (h : IsDeclaration text) {c : Char} (hm : c ∈ marks) (hc : c ≠ ':') :
    c ∉ text.toList := by
  obtain ⟨property, kind, value, hk, hv, rfl⟩ := h
  have hblank : ' ' ∉ marks := by decide
  rw [String.toList_append, String.toList_append, List.mem_append, List.mem_append]
  rintro ((hp | hs) | hp)
  · exact isClear_of_mem.1 _ hk property List.mem_cons_self c hp hm
  · rcases List.mem_pair.mp hs with rfl | rfl
    · exact hc rfl
    · exact hblank hm
  · exact hv.isClear hk c hp hm

/-- What a rule may stand for, where the words are those of the bundle. -/
def IsBase (b : Bundle) (base : String) : Prop :=
  base ∈ containers.toList.map Prod.fst ∨ base ∈ markupTags.toList ∨ ∃ mark items word,
    (mark = "." ∨ mark = "#") ∧ b.list "words" = .ok items ∧ .str word ∈ items ∧ base = mark ++ word

/-- A rule is made of a base, which is a name or a word of the bundle, and of declarations between braces. -/
theorem exists_of_rule (h : rule st = .ok text st') : ∃ (x : Stocked σ) (built mid : Facade σ ι × Store)
    (base : String) (count : ℕ) (declarations : List String), Facade.ensure .text st = .ok x built ∧
    IsBase x.bundle base ∧ 1 ≤ count ∧ count ≤ 6 ∧ Random.times count declaration mid = .ok declarations st' ∧
    text = base ++ " \x7b" ++ "; ".intercalate declarations ++ "\x7d" := by
  obtain ⟨word, _, hword, h⟩ := exists_of_bind_ok h
  obtain ⟨mark, _, hmark, h⟩ := exists_of_bind_ok h
  obtain ⟨⟨container, attributes⟩, _, hcontainer, h⟩ := exists_of_bind_ok h
  obtain ⟨tag, _, htag, h⟩ := exists_of_bind_ok h
  obtain ⟨base, _, _, h⟩ := exists_of_bind_ok h
  obtain ⟨count, mid, hcount, h⟩ := exists_of_bind_ok h
  obtain ⟨declarations, _, hdeclarations, h⟩ := exists_of_bind_ok h
  cases h
  obtain ⟨x, built, w, he, hpick⟩ := exists_of_prose hword
  obtain ⟨items, hl, hi⟩ := Bundle.exists_of_pick hpick
  obtain ⟨hlo, hhi⟩ := yields_drawn (Random.draws_unsigned (by decide)) _ _ _ hcount
  refine ⟨x, built, mid, _, count.toNat, declarations, he, ?_, hlo, hhi, hdeclarations, rfl⟩
  split
  · exact .inl (List.mem_map_of_mem (yields_drawn (Random.draws_choose containers) _ _ _ hcontainer))
  · split
    · exact .inr (.inl (yields_drawn (Random.draws_choose markupTags) _ _ _ htag))
    · have hm : mark ∈ [".", "#"] := yields_drawn (Random.draws_choose selectorMarks) _ _ _ hmark
      rw [List.mem_pair] at hm
      exact .inr (.inr ⟨mark, items, word, hm, hl, hi, rfl⟩)

/-- The parts that the text of a rule falls apart into. There is no brace behind the base but the two of the body, and
a declaration falls apart into a property and a value of its kind. -/
structure IsRule (b : Bundle) (text base body : String) (declarations : List String) : Prop where
  written : text = base ++ " \x7b" ++ body ++ "\x7d"
  base : IsBase b base
  unbraced : '{' ∉ body.toList ∧ '}' ∉ body.toList
  nonempty : 1 ≤ declarations.length
  few : declarations.length ≤ 6
  pieces : Text.piecesAtPair ';' ' ' body.toList = declarations.map String.toList
  declared : ∀ d ∈ declarations, ∃ property kind value, (property, kind) ∈ properties.toList ∧ kind.Permits value ∧
    Text.piecesAtPair ':' ' ' d.toList = [property.toList, value.toList]

theorem isRule_of_declarations {b : Bundle} {base : String} {declarations : List String} (hbase : IsBase b base)
    (hlo : 1 ≤ declarations.length) (hhi : declarations.length ≤ 6) (h : ∀ d ∈ declarations, IsDeclaration d) :
    IsRule b (base ++ " \x7b" ++ "; ".intercalate declarations ++ "\x7d") base ("; ".intercalate declarations)
      declarations := by
  have hbody : ("; ".intercalate declarations).toList = [';', ' '].intercalate (declarations.map String.toList) :=
    String.toList_intercalate
  have hclear : ∀ c ∈ marks, c ≠ ':' → ∀ p ∈ declarations.map String.toList, c ∉ p := by
    intro c hm hc p hp
    obtain ⟨d, hd, rfl⟩ := List.mem_map.mp hp
    exact (h d hd).notMem hm hc
  have hunbraced : '{' ∉ ("; ".intercalate declarations).toList ∧ '}' ∉ ("; ".intercalate declarations).toList := by
    rw [hbody]
    constructor
    · exact Text.notMem_intercalate (by decide) (hclear '{' (by decide) (by decide))
    · exact Text.notMem_intercalate (by decide) (hclear '}' (by decide) (by decide))
  have hne : declarations.map String.toList ≠ [] := by
    rw [← List.length_pos_iff, List.length_map]
    exact hlo
  refine ⟨rfl, hbase, hunbraced, hlo, hhi, ?_, fun d hd => (h d hd).pieces⟩
  rw [hbody]
  exact Text.piecesAtPair_intercalate hne (hclear ';' (by decide) (by decide))

/-- A rule falls apart into the declarations that were made for it, and its base is a tag or names a word of the
bundle. -/
theorem rule_parses (h : rule st = .ok text st') : ∃ (x : Stocked σ) (built mid : Facade σ ι × Store)
    (base body : String) (declarations : List String), Facade.ensure .text st = .ok x built ∧
    Random.times declarations.length declaration mid = .ok declarations st' ∧
    IsRule x.bundle text base body declarations := by
  obtain ⟨x, built, mid, base, count, declarations, he, hbase, hlo, hhi, ht, rfl⟩ := exists_of_rule h
  obtain ⟨rfl, hall⟩ := yields_declaration.times count mid declarations st' ht
  exact ⟨x, built, mid, base, _, declarations, he, ht, isRule_of_declarations hbase hlo hhi hall⟩

def served : Facade Keystream Empty × Store :=
  Facade.after (Facade.new Facade.russianContext, Assets.store) Facade.mixedRun

theorem unfailing_served : Facade.Unfailing served := by
  have hl : Facade.russianContext.locale ∈ Assets.locales := by decide +kernel
  have he := Assets.equips_of_mem_locales hl
  have hs : Store.Faithful Assets.source Assets.store := Store.faithful_ofSource Assets.source
  exact Facade.unfailing_of_sound he (Facade.sound_after he Facade.mixedRun (Facade.sound_new _ hs))

theorem rule_parses_served : ∃ text st', rule served = .ok text st' ∧
    ∃ (b : Bundle) (base body : String) (declarations : List String), IsRule b text base body declarations := by
  obtain ⟨text, st', ho⟩ := unfailing_served.rule
  obtain ⟨x, _, _, base, body, declarations, _, _, hr⟩ := rule_parses ho
  exact ⟨text, st', ho, x.bundle, base, body, declarations, hr⟩

def assignment (entry : String × AttributeValue) (value : String) : String := entry.1 ++ "=\"" ++ value ++ "\""

/-- A container around a content. Its attributes are some of those that the container may have, none of them twice. -/
structure IsElement (text tag content : String) (attributes : Table (String × AttributeValue))
    (chosen : List (String × AttributeValue)) (values : List String) : Prop where
  listed : (tag, attributes) ∈ containers.toList
  part : List.Subperm chosen attributes.toList
  distinct : (chosen.map Prod.fst).Nodup
  nonempty : 1 ≤ chosen.length
  atMostAll : chosen.length ≤ attributes.toList.length
  valued : values.length = chosen.length
  written : text = "<" ++ tag ++ " " ++ " ".intercalate (List.zipWith assignment chosen values) ++ ">" ++ content ++
    "</" ++ tag ++ ">"

/-- No container has an attribute twice, and each has one at least. -/
theorem attributes_table : ∀ e ∈ containers.toList, (e.2.toList.map Prod.fst).Nodup ∧
    1 ≤ UInt32.ofNat e.2.toList.length := by
  decide +kernel

theorem mapM_assignment (chosen : List (String × AttributeValue)) :
    chosen.mapM (fun (name, kind) => do return name ++ "=\"" ++ (← attributeValue kind) ++ "\"") =
      (List.zipWith assignment chosen <$> inTurn (fun e => attributeValue e.2) chosen : Facade.Step σ ι _) := by
  have hstep : (fun e : String × AttributeValue => assignment e <$> (attributeValue e.2 : Facade.Step σ ι String)) = _ :=
    funext fun e => map_eq_pure_bind (assignment e) (attributeValue e.2)
  rw [mapM_eq_inTurn, ← inTurn_map_zip, hstep]
  rfl

/-- An element is a container with some of its attributes around a sentence. -/
theorem exists_of_element (h : element st = .ok text st') : ∃ (mid mid' : Facade σ ι × Store) (tag content : String)
    (attributes : Table (String × AttributeValue)) (chosen : List (String × AttributeValue)) (values : List String),
    inTurn (fun e => attributeValue e.2) chosen mid = .ok values mid' ∧ prose Prose.sentence mid' = .ok content st' ∧
    IsElement text tag content attributes chosen values := by
  obtain ⟨⟨tag, attributes⟩, _, hcontainer, h⟩ := exists_of_bind_ok h
  obtain ⟨count, _, hcount, h⟩ := exists_of_bind_ok h
  obtain ⟨chosen, mid, hchosen, h⟩ := exists_of_bind_ok h
  obtain ⟨rendered, mid', hrendered, h⟩ := exists_of_bind_ok h
  obtain ⟨content, _, hcontent, h⟩ := exists_of_bind_ok h
  cases h
  have htag := yields_drawn (Random.draws_choose containers) _ _ _ hcontainer
  obtain ⟨hdistinct, hle⟩ := attributes_table _ htag
  obtain ⟨hlo, _⟩ := yields_drawn (Random.draws_unsigned hle) _ _ _ hcount
  obtain ⟨hsub, hsize⟩ := yields_drawn (Random.draws_chooseSome attributes.toList count.toNat) _ _ _ hchosen
  have hsome : 1 ≤ chosen.length := by
    rw [hsize]
    exact Nat.le_min.mpr ⟨hlo, Nat.succ_pos _⟩
  rw [mapM_assignment] at hrendered
  obtain ⟨values, hvalues, rfl⟩ := exists_of_map_ok hrendered
  exact ⟨mid, mid', tag, content, attributes, chosen, values, hvalues, hcontent, htag, hsub,
    Random.nodup_map_of_subperm hsub hdistinct, hsome, hsub.length_le, length_of_inTurn hvalues, rfl⟩

/-- What is chosen without replacement: some items of a list, the digits of a colour, the attributes of an element. -/
theorem samples_distinct :
    (∀ {σ α : Type} [WordSource σ] (items : List α) (count : ℕ) (w : σ),
      List.Subperm (Random.chooseSome items count w).1 items ∧
        (Random.chooseSome items count w).1.length = min count items.length) ∧
    (∀ {σ : Type} [WordSource σ] (w : σ), IsColor (Prose.hexColor w).1) ∧
    ∀ {σ ι : Type} [SeededSource σ] {st st' : Facade σ ι × Store} {text : String}, element st = .ok text st' →
      ∃ (mid mid' : Facade σ ι × Store) (tag content : String) (attributes : Table (String × AttributeValue))
        (chosen : List (String × AttributeValue)) (values : List String),
        inTurn (fun e => attributeValue e.2) chosen mid = .ok values mid' ∧
        prose Prose.sentence mid' = .ok content st' ∧ IsElement text tag content attributes chosen values :=
  ⟨fun items count w => Random.draws_chooseSome items count w, fun w => draws_hexColor w, exists_of_element⟩

theorem samples_distinct_served : ∃ text st', element served = .ok text st' ∧
    ∃ tag content attributes chosen values, IsElement text tag content attributes chosen values := by
  obtain ⟨text, st', ho⟩ := unfailing_served.element
  obtain ⟨_, _, tag, content, attributes, chosen, values, _, _, he⟩ := samples_distinct.2.2 ho
  exact ⟨text, st', ho, tag, content, attributes, chosen, values, he⟩

end Markup

end SampleData
