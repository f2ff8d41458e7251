import SampleData.Proofs.Provider.Supply
import SampleData.Proofs.Random.Reached
import SampleData.Provider.Address

/-! # Templates of addresses

A template is well formed if it can be cut into pieces that are either the placeholder of a value or a text without an
opening brace. The templates that an address can be made from are these and no others. The values are generated in the
order of their placeholders and take their places; whatever they contain, they are not looked at again.
-/
namespace SampleData.Address

open Gen

inductive Value where
  | streetNumber
  | streetName
  | streetSuffix
  | city

def Value.name : Value → String
  | .streetNumber => "st_num"
  | .streetName => "st_name"
  | .streetSuffix => "st_sfx"
  | .city => "city"

inductive Piece where
  | literal (text : List Char) (plain : '{' ∉ text)
  | value (v : Value)

def Piece.written : Piece → List Char
  | .literal text _ => text
  | .value v => '{' :: (v.name.toList ++ ['}'])

def written (pieces : List Piece) : List Char := pieces.flatMap Piece.written

def Piece.value? : Piece → Option Value
  | .literal _ _ => none
  | .value v => some v

def values (pieces : List Piece) : List Value := pieces.filterMap Piece.value?

/-- The pieces with one text after the other in the places of the values. -/
def filled : List Piece → List String → List Char
  | [], _ => []
  | .literal text _ :: pieces, texts => text ++ filled pieces texts
  | .value _ :: pieces, texts => texts.headI.toList ++ filled pieces texts.tail

theorem partsFrom_plain {text : List Char} (h : '{' ∉ text) (rest : List Char) :
    partsFrom none (text ++ rest) = text.map .literal ++ partsFrom none rest := by
  induction text with
  | nil => rfl
  | cons c text ih =>
    have hc : c ≠ '{' := (List.ne_of_not_mem_cons h).symm
    rw [List.cons_append, partsFrom, if_neg hc, ih (List.not_mem_of_not_mem_cons h)]
    rfl

theorem partsFrom_opened {name : List Char} (h : '}' ∉ name) (opened rest : List Char) :
    partsFrom (some opened) (name ++ '}' :: rest) = .placeholder (opened.reverse ++ name) :: partsFrom none rest := by
  induction name generalizing opened with
  | nil => simp [partsFrom]
  | cons c name ih =>
    have hc : c ≠ '}' := (List.ne_of_not_mem_cons h).symm
    rw [List.cons_append, partsFrom, if_neg hc, ih (List.not_mem_of_not_mem_cons h), List.reverse_cons, List.append_assoc]
    rfl

def Piece.parts : Piece → List Part
  | .literal text _ => text.map .literal
  | .value v => [.placeholder v.name.toList]

/-- The scan of a text that is written from pieces finds these pieces again. -/
theorem partsFrom_written (pieces : List Piece) : partsFrom none (written pieces) = pieces.flatMap Piece.parts := by
  induction pieces with
  | nil => rfl
  | cons piece pieces ih =>
    unfold written at ih ⊢
    rw [List.flatMap_cons, List.flatMap_cons, ← ih]
    cases piece with
    | literal text plain => exact partsFrom_plain plain _
    | value v =>
      have hn : '}' ∉ v.name.toList := by cases v <;> decide
      have hp := partsFrom_opened hn [] (pieces.flatMap Piece.written)
      simpa [Piece.written, Piece.parts, partsFrom] using hp

def Part.Known : Part → Prop
  | .literal _ => True
  | .placeholder name => ∃ v : Value, v.name.toList = name
  | .unclosed => False

/-- The characters that a scan has read without a part to show for them. -/
def pendingText : Option (List Char) → List Char
  | none => []
  | some opened => '{' :: opened.reverse

theorem exists_pieces {state : Option (List Char)} {cs : List Char} (h : ∀ part ∈ partsFrom state cs, part.Known) :
    ∃ pieces, written pieces = pendingText state ++ cs := by
  fun_induction partsFrom state cs with
  | case1 => exact ⟨[], rfl⟩
  | case2 opened => exact absurd (h .unclosed List.mem_cons_self) not_false
  | case3 cs ih =>
    obtain ⟨pieces, hp⟩ := ih h
    exact ⟨pieces, hp⟩
  | case4 c cs hc ih =>
    obtain ⟨pieces, hp⟩ := ih (List.forall_mem_cons.mp h).2
    refine ⟨.literal [c] (by simpa using Ne.symm hc) :: pieces, ?_⟩
    unfold written at hp ⊢
    rw [List.flatMap_cons, hp]
    rfl
  | case5 opened cs ih =>
    obtain ⟨⟨v, hv⟩, hrest⟩ := List.forall_mem_cons.mp h
    obtain ⟨pieces, hp⟩ := ih hrest
    refine ⟨.value v :: pieces, ?_⟩
    unfold written at hp ⊢
    rw [List.flatMap_cons, hp, Piece.written, hv]
    simp [pendingText]
  | case6 opened c cs hc ih =>
    obtain ⟨pieces, hp⟩ := ih h
    refine ⟨pieces, ?_⟩
    rw [hp]
    simp [pendingText]

/-- The texts that are written from pieces are those whose scan finds nothing unknown. -/
theorem exists_written_iff {cs : List Char} :
    (∃ pieces, written pieces = cs) ↔ ∀ part ∈ partsFrom none cs, part.Known := by
  constructor
  · rintro ⟨pieces, rfl⟩ part hpart
    rw [partsFrom_written] at hpart
    obtain ⟨piece, _, hp⟩ := List.mem_flatMap.mp hpart
    cases piece with
    | literal text plain =>
      obtain ⟨c, _, rfl⟩ := List.mem_map.mp hp
      trivial
    | value v =>
      rw [List.mem_singleton.mp hp]
      exact ⟨v, rfl⟩
  · exact exists_pieces

variable {σ : Type} [WordSource σ] {b : Bundle}

def Value.draw (b : Bundle) : Value → Gen σ String
  | .streetNumber => Address.streetNumber 1400
  | .streetName => Address.streetName b
  | .streetSuffix => Address.streetSuffix b
  | .city => Address.city b

theorem valueOf_name (b : Bundle) (v : Value) : (valueOf b v.name : Gen σ String) = v.draw b := by
  cases v <;> rfl

theorem valueOf_of_unknown {name : String} (h : ¬ ∃ v : Value, v.name = name) :
    (valueOf b name : Gen σ String) = throw (.invalidBundle (.unknownPlaceholder name b.locale)) := by
  have hne : ∀ v : Value, ¬ name = v.name := fun v hv => h ⟨v, hv.symm⟩
  have hnumber : ¬ name = "st_num" := hne .streetNumber
  have hname : ¬ name = "st_name" := hne .streetName
  have hsuffix : ¬ name = "st_sfx" := hne .streetSuffix
  have hcity : ¬ name = "city" := hne .city
  unfold valueOf
  rw [if_neg hnumber, if_neg hname, if_neg hsuffix, if_neg hcity]

def valuePaths : List String := ["street.name", "street.suffix", "city"]

theorem succeeds_streetNumber {greatest : UInt32} (h : greatest ≠ 0) :
    Succeeds Anywhere (streetNumber greatest : Gen σ String) Any := by
  unfold streetNumber
  simp only [h, if_false]
  exact (succeeds_drawn _).bind fun _ _ => succeeds_pure trivial

theorem succeeds_value (h : ∀ path ∈ valuePaths, Succeeds Anywhere (b.pick path : Gen σ String) Any) (v : Value) :
    Succeeds Anywhere (v.draw b : Gen σ String) Any := by
  cases v with
  | streetNumber =>
    have hn : Succeeds Anywhere (streetNumber 1400 : Gen σ String) Any := succeeds_streetNumber (by decide)
    exact hn
  | streetName => exact h "street.name" (by decide)
  | streetSuffix => exact h "street.suffix" (by decide)
  | city => exact h "city" (by decide)

/-- The lists hold texts, and one at least. -/
def Listed (b : Bundle) : Prop := ∀ path ∈ valuePaths, ∃ texts, b.strings path = .ok texts ∧ texts ≠ []

theorem Listed.succeeds_value (h : Listed b) (v : Value) : Succeeds Anywhere (v.draw b : Gen σ String) Any := by
  refine Address.succeeds_value (fun path hp => ?_) v
  obtain ⟨texts, hs, hne⟩ := h path hp
  exact (Bundle.succeeds_pick_of_strings hs hne).any

theorem inTurn_literals (template : String) (text : List Char) :
    inTurn (renderPart b template : Part → Gen σ (List Char)) (text.map .literal) = pure (text.map ([·])) := by
  induction text with
  | nil => rfl
  | cons c text ih =>
    rw [List.map_cons, inTurn_cons, ih]
    rfl

theorem inTurn_placeholder (template : String) (v : Value) :
    inTurn (renderPart b template : Part → Gen σ (List Char)) [.placeholder v.name.toList] =
      (fun text => [text.toList]) <$> v.draw b := by
  have hr : (renderPart b template (.placeholder v.name.toList) : Gen σ (List Char)) = String.toList <$> v.draw b := by
    rw [renderPart, String.ofList_toList, valueOf_name]
  have hnone : inTurn (renderPart b template : Part → Gen σ (List Char)) [] = pure [] := rfl
  rw [inTurn_cons, hr, hnone, bind_map_left]
  simp only [map_eq_pure_bind, pure_bind]

/-- A template made of pieces is rendered by generating its values one after the other. -/
theorem inTurn_parts (template : String) (pieces : List Piece) :
    List.flatten <$> inTurn (renderPart b template : Part → Gen σ (List Char)) (pieces.flatMap Piece.parts) =
      filled pieces <$> inTurn (Value.draw b) (values pieces) := by
  induction pieces with
  | nil => rfl
  | cons piece pieces ih =>
    have hbehind : ∀ text : List Char,
        (fun texts => text ++ List.flatten texts) <$> inTurn (renderPart b template) (pieces.flatMap Piece.parts) =
          (fun texts => text ++ filled pieces texts) <$> inTurn (Value.draw b : Value → Gen σ String) (values pieces) := by
      intro text
      have hi := congrArg ((text ++ ·) <$> ·) ih
      simpa only [Functor.map_map] using hi
    rw [List.flatMap_cons, inTurn_append]
    cases piece with
    | literal text plain =>
      have hv : values (.literal text plain :: pieces) = values pieces := rfl
      have ht : (text.map ([·])).flatten = text := by rw [← List.flatMap_def, List.flatMap_singleton']
      rw [Piece.parts, inTurn_literals, pure_bind, hv]
      simpa only [Functor.map_map, List.flatten_append, ht, filled] using hbehind text
    | value v =>
      have hv : values (.value v :: pieces) = v :: values pieces := rfl
      rw [Piece.parts, inTurn_placeholder, hv, inTurn_cons, map_bind, map_bind, bind_map_left]
      refine congrArg (v.draw b >>= ·) (funext fun text => ?_)
      simpa only [Functor.map_map, List.flatten_append, List.flatten_singleton, filled, List.headI_cons,
        List.tail_cons] using hbehind text.toList

theorem address_eq {template : String} (ht : b.string "address_fmt" = .ok template) :
    (address b : Gen σ String) = (fun texts => String.ofList texts.flatten) <$>
      inTurn (renderPart b template) (partsFrom none template.toList) := by
  have htext : (b.text "address_fmt" : Gen σ String) = pure template := by simp only [Bundle.text, ht]
  unfold address
  rw [htext, pure_bind, mapM_eq_inTurn, map_eq_pure_bind]

/-- The values of a template are drawn in their order and take their places between its literal pieces. -/
theorem address_of_pieces {template : String} (ht : b.string "address_fmt" = .ok template) {pieces : List Piece}
    (hp : written pieces = template.toList) :
    (address b : Gen σ String) = (fun texts => String.ofList (filled pieces texts)) <$> inTurn (Value.draw b) (values pieces) := by
  have hi := congrArg (String.ofList <$> ·) (inTurn_parts (σ := σ) (b := b) template pieces)
  rw [address_eq ht, ← hp, partsFrom_written]
  simpa only [Functor.map_map] using hi

theorem succeeds_renderPart (hd : ∀ v : Value, Succeeds Anywhere (v.draw b : Gen σ String) Any) (template : String)
    {part : Part} (hp : part.Known) : Succeeds Anywhere (renderPart b template part : Gen σ (List Char)) Any := by
  cases part with
  | literal c => exact succeeds_pure trivial
  | unclosed => exact hp.elim
  | placeholder name =>
    obtain ⟨v, rfl⟩ := hp
    rw [renderPart, String.ofList_toList, valueOf_name]
    exact (hd v).map fun _ _ => trivial

/-- A part that stands for nothing is a fault of the bundle, and nothing is drawn for it. -/
theorem renderPart_of_unknown {template : String} {part : Part} (hp : ¬ part.Known) (w : σ) :
    ∃ fault, renderPart b template part w = .error (.invalidBundle fault) w := by
  cases part with
  | literal c => exact absurd trivial hp
  | unclosed => exact ⟨_, rfl⟩
  | placeholder name =>
    have hunknown : ¬ ∃ v : Value, v.name = String.ofList name := by
      rintro ⟨v, hv⟩
      exact hp ⟨v, by rw [hv, String.toList_ofList]⟩
    rw [renderPart, valueOf_of_unknown hunknown]
    exact ⟨_, rfl⟩

structure Renders (b : Bundle) (template : String) (w : σ) : Prop where
  accepted : (∃ text w', address b w = .ok text w') ↔ ∃ pieces, written pieces = template.toList
  /-- However the template is cut into pieces, the values are generated in their order, and take their places. -/
  rendered : ∀ pieces, written pieces = template.toList → ∃ texts w', inTurn (Value.draw b) (values pieces) w = .ok texts w' ∧
    address b w = .ok (String.ofList (filled pieces texts)) w'
  refused : (¬ ∃ pieces, written pieces = template.toList) → ∃ fault w', address b w = .error (.invalidBundle fault) w'

/-- Whatever the source yields, the template of a bundle is filled as it says or refused for what it says. -/
theorem renders_template {template : String} (ht : b.string "address_fmt" = .ok template) (hl : Listed b) (w : σ) :
    Renders b template w := by
  have hrendered : ∀ pieces, written pieces = template.toList → ∃ texts w',
      inTurn (Value.draw b) (values pieces) w = .ok texts w' ∧
        address b w = .ok (String.ofList (filled pieces texts)) w' := by
    intro pieces hp
    obtain ⟨texts, w', ho, _⟩ := (Succeeds.inTurn fun v _ => hl.succeeds_value v) w trivial
    refine ⟨texts, w', ho, ?_⟩
    rw [address_of_pieces ht hp]
    exact map_of_ok ho
  have haccepted : (∃ text w', address b w = .ok text w') → ∃ pieces, written pieces = template.toList := by
    rintro ⟨text, w', ho⟩
    rw [address_eq ht] at ho
    obtain ⟨texts, hs, _⟩ := exists_of_map_ok ho
    refine exists_written_iff.mpr fun part hpart => ?_
    obtain ⟨rendered, before, behind, hr⟩ := exists_ok_of_mem_inTurn hs hpart
    by_contra hk
    obtain ⟨fault, he⟩ := renderPart_of_unknown hk before
    cases hr.symm.trans he
  refine ⟨⟨haccepted, ?_⟩, hrendered, ?_⟩
  · rintro ⟨pieces, hp⟩
    obtain ⟨texts, w', _, ho⟩ := hrendered pieces hp
    exact ⟨_, w', ho⟩
  · intro hn
    cases ho : address b w with
    | ok text w' => exact absurd (haccepted ⟨text, w', ho⟩) hn
    | error e w' =>
      rw [address_eq ht] at ho
      obtain ⟨part, _, before, hr⟩ := exists_of_inTurn_error (eq_error_of_map ho)
      by_cases hk : part.Known
      · obtain ⟨text, behind, hs, _⟩ := succeeds_renderPart hl.succeeds_value template hk before trivial
        cases hr.symm.trans hs
      · obtain ⟨fault, he⟩ := renderPart_of_unknown hk before
        cases hr.symm.trans he
        exact ⟨fault, w', rfl⟩

def strayTemplate : String := "\x7bcity\x7d, \x7bst_num\x7d\x7d \x7bst_name\x7d"

/-- The one city looks like a placeholder. -/
def bracedBundle : Bundle where
  domain := domain
  locale := Locale.standard
  data := .object [("address_fmt", .str strayTemplate), ("city", Json.ofStrings ["\x7bcity\x7d"]),
    ("street", .object [("name", Json.ofStrings ["Elm"]), ("suffix", Json.ofStrings ["Street"])])]

/-- What looks like a placeholder in a value is not filled again. -/
theorem renders_template_stray : bracedBundle.string "address_fmt" = .ok strayTemplate ∧ Listed bracedBundle ∧
    Renders bracedBundle strayTemplate WordStream.zeros ∧
    answer (address bracedBundle WordStream.zeros) = .ok "\x7bcity\x7d, 1\x7d Elm" := by
  have ht : bracedBundle.string "address_fmt" = .ok strayTemplate := rfl
  have hl : Listed bracedBundle := by
    simp only [Listed, valuePaths, List.forall_mem_cons, List.not_mem_nil, false_implies, implies_true, and_true]
    exact ⟨⟨["Elm"], rfl, by decide⟩, ⟨["Street"], rfl, by decide⟩, ⟨["\x7bcity\x7d"], rfl, by decide⟩⟩
  exact ⟨ht, hl, renders_template ht hl _, rfl⟩

end SampleData.Address
