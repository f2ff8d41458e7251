import SampleData.Facade.Request
import SampleData.Proofs.Facade.Calls
import SampleData.Proofs.Facade.Script

/-! # Requests as scripts

Every request to the built-in providers of a facade is a script that runs on the facade. A snippet of style or
markup is nothing but calls on text and internet and draws from the stream behind markup.
-/
namespace SampleData

namespace Script

variable {σ : Type} [SeededSource σ]

def drawn {β : Type} (step : StateM σ β) : Script σ β := .draw step .answer

def textOf (p : Builtin) (call : p.Call) : Script σ String :=
  .ask p (.method (.typed call)) fun reply => .answer (reply.string?.getD "")

def styleValue : Markup.StyleValue → Script σ String
  | .choice values => drawn (Random.choose values)
  | .color => textOf .text .hexColor
  | .size => drawn Markup.size

def declaration : Script σ String := do
  let (property, kind) ← drawn (Random.choose Markup.properties)
  return property ++ ": " ++ (← styleValue kind)

def rule : Script σ String := do
  let word ← textOf .text .word
  let mark ← drawn (Random.choose Markup.selectorMarks)
  let (container, _) ← drawn (Random.choose Markup.containers)
  let tag ← drawn (Random.choose Markup.markupTags)
  let base ← drawn (Random.index 3)
  let selector := if base = 0 then container else if base = 1 then tag else mark ++ word
  let count ← drawn (Random.unsigned 1 Markup.greatestCount)
  let declarations ← inTurn (fun _ => declaration) (List.replicate count.toNat ())
  return selector ++ " \x7b" ++ "; ".intercalate declarations ++ "\x7d"

def attributeValue : Markup.AttributeValue → Script σ String
  | .choice values => drawn (Random.choose values)
  | .style => declaration
  | .word => textOf .text .word
  | .url => textOf .internet (.homePage .female)

def assignment : String × Markup.AttributeValue → Script σ String
  | (name, kind) => do return name ++ "=\"" ++ (← attributeValue kind) ++ "\""

def element : Script σ String := do
  let (tag, attributes) ← drawn (Random.choose Markup.containers)
  let count ← drawn (Random.unsigned 1 (UInt32.ofNat attributes.toList.length))
  let chosen ← drawn (Random.chooseSome attributes.toList count.toNat)
  let rendered ← inTurn assignment chosen
  let content ← textOf .text .sentence
  return "<" ++ tag ++ " " ++ " ".intercalate rendered ++ ">" ++ content ++ "</" ++ tag ++ ">"

def valueFor (tag name : String) : Script σ String :=
  match Markup.containers.toList.lookup tag with
  | none => .fail (.unsupportedOption "html tag" tag)
  | some attributes =>
    match attributes.toList.lookup name with
    | none => .fail (.unsupportedOption "html attribute" name)
    | some kind => attributeValue kind

def json (provider : String) (items : ℕ) : Script σ Json :=
  match Facade.documentKeys.find? fun e => e.1.name == provider with
  | none => .fail (.unsupportedOption "provider" provider)
  | some (p, key) => .ask p (.records items) fun reply => .answer (Json.ofFields [(key, reply)])

end Script

/-- The script of a request; a request for a name that is not built in has none. -/
def Request.script? (σ : Type) [SeededSource σ] : Request → Option (Script σ Json)
  | .call p c => some (.ask p (.method (.typed c)) .answer)
  | .generate provider field =>
    (Builtin.ofName? provider).map fun p => .ask p (.method (.named field)) .answer
  | .fields provider => (Builtin.ofName? provider).map fun p => .ask p .names .answer
  | .json provider items => some (.json provider items)
  | .declaration => some (Json.str <$> Script.declaration)
  | .rule => some (Json.str <$> Script.rule)
  | .element => some (Json.str <$> Script.element)
  | .attributeValue tag name => some (Json.str <$> Script.valueFor tag name)

namespace Facade

variable {σ ι α β : Type} [SeededSource σ]

def host : Host σ (Facade σ ι × Store) := ⟨fun p q => onProvider p q.perform, Markup.draw⟩

theorem run_drawn (step : StateM σ β) :
    (Script.drawn step).run (host : Host σ (Facade σ ι × Store)) = Markup.draw step :=
  bind_pure (Markup.draw step)

theorem run_textOf {p : Builtin} {call : p.Call} {step : Gen (p.State σ × Store) String}
    (h : p.perform call = Json.str <$> step) :
    (Script.textOf p call).run (host : Host σ (Facade σ ι × Store)) = onProvider p step := by
  have hr : (Script.textOf p call).run (host : Host σ (Facade σ ι × Store)) =
      (fun reply => reply.string?.getD "") <$> onProvider p (p.perform call) :=
    (map_eq_pure_bind _ _).symm
  rw [hr, h, onProvider_map, Functor.map_map]
  exact id_map _

omit [SeededSource σ] in
theorem onWords_map {step : Bundle → Gen σ α} {step' : Bundle → Gen σ β} {f : α → β}
    (h : ∀ b, step' b = f <$> step b) : (Gen.onFirst (Stocked.onWords step') : Gen (Stocked σ × Store) β) =
      f <$> Gen.onFirst (Stocked.onWords step) := by
  have hw : Stocked.onWords step' = f <$> Stocked.onWords step := by
    funext p
    unfold Stocked.onWords
    rw [h]
    exact congrFun (Gen.focus_map ..) p
  rw [hw]
  exact Gen.focus_map ..

theorem run_prose {call : Prose.Call} {step : Bundle → Gen σ String}
    (h : ∀ b, Prose.perform b call = Json.str <$> step b) :
    (Script.textOf .text call).run (host : Host σ (Facade σ ι × Store)) = Markup.prose step := by
  have hp : Builtin.text.perform call =
      Json.str <$> (Gen.onFirst (Stocked.onWords step) : Gen (Stocked σ × Store) String) := onWords_map h
  exact run_textOf hp

theorem run_styleValue (kind : Markup.StyleValue) :
    (Script.styleValue kind).run (host : Host σ (Facade σ ι × Store)) = Markup.styleValue kind := by
  cases kind with
  | choice values => exact run_drawn _
  | size => exact run_drawn _
  | color => exact run_prose fun b => rfl

theorem run_declaration :
    Script.declaration.run (host : Host σ (Facade σ ι × Store)) = Markup.declaration := by
  simp only [Script.declaration, Script.run_bind, Script.run_pure, run_drawn, run_styleValue]
  rfl

theorem run_rule : Script.rule.run (host : Host σ (Facade σ ι × Store)) = Markup.rule := by
  have hw : (Script.textOf .text .word).run (host : Host σ (Facade σ ι × Store)) = Markup.prose Prose.word :=
    run_prose fun b => rfl
  simp only [Script.rule, Script.run_bind, Script.run_pure, run_drawn, hw, Script.run_inTurn, run_declaration,
    ← Gen.times_eq_inTurn]
  rfl

theorem run_attributeValue (kind : Markup.AttributeValue) :
    (Script.attributeValue kind).run (host : Host σ (Facade σ ι × Store)) = Markup.attributeValue kind := by
  cases kind with
  | choice values => exact run_drawn _
  | style => exact run_declaration
  | word => exact run_prose fun b => rfl
  | url =>
    have hp : Builtin.internet.perform (.homePage .female) = Json.str <$>
        (Gen.onFirst (Stocked.onWords (Internet.homePage · .female)) : Gen (Stocked σ × Store) String) :=
      onWords_map fun names => rfl
    exact run_textOf hp

theorem run_element : Script.element.run (host : Host σ (Facade σ ι × Store)) = Markup.element := by
  have hs : (Script.textOf .text .sentence).run (host : Host σ (Facade σ ι × Store)) =
      Markup.prose Prose.sentence := run_prose fun b => rfl
  simp only [Script.element, Script.assignment, Script.run_bind, Script.run_pure, run_drawn, hs,
    Script.run_inTurn, run_attributeValue, ← Gen.mapM_eq_inTurn]
  rfl

theorem run_valueFor (tag name : String) :
    (Script.valueFor tag name).run (host : Host σ (Facade σ ι × Store)) = Markup.valueFor tag name := by
  unfold Script.valueFor Markup.valueFor
  cases Markup.containers.toList.lookup tag with
  | none => rfl
  | some attributes =>
    dsimp only
    cases attributes.toList.lookup name with
    | none => rfl
    | some kind => exact run_attributeValue kind

/-- The script of a document is the document. -/
theorem run_json (provider : String) (items : ℕ) :
    (Script.json provider items).run (host : Host σ (Facade σ ι × Store)) = json provider items := by
  unfold Script.json json
  cases documentKeys.find? fun e => e.1.name == provider with
  | none => rfl
  | some entry =>
    obtain ⟨p, key⟩ := entry
    have hr : (onProvider p (Json.list <$> Random.times items p.record) : Step σ ι Json) =
        Json.list <$> onProvider p (Random.times items p.record) := onProvider_map ..
    have hb := bind_map_left Json.list (onProvider p (Random.times items p.record) : Step σ ι (List Json))
      fun reply => pure (Json.ofFields [(key, reply)])
    rw [← hr] at hb
    exact hb

/-- A request is answered by running its script. -/
theorem answer_eq_run [Registrable ι] {r : Request} {script : Script σ Json} (h : r.script? σ = some script) :
    (answer r : Step σ ι Json) = script.run host := by
  cases r with
  | call p c =>
    cases h
    exact (bind_pure _).symm
  | generate provider field =>
    obtain ⟨p, hp, rfl⟩ := Option.map_eq_some_iff.mp h
    have hg : (generate provider field : Step σ ι Json) = onProvider p (p.performField field) := by
      simp only [generate, hp]
    exact hg.trans (bind_pure _).symm
  | fields provider =>
    obtain ⟨p, hp, rfl⟩ := Option.map_eq_some_iff.mp h
    have hf : (answer (.fields provider) : Step σ ι Json) = onProvider p (pure (Json.ofStrings p.fieldNames)) := by
      rw [onProvider_pure]
      simp only [answer, fields, hp, map_eq_pure_bind, bind_assoc, pure_bind]
    exact hf.trans (bind_pure _).symm
  | json provider items =>
    cases h
    exact (run_json provider items).symm
  | declaration =>
    cases h
    rw [Script.run_map, run_declaration]
    rfl
  | rule =>
    cases h
    rw [Script.run_map, run_rule]
    rfl
  | element =>
    cases h
    rw [Script.run_map, run_element]
    rfl
  | attributeValue tag name =>
    cases h
    rw [Script.run_map, run_valueFor]
    rfl

/-- Only a request to a registered provider has no script, and that is a step on the registered providers. -/
theorem exists_onRegistered_of_unscripted [Registrable ι] {r : Request} (h : r.script? σ = none) :
    ∃ step : Gen (Registry ι) Json, (answer r : Step σ ι Json) = onRegistered step := by
  cases r with
  | generate provider field =>
    have hn : Builtin.ofName? provider = none := Option.map_eq_none_iff.mp h
    refine ⟨Registry.onInstance provider (Registrable.generate field), ?_⟩
    simp only [answer, generate, hn]
  | fields provider =>
    have hn : Builtin.ofName? provider = none := Option.map_eq_none_iff.mp h
    refine ⟨Json.ofStrings <$> Registry.onInstance provider (Registrable.fieldNames <$> get), ?_⟩
    simp only [answer, fields, hn, onRegistered, Gen.onFirst, Gen.focus_map]
  | _ => cases h

end Facade

def Request.targets : Request → List Builtin
  | .call p _ => [p]
  | .generate provider _ => (Builtin.ofName? provider).toList
  | .fields provider => (Builtin.ofName? provider).toList
  | .json provider _ => (Builtin.ofName? provider).toList
  | .declaration => [.text]
  | .rule => [.text]
  | .element => [.text, .internet]
  | .attributeValue _ _ => [.text, .internet]

namespace Script

variable {σ : Type} [SeededSource σ] {ps : List Builtin}

omit [SeededSource σ] in
theorem asksOnly_drawn {β : Type} (step : StateM σ β) : (drawn step).AsksOnly ps := fun _ => trivial

omit [SeededSource σ] in
theorem asksOnly_textOf {p : Builtin} (hp : p ∈ ps) (call : p.Call) : (textOf p call : Script σ String).AsksOnly ps :=
  ⟨hp, fun _ => trivial⟩

theorem asksOnly_declaration (ht : .text ∈ ps) : (declaration : Script σ String).AsksOnly ps := by
  refine (asksOnly_drawn _).bind ?_
  rintro ⟨property, kind⟩
  refine AsksOnly.bind ?_ fun value => trivial
  cases kind with
  | color => exact asksOnly_textOf ht _
  | choice values => exact asksOnly_drawn _
  | size => exact asksOnly_drawn _

theorem asksOnly_rule (ht : .text ∈ ps) : (rule : Script σ String).AsksOnly ps := by
  refine (asksOnly_textOf ht _).bind fun word => (asksOnly_drawn _).bind fun mark => ?_
  refine (asksOnly_drawn _).bind ?_
  rintro ⟨container, attributes⟩
  refine (asksOnly_drawn _).bind fun tag => (asksOnly_drawn _).bind fun base => ?_
  refine (asksOnly_drawn _).bind fun count => ?_
  exact (AsksOnly.inTurn (fun _ => asksOnly_declaration ht) _).bind fun declarations => trivial

theorem asksOnly_attributeValue (ht : .text ∈ ps) (hi : .internet ∈ ps) (kind : Markup.AttributeValue) :
    (attributeValue kind : Script σ String).AsksOnly ps := by
  cases kind with
  | choice values => exact asksOnly_drawn _
  | style => exact asksOnly_declaration ht
  | word => exact asksOnly_textOf ht _
  | url => exact asksOnly_textOf hi _

theorem asksOnly_element (ht : .text ∈ ps) (hi : .internet ∈ ps) : (element : Script σ String).AsksOnly ps := by
  refine (asksOnly_drawn _).bind ?_
  rintro ⟨tag, attributes⟩
  refine (asksOnly_drawn _).bind fun count => (asksOnly_drawn _).bind fun chosen => ?_
  have ha : ∀ entry, (assignment entry : Script σ String).AsksOnly ps := by
    rintro ⟨name, kind⟩
    exact (asksOnly_attributeValue ht hi kind).bind fun value => trivial
  exact (AsksOnly.inTurn ha chosen).bind fun rendered => (asksOnly_textOf ht _).bind fun content => trivial

theorem asksOnly_valueFor (ht : .text ∈ ps) (hi : .internet ∈ ps) (tag name : String) :
    (valueFor tag name : Script σ String).AsksOnly ps := by
  unfold valueFor
  cases Markup.containers.toList.lookup tag with
  | none => trivial
  | some attributes =>
    dsimp only
    cases attributes.toList.lookup name with
    | none => trivial
    | some kind => exact asksOnly_attributeValue ht hi kind

omit [SeededSource σ] in
theorem asksOnly_json (provider : String) (items : ℕ) :
    (json provider items : Script σ Json).AsksOnly (Builtin.ofName? provider).toList := by
  unfold json
  cases hf : Facade.documentKeys.find? fun e => e.1.name == provider with
  | none => trivial
  | some entry =>
    obtain ⟨p, key⟩ := entry
    have hb := List.find?_some hf
    obtain rfl : p.name = provider := eq_of_beq hb
    rw [Builtin.ofName?_name]
    exact ⟨List.mem_singleton_self p, fun _ => trivial⟩

/-- The script of a request asks none but the providers the request is about. -/
theorem asksOnly_targets {r : Request} {script : Script σ Json} (h : r.script? σ = some script) :
    script.AsksOnly r.targets := by
  have ht : Builtin.text ∈ [Builtin.text, .internet] := List.mem_cons_self
  have hi : Builtin.internet ∈ [Builtin.text, .internet] := List.mem_cons_of_mem _ List.mem_cons_self
  have ho : Builtin.text ∈ [Builtin.text] := List.mem_cons_self
  cases r with
  | call p c =>
    cases h
    exact ⟨List.mem_singleton_self p, fun _ => trivial⟩
  | generate provider field =>
    obtain ⟨p, hp, rfl⟩ := Option.map_eq_some_iff.mp h
    exact ⟨Option.mem_toList.mpr hp, fun _ => trivial⟩
  | fields provider =>
    obtain ⟨p, hp, rfl⟩ := Option.map_eq_some_iff.mp h
    exact ⟨Option.mem_toList.mpr hp, fun _ => trivial⟩
  | json provider items =>
    cases h
    exact asksOnly_json provider items
  | declaration =>
    cases h
    exact (asksOnly_declaration ho).bind fun _ => trivial
  | rule =>
    cases h
    exact (asksOnly_rule ho).bind fun _ => trivial
  | element =>
    cases h
    exact (asksOnly_element ht hi).bind fun _ => trivial
  | attributeValue tag name =>
    cases h
    exact (asksOnly_valueFor ht hi tag name).bind fun _ => trivial

end Script

end SampleData
