import SampleData.Facade

/-! # Style and markup snippets

Style rules and markup elements. Their own choices come from the markup stream of the facade; words, sentences
and colours come from its text provider and links from its internet provider, which move on as for any other
call.
-/
namespace SampleData.Markup

inductive StyleValue where
  | choice (values : Table String)
  | color
  | size

inductive AttributeValue where
  | choice (values : Table String)
  | style
  | word
  | url

def selectorMarks : Table String := ⟨".", ["#"]⟩

def sizeUnits : Table String :=
  ⟨"cm", ["em", "ex", "in", "mm", "pc", "pt", "px", "%"]⟩

def properties : Table (String × StyleValue) :=
  ⟨("background-color", .color),
   [("border-color", .color),
    ("color", .color),
    ("cursor", .choice ⟨"crosshair", ["default", "help", "pointer", "text"]⟩),
    ("display", .choice ⟨"block", ["flex", "inline", "inline-block", "none"]⟩),
    ("float", .choice ⟨"left", ["none", "right"]⟩),
    ("font-size", .size),
    ("font-weight", .choice ⟨"bold", ["bolder", "lighter", "normal"]⟩),
    ("height", .size),
    ("margin-left", .size),
    ("padding-right", .size),
    ("text-align", .choice ⟨"center", ["justify", "left", "right"]⟩),
    ("width", .size)]⟩

def markupTags : Table String :=
  ⟨"b", ["em", "i", "small", "strong", "sub", "sup"]⟩

def blockAttributes : Table (String × AttributeValue) :=
  ⟨("class", .word), [("id", .word), ("style", .style)]⟩

def linkAttributes : Table (String × AttributeValue) :=
  ⟨("href", .url),
   [("hreflang", .choice ⟨"de", ["en", "ru"]⟩),
    ("media", .choice ⟨"all", ["print", "screen"]⟩),
    ("rel", .choice ⟨"alternate", ["author", "bookmark", "help", "nofollow"]⟩),
    ("target", .choice ⟨"_blank", ["_parent", "_self", "_top"]⟩),
    ("type", .choice ⟨"text/html", []⟩)]⟩

def containers : Table (String × Table (String × AttributeValue)) :=
  ⟨("a", linkAttributes), [("div", blockAttributes), ("p", blockAttributes), ("span", blockAttributes)]⟩

def greatestCount : UInt32 := 6

variable {σ ι : Type} [SeededSource σ]

def draw {α : Type} (step : StateM σ α) : Facade.Step σ ι α :=
  Gen.onFirst (Gen.focus Facade.markup (fun f w => { f with markup := w }) (Gen.draw step))

def prose (step : Bundle → Gen σ String) : Facade.Step σ ι String :=
  Facade.onProvider .text (Gen.onFirst (Stocked.onWords step))

def size : StateM σ String := do
  let amount ← Random.unsigned 1 99
  return toString amount.toNat ++ (← Random.choose sizeUnits)

def styleValue : StyleValue → Facade.Step σ ι String
  | .choice values => draw (Random.choose values)
  | .color => prose fun _ => Gen.draw Prose.hexColor
  | .size => draw size

def declaration : Facade.Step σ ι String := do
  let (property, kind) ← draw (Random.choose properties)
  return property ++ ": " ++ (← styleValue kind)

/-- A rule of one to six declarations on a tag, a class or an identifier. All three candidates for the
selector are drawn before one is taken. -/
def rule : Facade.Step σ ι String := do
  let word ← prose Prose.word
  let mark ← draw (Random.choose selectorMarks)
  let (container, _) ← draw (Random.choose containers)
  let tag ← draw (Random.choose markupTags)
  let base ← draw (Random.index 3)
  let selector := if base = 0 then container else if base = 1 then tag else mark ++ word
  let count ← draw (Random.unsigned 1 greatestCount)
  let declarations ← Random.times count.toNat declaration
  return selector ++ " \x7b" ++ "; ".intercalate declarations ++ "\x7d"

def attributeValue : AttributeValue → Facade.Step σ ι String
  | .choice values => draw (Random.choose values)
  | .style => declaration
  | .word => prose Prose.word
  | .url => Facade.onProvider .internet (Gen.onFirst (Stocked.onWords (Internet.homePage · .female)))

def element : Facade.Step σ ι String := do
  let (tag, attributes) ← draw (Random.choose containers)
  let count ← draw (Random.unsigned 1 (UInt32.ofNat attributes.toList.length))
  let chosen ← draw (Random.chooseSome attributes.toList count.toNat)
  let rendered ← chosen.mapM fun (name, kind) => do
    return name ++ "=\"" ++ (← attributeValue kind) ++ "\""
  let content ← prose Prose.sentence
  return "<" ++ tag ++ " " ++ " ".intercalate rendered ++ ">" ++ content ++ "</" ++ tag ++ ">"

def valueFor (tag name : String) : Facade.Step σ ι String :=
  match containers.toList.lookup tag with
  | none => throw (.unsupportedOption "html tag" tag)
  | some attributes =>
    match attributes.toList.lookup name with
    | none => throw (.unsupportedOption "html attribute" name)
    | some kind => attributeValue kind

end SampleData.Markup
