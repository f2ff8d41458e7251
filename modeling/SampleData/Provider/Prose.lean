import SampleData.Locale.Profile
import SampleData.Provider.Bounds
import SampleData.Provider.Options
import SampleData.Provider.Stocked

/-! # Texts

Words, sentences, quotes and colours of the locale, its alphabet, and weather reports.
-/
namespace SampleData.Prose

def domain : String := "text"

def hexDigits : List Char :=
  ['0', '1', '2', '3', '4', '5', '6', '7', '8', '9', 'A', 'B', 'C', 'D', 'E', 'F']

variable {σ : Type} [WordSource σ]

def alphabet {s : Type} (b : Bundle) (small : Bool) : Gen s (List String) :=
  match b.strings (if small then "alphabet.lowercase" else "alphabet.uppercase") with
  | .ok letters => pure letters
  | .error fault => throw (.invalidBundle fault)

def text (b : Bundle) (quantity : Nat) : Gen σ String := do
  return " ".intercalate (← Random.times quantity (b.pick "text"))

def sentence (b : Bundle) : Gen σ String := text b 1

def words (b : Bundle) (quantity : Nat) : Gen σ (List String) :=
  Random.times quantity (b.pick "words")

def word (b : Bundle) : Gen σ String := b.pick "words"

def hexColor : StateM σ String := do
  return String.ofList ('#' :: (← Random.chooseSome hexDigits 6))

def weather (scale : TemperatureScale) (lower upper : Int32) : Gen σ String := do
  Gen.accept (Bounds.whole "temperature" lower.toInt upper.toInt)
  let celsius := Float.ofInt (← Gen.draw (Random.signed lower upper)).toInt
  return match scale with
    | .celsius => Decimal.fixed 1 celsius ++ " °C"
    | .fahrenheit => Decimal.fixed 1 (celsius * 1.8 + 32.0) ++ " °F"

inductive Call where
  | alphabet (small : Bool)
  | level
  | text (quantity : Nat)
  | sentence
  | title
  | words (quantity : Nat)
  | word
  | swearWord
  | quote
  | color
  | hexColor
  | weather (scale : TemperatureScale) (lower upper : Int32)
  | answer
  | describe
  | locale

def perform (b : Bundle) : Call → Gen σ Json
  | .alphabet small => (alphabet b small).texts
  | .level => (b.pick "level").text
  | .text quantity => (text b quantity).text
  | .sentence => (sentence b).text
  | .title => (sentence b).text
  | .words quantity => (words b quantity).texts
  | .word => (word b).text
  | .swearWord => (b.pick "swear_words").text
  | .quote => (b.pick "quotes").text
  | .color => (b.pick "color").text
  | .hexColor => (Gen.draw hexColor).text
  | .weather scale lower upper => (weather scale lower upper).text
  | .answer => (b.pick "answers").text
  | .describe => pure (.str (Locale.describe "Text" b.locale))
  | .locale => pure (.str b.locale)

def fields : List (String × Call) :=
  [("alphabet", .alphabet false),
   ("answer", .answer),
   ("color", .color),
   ("hex_color", .hexColor),
   ("level", .level),
   ("quote", .quote),
   ("sentence", .sentence),
   ("swear_word", .swearWord),
   ("text", .text 5),
   ("title", .title),
   ("weather", .weather .celsius (-30) 40),
   ("word", .word),
   ("words", .words 5)]

end SampleData.Prose
