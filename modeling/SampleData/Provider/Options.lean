import SampleData.Error
import SampleData.Text.WhiteSpace

/-! # Options

The enumerated options of the generators. An option is read from any of its spellings, white space around it
and the case of ASCII letters aside; its first spelling is its name.
-/
namespace SampleData

/-- A type of options with the spellings of its members. -/
class OptionSet (α : Type) where
  label : String
  members : List α
  spellings : α → List String

namespace OptionSet

variable {α : Type} [OptionSet α]

def name (a : α) : String := (spellings a).headD ""

def normal (text : String) : String :=
  String.ofList ((Text.trim text.toList).map Char.toLower)

def ofText? (text : String) : Option α :=
  members.find? fun a => (spellings a).contains (normal text)

def parse (text : String) : Except Error α :=
  match ofText? text with
  | some a => .ok a
  | none => .error (.unsupportedOption (label α) text)

end OptionSet

inductive Gender where
  | female
  | male
  deriving DecidableEq, Repr, Inhabited

instance : OptionSet Gender where
  label := "gender"
  members := [.female, .male]
  spellings
    | .female => ["female", "f"]
    | .male => ["male", "m"]

inductive TitleKind where
  | typical
  | academic
  deriving DecidableEq, Repr, Inhabited

instance : OptionSet TitleKind where
  label := "title type"
  members := [.typical, .academic]
  spellings
    | .typical => ["typical"]
    | .academic => ["academic"]

inductive CardType where
  | visa
  | masterCard
  | americanExpress
  deriving DecidableEq, Repr, Inhabited

instance : OptionSet CardType where
  label := "card type"
  members := [.visa, .masterCard, .americanExpress]
  spellings
    | .visa => ["visa", "vi", "v"]
    | .masterCard => ["master_card", "mc", "master", "m"]
    | .americanExpress => ["american_express", "amex", "ax", "a"]

inductive HashAlgorithm where
  | md5
  | sha1
  | sha256
  | sha512
  deriving DecidableEq, Repr

instance : OptionSet HashAlgorithm where
  label := "hashing algorithm"
  members := [.md5, .sha1, .sha256, .sha512]
  spellings
    | .md5 => ["md5"]
    | .sha1 => ["sha1"]
    | .sha256 => ["sha256"]
    | .sha512 => ["sha512"]

inductive IsbnFormat where
  | isbn10
  | isbn13
  deriving DecidableEq, Repr, Inhabited

instance : OptionSet IsbnFormat where
  label := "isbn format"
  members := [.isbn10, .isbn13]
  spellings
    | .isbn10 => ["isbn-10", "isbn10"]
    | .isbn13 => ["isbn-13", "isbn13"]

inductive EanFormat where
  | ean8
  | ean13
  deriving DecidableEq, Repr

instance : Inhabited EanFormat := ⟨.ean13⟩

instance : OptionSet EanFormat where
  label := "ean format"
  members := [.ean8, .ean13]
  spellings
    | .ean8 => ["ean-8", "ean8"]
    | .ean13 => ["ean-13", "ean13"]

inductive CountryCodeFormat where
  | iso2
  | iso3
  | numeric
  deriving DecidableEq, Repr, Inhabited

instance : OptionSet CountryCodeFormat where
  label := "country code format"
  members := [.iso2, .iso3, .numeric]
  spellings
    | .iso2 => ["iso2"]
    | .iso3 => ["iso3"]
    | .numeric => ["numeric"]

inductive TemperatureScale where
  | celsius
  | fahrenheit
  deriving DecidableEq, Repr, Inhabited

instance : OptionSet TemperatureScale where
  label := "temperature scale"
  members := [.celsius, .fahrenheit]
  spellings
    | .celsius => ["c", "celsius"]
    | .fahrenheit => ["f", "fahrenheit"]

inductive FileType where
  | source
  | text
  | data
  | audio
  | video
  | image
  | executable
  | compressed
  deriving DecidableEq, Repr

instance : Inhabited FileType := ⟨.text⟩

instance : OptionSet FileType where
  label := "file type"
  members := [.source, .text, .data, .audio, .video, .image, .executable, .compressed]
  spellings
    | .source => ["source"]
    | .text => ["text"]
    | .data => ["data"]
    | .audio => ["audio"]
    | .video => ["video"]
    | .image => ["image"]
    | .executable => ["executable"]
    | .compressed => ["compressed"]

inductive HashtagCategory where
  | general
  | girls
  | love
  | boys
  | friends
  | family
  | nature
  | travel
  | cars
  | sport
  | tumblr
  deriving DecidableEq, Repr, Inhabited

instance : OptionSet HashtagCategory where
  label := "hashtag category"
  members := [.general, .girls, .love, .boys, .friends, .family, .nature, .travel, .cars, .sport,
    .tumblr]
  spellings
    | .general => ["general"]
    | .girls => ["girls"]
    | .love => ["love"]
    | .boys => ["boys"]
    | .friends => ["friends"]
    | .family => ["family"]
    | .nature => ["nature"]
    | .travel => ["travel"]
    | .cars => ["cars"]
    | .sport => ["sport"]
    | .tumblr => ["tumblr"]

inductive ImageCategory where
  | buildings
  | food
  | nature
  | people
  | technology
  | objects
  deriving DecidableEq, Repr

instance : OptionSet ImageCategory where
  label := "image category"
  members := [.buildings, .food, .nature, .people, .technology, .objects]
  spellings
    | .buildings => ["buildings"]
    | .food => ["food"]
    | .nature => ["nature"]
    | .people => ["people"]
    | .technology => ["technology"]
    | .objects => ["objects"]

end SampleData
