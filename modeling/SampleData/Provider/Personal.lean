import SampleData.Checksum
import SampleData.Digest.Md5
import SampleData.Digest.Sha1
import SampleData.Digest.Sha256
import SampleData.Digest.Sha512
import SampleData.Locale.Profile
import SampleData.Mask
import SampleData.Provider.Bounds
import SampleData.Provider.Options
import SampleData.Random.Real
import SampleData.Slot
import SampleData.Store
import SampleData.Text.Lowercase

/-! # Personal data

Names, contacts, payment cards, and the attributes that derive from an age. The age is remembered: the
number of children and the years of work depend on the stored age and establish one only where none is
stored. User names are made of English names whatever the locale, and load the English bundle when they are
asked for.
-/
namespace SampleData

structure Personal (σ : Type) where
  bundle : Bundle
  words : σ
  storedAge : Slot UInt32

namespace Personal

def domain : String := "personal"

def leastAge : UInt32 := 16

def greatestAge : UInt32 := 66

def adultAge : UInt32 := 18

def bloodGroups : Table String :=
  ⟨"O+", ["A+", "B+", "AB+", "O-", "A-", "B-", "AB-"]⟩

def emailDomains : Table String :=
  ⟨"@example.com", ["@example.org", "@example.net", "@mail.test", "@inbox.test"]⟩

def englishLevels : Table String :=
  ⟨"Beginner", ["Elementary", "Pre - Intermediate", "Intermediate", "Upper Intermediate",
   "Advanced", "Proficiency"]⟩

def musicGenres : Table String :=
  ⟨"Ambient", ["Blues", "Classical", "Country", "Drum and bass", "Electronic", "Folk", "Hip hop",
   "Jazz", "Metal", "Pop", "Punk", "Reggae", "Rock", "Soul", "Techno"]⟩

def genderSymbols : Table String :=
  ⟨"♂", ["♀", "⚲"]⟩

def orientationSymbols : Table String :=
  ⟨"⚤", ["⚢", "⚣", "⚥", "⚧", "⚪"]⟩

def charsFrom (first : Char) (count : Nat) : List Char :=
  (List.range count).map fun i => Char.ofNat (first.toNat + i)

def alphanumeric : Table Char :=
  ⟨'a', charsFrom 'b' 25 ++ charsFrom 'A' 26 ++ charsFrom '0' 10⟩

def printable : Table Char :=
  ⟨'a', alphanumeric.rest ++ charsFrom '!' 15 ++ charsFrom ':' 7 ++ charsFrom '[' 6
    ++ charsFrom '\x7b' 4⟩

variable {σ : Type} [WordSource σ]

def usernameFrom (names : Bundle) (gender : Gender) : Gen σ String := do
  let name ← names.pick ("names." ++ OptionSet.name gender)
  let suffix ← Gen.draw (Random.unsigned 2 9999)
  return Text.lower name ++ toString suffix.toNat

def emailFrom (names : Bundle) (gender : Gender) : Gen σ String := do
  let user ← usernameFrom names gender
  return user ++ (← Gen.draw (Random.choose emailDomains))

def digestOf : HashAlgorithm → List UInt8 → List UInt8
  | .md5 => Digest.Md5.digest
  | .sha1 => Digest.Sha1.digest
  | .sha256 => Digest.Sha256.digest
  | .sha512 => Digest.Sha512.digest

/-- Random printable characters, or their digest in hexadecimal. -/
def password (length : Nat) (algorithm : Option HashAlgorithm) : StateM σ String := do
  let text := String.ofList (← Random.times length (Random.choose printable))
  match algorithm with
  | none => return text
  | some a => return Digest.hex (digestOf a text.toUTF8.data.toList)

/-- A text in the shape of an address: `1` or `3` and 33 letters and digits. -/
def bitcoin : StateM σ String := do
  let first := if ← Random.coin then '1' else '3'
  return String.ofList (first :: (← Random.times 33 (Random.choose alphanumeric)))

def issuer : CardType → StateM σ UInt32
  | .visa => Random.unsigned 4000 4999
  | .masterCard => do
    if ← Random.coin then Random.unsigned 2221 2720 else Random.unsigned 5100 5500
  | .americanExpress => do
    return if ← Random.coin then 34 else 37

def cardDigits : CardType → Nat
  | .visa => 16
  | .masterCard => 16
  | .americanExpress => 15

def cardGroups : CardType → List Nat
  | .visa => [4, 4, 4, 4]
  | .masterCard => [4, 4, 4, 4]
  | .americanExpress => [4, 6, 5]

def creditCardNumber (card : CardType) : Gen σ String := do
  let issued := (toString (← Gen.draw (issuer card)).toNat).toList
  let random ← Gen.draw (Random.times (cardDigits card - 1 - issued.length)
    (do return Text.digitChar (← Random.index 10)))
  let number ← Gen.accept (Luhn.append (String.ofList (issued ++ random)))
  Gen.accept (groupDigits number (cardGroups card))

/-- Month and year; the years are as the caller writes them. -/
def creditCardExpirationDate (lower upper : UInt32) : Gen σ String := do
  Gen.accept (Bounds.whole "expiration year" lower.toNat upper.toNat)
  let month ← Gen.draw (Random.unsigned 1 12)
  let year ← Gen.draw (Random.unsigned lower upper)
  return padded 2 month.toNat ++ "/" ++ toString year.toNat

def cvv : StateM σ UInt32 := Random.unsigned 100 999

def cid : StateM σ UInt32 := Random.unsigned 1000 9999

def avatar (size : UInt32) : StateM σ String := do
  let key ← password 8 (some .md5)
  return "https://api.adorable.io/avatars/" ++ toString size.toNat ++ "/" ++ key ++ ".png"

def identifier (mask : Option String) : StateM σ String := Mask.expand (mask.getD "##-##/##")

def bloodType : StateM σ String := Random.choose bloodGroups

def favoriteMusicGenre : StateM σ String := Random.choose musicGenres

def levelOfEnglish : StateM σ String := Random.choose englishLevels

def height (lower upper : Float) : Gen σ String := do
  Gen.accept (Bounds.real "height" lower upper)
  let metres ← if lower == upper then pure lower else Gen.draw (Random.real lower upper)
  return Decimal.fixed 2 metres

def weight (lower upper : UInt32) : Gen σ UInt32 := do
  Gen.accept (Bounds.whole "weight" lower.toNat upper.toNat)
  Gen.draw (Random.unsigned lower upper)

def name (b : Bundle) (gender : Gender) : Gen σ String :=
  b.pick ("names." ++ OptionSet.name gender)

/-- The path of a list that a bundle may split by gender. -/
def genderedPath {s : Type} (b : Bundle) (key : String) (gender : Gender) : Gen s String :=
  match b.require key with
  | .ok (.object _) => pure (key ++ "." ++ OptionSet.name gender)
  | .ok _ => pure key
  | .error fault => throw (.invalidBundle fault)

def surname (b : Bundle) (gender : Gender) : Gen σ String := do
  b.pick (← genderedPath b "surnames" gender)

def fullName (b : Bundle) (gender : Gender) (reverse : Bool) : Gen σ String := do
  let first ← name b gender
  let last ← surname b gender
  return if reverse then last ++ " " ++ first else first ++ " " ++ last

def title (b : Bundle) (gender : Gender) (kind : TitleKind) : Gen σ String :=
  b.pick ("title." ++ OptionSet.name gender ++ "." ++ OptionSet.name kind)

def genderText (b : Bundle) (symbol : Bool) : Gen σ String :=
  if symbol then Gen.draw (Random.choose genderSymbols) else b.pick "gender"

def sexualOrientation (b : Bundle) (symbol : Bool) : Gen σ String :=
  if symbol then Gen.draw (Random.choose orientationSymbols) else b.pick "sexuality"

def nationality (b : Bundle) (gender : Gender) : Gen σ String := do
  b.pick (← genderedPath b "nationality" gender)

/-- A telephone number from the given mask or one of the locale's. `placeholder` is the digit symbol. -/
def telephone (b : Bundle) (mask : Option String) (placeholder : Char) : Gen σ String := do
  let symbols ← Gen.accept (Placeholders.withDigit placeholder)
  let template ← match mask with
    | some mask => pure mask
    | none =>
      if (b.get? "telephone_fmt").isSome then b.pick "telephone_fmt"
      else pure "+#-(###)-###-####"
  Gen.draw (Mask.expandWith symbols template)

def age (lower upper : UInt32) : Gen (Personal σ) UInt32 := do
  Gen.accept (Bounds.whole "age" lower.toNat upper.toNat)
  Gen.focus words (fun p w => { p with words := w }) (Gen.draw (Random.unsigned lower upper))
    >>= fun n => Gen.focus storedAge (fun p a => { p with storedAge := a }) (Gen.draw (Slot.store n))

/-- The stored age; one is established where none is. -/
def currentAge : Gen (Personal σ) UInt32 := do
  match (← get).storedAge with
  | .holding n => return n
  | .unset => age leastAge greatestAge

/-- None below adulthood, and at most `limit`. -/
def childCount (limit : UInt32) : Gen (Personal σ) UInt32 := do
  let n ← currentAge
  if n < adultAge then return 0
  else Gen.focus words (fun p w => { p with words := w }) (Gen.draw (Random.unsigned 0 limit))

def workExperience (start : UInt32) : Gen (Personal σ) UInt32 := do
  let n ← currentAge
  return if n < start then 0 else n - start

inductive Call where
  | age (lower upper : UInt32)
  | storedAge
  | childCount (limit : UInt32)
  | workExperience (start : UInt32)
  | name (gender : Gender)
  | surname (gender : Gender)
  | fullName (gender : Gender) (reverse : Bool)
  | title (gender : Gender) (kind : TitleKind)
  | username (gender : Gender)
  | password (length : Nat) (algorithm : Option HashAlgorithm)
  | email (gender : Gender)
  | paypal (gender : Gender)
  | bitcoin
  | creditCardNumber (card : CardType)
  | creditCardExpirationDate (lower upper : UInt32)
  | cvv
  | cid
  | gender (symbol : Bool)
  | sexualOrientation (symbol : Bool)
  | politicalViews
  | worldview
  | viewsOn
  | favoriteMovie
  | favoriteMusicGenre
  | levelOfEnglish
  | avatar (size : UInt32)
  | occupation
  | nationality (gender : Gender)
  | university
  | academicDegree
  | language
  | telephone (mask : Option String) (placeholder : Char)
  | identifier (mask : Option String)
  | bloodType
  | height (lower upper : Float)
  | weight (lower upper : UInt32)
  | describe
  | locale

def onWords {α : Type} (step : Bundle → Gen σ α) : Gen (Personal σ) α := fun p =>
  Gen.focus words (fun p w => { p with words := w }) (step p.bundle) p

def textOf (step : Bundle → Gen σ String) : Gen (Personal σ × Store) Json :=
  Gen.onFirst (Json.str <$> onWords step)

def numberOf (step : Gen (Personal σ) UInt32) : Gen (Personal σ × Store) Json :=
  Gen.onFirst ((fun n => Json.int n.toNat) <$> step)

def withEnglish (step : Bundle → Gen σ String) : Gen (Personal σ × Store) Json := do
  let english ← Gen.onSecond (Store.load domain Locale.standard)
  textOf fun _ => step english

def perform : Call → Gen (Personal σ × Store) Json
  | .age lower upper => numberOf (age lower upper)
  | .storedAge => Gen.onFirst do
    match (← get).storedAge with
    | .holding n => return .int n.toNat
    | .unset => return .null
  | .childCount limit => numberOf (childCount limit)
  | .workExperience start => numberOf (workExperience start)
  | .name gender => textOf (name · gender)
  | .surname gender => textOf (surname · gender)
  | .fullName gender reverse => textOf (fullName · gender reverse)
  | .title gender kind => textOf (title · gender kind)
  | .username gender => withEnglish (usernameFrom · gender)
  | .password length algorithm => textOf fun _ => Gen.draw (password length algorithm)
  | .email gender => withEnglish (emailFrom · gender)
  | .paypal gender => withEnglish (emailFrom · gender)
  | .bitcoin => textOf fun _ => Gen.draw bitcoin
  | .creditCardNumber card => textOf fun _ => creditCardNumber card
  | .creditCardExpirationDate lower upper => textOf fun _ => creditCardExpirationDate lower upper
  | .cvv => numberOf (onWords fun _ => Gen.draw cvv)
  | .cid => numberOf (onWords fun _ => Gen.draw cid)
  | .gender symbol => textOf (genderText · symbol)
  | .sexualOrientation symbol => textOf (sexualOrientation · symbol)
  | .politicalViews => textOf (·.pick "political_views")
  | .worldview => textOf (·.pick "worldview")
  | .viewsOn => textOf (·.pick "views_on")
  | .favoriteMovie => textOf (·.pick "favorite_movie")
  | .favoriteMusicGenre => textOf fun _ => Gen.draw favoriteMusicGenre
  | .levelOfEnglish => textOf fun _ => Gen.draw levelOfEnglish
  | .avatar size => textOf fun _ => Gen.draw (avatar size)
  | .occupation => textOf (·.pick "occupation")
  | .nationality gender => textOf (nationality · gender)
  | .university => textOf (·.pick "university")
  | .academicDegree => textOf (·.pick "academic_degree")
  | .language => textOf (·.pick "language")
  | .telephone mask placeholder => textOf (telephone · mask placeholder)
  | .identifier mask => textOf fun _ => Gen.draw (identifier mask)
  | .bloodType => textOf fun _ => Gen.draw bloodType
  | .height lower upper => textOf fun _ => height lower upper
  | .weight lower upper => numberOf (onWords fun _ => weight lower upper)
  | .describe => textOf fun b => pure (Locale.describe "Personal" b.locale)
  | .locale => textOf fun b => pure b.locale

def fields : List (String × Call) :=
  [("age", .age leastAge greatestAge),
   ("child_count", .childCount 5),
   ("work_experience", .workExperience 22),
   ("name", .name .female),
   ("surname", .surname .female),
   ("full_name", .fullName .female false),
   ("title", .title .female .typical),
   ("username", .username .female),
   ("password", .password 8 none),
   ("email", .email .female),
   ("credit_card_number", .creditCardNumber .visa),
   ("credit_card_expiration_date", .creditCardExpirationDate 16 25),
   ("cvv", .cvv),
   ("cid", .cid),
   ("gender", .gender false),
   ("occupation", .occupation),
   ("nationality", .nationality .female),
   ("university", .university),
   ("academic_degree", .academicDegree),
   ("language", .language),
   ("telephone", .telephone none '#'),
   ("identifier", .identifier none),
   ("blood_type", .bloodType),
   ("bitcoin", .bitcoin),
   ("paypal", .paypal .female),
   ("sexual_orientation", .sexualOrientation false),
   ("political_views", .politicalViews),
   ("worldview", .worldview),
   ("views_on", .viewsOn),
   ("favorite_movie", .favoriteMovie),
   ("favorite_music_genre", .favoriteMusicGenre),
   ("level_of_english", .levelOfEnglish),
   ("avatar", .avatar 256),
   ("height", .height 1.5 2.0),
   ("weight", .weight 38 90)]

end Personal

end SampleData
