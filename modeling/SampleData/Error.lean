import SampleData.Decimal.Text

/-! # What can go wrong

An error names its cause; `Error.kind` sorts the causes, `Error.detail` words them and `Error.message`
is the full sentence. Bounds are quoted as they were given, doubles in their shortest digits.
-/
namespace SampleData

inductive Bound where
  | whole (n : Int)
  | real (x : Float)

def Bound.text : Bound → String
  | .whole n => toString n
  | .real x => Decimal.plain x

inductive InputFault where
  | luhnEmpty
  | luhnNonDigit (number : String) (found : Char)
  | groupSizes (number : String) (sizes : List Nat)
  | samePlaceholders (symbol : Char)
  | lettersInDigitMask (mask : String)
  | digitCount (mask : String) (found expected : Nat)
  | reversedBounds (what : String) (lower upper : Bound)
  | unboundedReals (what : String) (lower upper : Float)
  | foundingYears (lower upper : UInt32)
  | streetNumbers
  | notADate (year : Int) (month day : Nat)
  | notATime
  | unrenderable (layout : String)
  | tooManyReals (exponent limit : Nat)
  | primesTooFar (stop limit : Nat)

/-- `n` in decimal with at least `width` characters, the sign included. -/
def padded (width : Nat) (n : Int) : String :=
  let sign := if n < 0 then ['-'] else []
  let digits := Nat.toDigits 10 n.natAbs
  String.ofList (sign ++ List.replicate (width - sign.length - digits.length) '0' ++ digits)

def InputFault.detail : InputFault → String
  | .luhnEmpty => "luhn input must not be empty"
  | .luhnNonDigit number found => s!"luhn input '{number}' contains non-digit '{found}'"
  | .groupSizes number sizes =>
    s!"cannot split '{number}' into groups [" ++ ", ".intercalate (sizes.map toString)
      ++ s!"]: expected {sizes.foldr (· + ·) 0} characters"
  | .samePlaceholders symbol =>
    s!"letter and digit placeholders must differ, both are '{symbol}'"
  | .lettersInDigitMask mask =>
    s!"mask '{mask}' contains letter placeholders where only digits are allowed"
  | .digitCount mask found expected =>
    s!"mask '{mask}' has {found} digit placeholders, expected {expected}"
  | .reversedBounds what lower upper =>
    what ++ ": minimum " ++ lower.text ++ " must be <= maximum " ++ upper.text
  | .unboundedReals what lower upper =>
    what ++ ": bounds must be finite, got " ++ Decimal.plain lower ++ " and " ++ Decimal.plain upper
  | .foundingYears lower upper => s!"copyright: minimum {lower} must be < maximum {upper}"
  | .streetNumbers => "street number maximum must be at least 1"
  | .notADate year month day =>
    padded 4 year ++ "-" ++ padded 2 month ++ "-" ++ padded 2 day ++ " is not a date"
  | .notATime => "generated time out of range"
  | .unrenderable layout => s!"cannot render with format '{layout}'"
  | .tooManyReals exponent limit => s!"floats: exponent {exponent} exceeds {limit}"
  | .primesTooFar stop limit => s!"primes: end {stop} exceeds {limit}"

inductive NameFault where
  | notAnIdentifier (name typePath : String)
  | builtIn (name : String)

def NameFault.detail : NameFault → String
  | .notAnIdentifier name typePath => s!"'{name}' (from {typePath}) is not a valid provider name"
  | .builtIn name => s!"'{name}' is a built-in provider name"

inductive Shape where
  | string
  | list
  | stringList

def Shape.text : Shape → String
  | .string => "a string"
  | .list => "a list"
  | .stringList => "a list of strings"

inductive BundleFault where
  | notJson (locale domain : String)
  | notAnObject (locale domain : String)
  | missingKey (path locale domain : String)
  | wrongShape (path locale domain : String) (expected : Shape)
  | emptyList (path locale domain : String)
  | unclosedPlaceholder (template locale : String)
  | unknownPlaceholder (name locale : String)
  | notAnElement (entry locale : String)

def BundleFault.detail : BundleFault → String
  | .notJson locale domain => s!"{locale}/{domain}.json is not valid json"
  | .notAnObject locale domain => s!"{locale}/{domain}.json must be a json object"
  | .missingKey path locale domain => s!"missing key '{path}' in {locale}/{domain}"
  | .wrongShape path locale domain expected =>
    s!"key '{path}' in {locale}/{domain} must be " ++ expected.text
  | .emptyList path locale domain => s!"{path} is empty in {locale}/{domain}"
  | .unclosedPlaceholder template locale =>
    s!"unclosed placeholder in address_fmt '{template}' for {locale}"
  | .unknownPlaceholder name locale =>
    "unknown placeholder '\x7b" ++ name ++ s!"\x7d' in address_fmt for {locale}"
  | .notAnElement entry locale =>
    s!"element entry '{entry}' in {locale}/science is not Name|Symbol|Number"

/-- Everything a call can fail with. `io` is a source that cannot be read. -/
inductive Error where
  | resourceNotFound (domain locale : String)
  | invalidInput (fault : InputFault)
  | invalidProvider (fault : NameFault)
  | unsupportedOption (option value : String)
  | invalidBundle (fault : BundleFault)
  | unsupportedLocale (locale : String)
  | io

namespace Error

inductive Kind where
  | resourceNotFound
  | invalidInput
  | invalidProvider
  | unsupportedOption
  | invalidBundle
  | unsupportedLocale
  | io
  deriving DecidableEq, Repr

def kind : Error → Kind
  | .resourceNotFound .. => .resourceNotFound
  | .invalidInput _ => .invalidInput
  | .invalidProvider _ => .invalidProvider
  | .unsupportedOption .. => .unsupportedOption
  | .invalidBundle _ => .invalidBundle
  | .unsupportedLocale _ => .unsupportedLocale
  | .io => .io

/-- The error in words. What the operating system says about a source is not part of it. -/
def message : Error → String
  | .resourceNotFound domain locale => s!"resource not found: {domain} for locale '{locale}'"
  | .invalidInput fault => "invalid input: " ++ fault.detail
  | .invalidProvider fault => "invalid provider: " ++ fault.detail
  | .unsupportedOption option value => s!"unsupported {option}: '{value}'"
  | .invalidBundle fault => "invalid bundle: " ++ fault.detail
  | .unsupportedLocale locale => s!"unsupported locale: no romanization for '{locale}'"
  | .io => "io error"

end Error

end SampleData
